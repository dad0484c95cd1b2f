import GridQuery.Moment
import GridQuery.Number.Basic

/-!
Cells: the typed values that rows hold and expressions yield.
-/

namespace GridQuery

inductive CellType where
  | string
  | number
  | boolean
  | date
  | null
  deriving DecidableEq, Repr

def CellType.name : CellType → String
  | string => "string"
  | number => "number"
  | boolean => "boolean"
  | date => "date"
  | null => "null"

inductive Cell where
  | null
  | text (content : String)
  | number (value : Number)
  | boolean (flag : Bool)
  | date (moment : Moment)
  deriving DecidableEq, Inhabited

namespace Cell

def type : Cell → CellType
  | null => .null
  | text _ => .string
  | number _ => .number
  | boolean _ => .boolean
  | date _ => .date

def int (value : Int) : Cell :=
  number (.int value)

def isNull : Cell → Bool
  | null => true
  | _ => false

/-- Null and the empty text are blank. -/
def isBlank : Cell → Bool
  | null => true
  | text content => content.isEmpty
  | _ => false

/-- Whether two cells have one type and one value, whatever the kinds of two numbers. -/
def sameValue : Cell → Cell → Bool
  | null, null => true
  | text left, text right => left == right
  | number left, number right => left.sameValue right
  | boolean left, boolean right => left == right
  | date left, date right => left == right
  | _, _ => false

/-- The most frequent type of the cells that are not blank; text if there is none or if
several are equally frequent. -/
def majorityType (cells : List Cell) : CellType :=
  let types := (cells.filter (!·.isBlank)).map type
  let best := types.foldl (fun best kind => max best (types.count kind)) 0
  match (types.filter fun kind => types.count kind == best).eraseDups with
  | [winner] => winner
  | _ => .string

end Cell

end GridQuery

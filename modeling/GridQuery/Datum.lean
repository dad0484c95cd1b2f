import GridQuery.Cell

/-!
Raw data: what tables hold before it is typed, what query responses carry and what JSON
texts stand for.
-/

namespace GridQuery

inductive Datum where
  | null
  | boolean (flag : Bool)
  | number (value : Number)
  | text (content : String)
  | day (date : Day)
  | moment (value : Moment)
  /-- A value that has its type already. -/
  | cell (value : Cell)
  | list (items : List Datum)
  /-- Fields in the order of their first appearance, no two of one name. -/
  | record (fields : List (String × Datum))
  deriving Inhabited

namespace Datum

def int (value : Int) : Datum :=
  number (.int value)

def field? (name : String) : Datum → Option Datum
  | record fields => fields.lookup name
  | _ => none

def isNull : Datum → Bool
  | null => true
  | _ => false

/-- Null and the empty text leave a place of a range empty. -/
def isEmptyPlace : Datum → Bool
  | null => true
  | text content => content.isEmpty
  | _ => false

/-- A field set in a record: in its place if it is there, at the end if not. -/
def setField (name : String) (value : α) : List (String × α) → List (String × α)
  | [] => [(name, value)]
  | (key, old) :: rest =>
      if key == name then (name, value) :: rest
      else (key, old) :: setField name value rest

/-- The fields of pairs set one after another. -/
def ofFields (fields : List (String × α)) : List (String × α) :=
  fields.foldl (fun done (name, value) => setField name value done) []

end Datum

end GridQuery

import GridQuery.Cell.View

/-!
Three ways to set cells beside each other: comparison, which converts one side to the
type of the other and may fail to match; the order of sorting, which is total across
types; and the keys under which a join finds equal cells.
-/

namespace GridQuery.Cell

def orderViews (compareViews : α → α → Ordering) (left right : Option α) :
    Option Ordering :=
  match left, right with
  | some left, some right => some (compareViews left right)
  | _, _ => none

/-- The order of two cells that are not null, in the type of the side that comes first
among date, number, boolean and text; none if the other side does not convert. -/
def order (left right : Cell) : Except DataFault (Option Ordering) := do
  let either (kind : CellType) := left.type == kind || right.type == kind
  if either .date then
    let leftDate ← left.asDate?
    return orderViews Moment.order leftDate (← right.asDate?)
  else if either .number then
    let leftNumber ← left.asNumber?
    return orderViews Number.order leftNumber (← right.asNumber?)
  else if either .boolean then
    return orderViews compare left.asBoolean? right.asBoolean?
  else
    match left, right with
    | text leftText, text rightText => return some (compare leftText rightText)
    | _, _ => return none

end GridQuery.Cell

namespace GridQuery

inductive Comparison where
  | eq
  | neq
  | lt
  | lte
  | gt
  | gte
  deriving DecidableEq, Repr

namespace Comparison

def accepts (comparison : Comparison) (ordering : Ordering) : Bool :=
  match comparison with
  | eq => ordering == .eq
  | neq => ordering != .eq
  | lt => ordering == .lt
  | lte => ordering != .gt
  | gt => ordering == .gt
  | gte => ordering != .lt

/-- Whether two cells satisfy a comparison. Null equals null alone and is in no order, and
cells that do not convert to one type satisfy no comparison. -/
def holds (comparison : Comparison) (left right : Cell) : Except DataFault Bool :=
  if left.isNull || right.isNull then
    .ok (match comparison with
      | eq => left.isNull && right.isNull
      | neq => left.isNull != right.isNull
      | _ => false)
  else
    (left.order right).map fun
      | some ordering => comparison.accepts ordering
      | none => false

end Comparison

/-- A place in the order of sorting: null, booleans, numbers, dates, texts. A text that
reads as a number stands among the numbers. -/
inductive SortKey where
  | null
  | boolean (flag : Bool)
  | number (value : Number)
  | date (stamp : Moment)
  | text (content : String)
  deriving DecidableEq

namespace SortKey

def level : SortKey → Nat
  | null => 0
  | boolean _ => 1
  | number _ => 2
  | date _ => 3
  | text _ => 4

def order : SortKey → SortKey → Ordering
  | boolean left, boolean right => compare left right
  | number left, number right => left.order right
  | date left, date right => left.order right
  | text left, text right => compare left right
  | left, right => compare left.level right.level

end SortKey

def Cell.sortKey : Cell → Except DataFault SortKey
  | null => .ok .null
  | boolean flag => .ok (.boolean flag)
  | number value => .ok (.number value)
  | date stamp => .ok (.date stamp)
  | text content =>
      (Number.read content).map fun
        | some value => .number value
        | none => .text content

/-- What a join finds a cell by. Texts are found by the number or date that they read
as. -/
inductive MatchKey where
  | boolean (flag : Bool)
  | number (value : Number)
  | date (stamp : Moment)
  | text (content : String)
  deriving DecidableEq

/-- Whether two keys find each other, whatever the kinds of two numbers. -/
def MatchKey.meets : MatchKey → MatchKey → Bool
  | boolean left, boolean right => left == right
  | number left, number right => left.sameValue right
  | date left, date right => left == right
  | text left, text right => left == right
  | _, _ => false

/-- The key of a cell; a blank cell has none. -/
def Cell.matchKey? (cell : Cell) : Except DataFault (Option MatchKey) := do
  if cell.isBlank then return none
  match cell with
  | boolean flag => return some (.boolean flag)
  | _ =>
      if let some value ← cell.asNumber? then return some (.number value)
      if let some stamp ← cell.asDate? then return some (.date stamp)
      match cell with
      | text content => return some (.text content)
      | _ => return none

end GridQuery

import GridQuery.Datum.Access
import GridQuery.Result
import GridQuery.Statement

/-!
The answer of a grid to a query in its own language: a table of typed columns and of
cells, each with a value and a formatted text.
-/

namespace GridQuery.Native

/-- The whole number of a value of a time of day; a fraction is cut off. -/
def wholeNumber : Datum → Except DataFault Int
  | .number (.int value) => .ok value
  | .number (.float (.finite negative code)) =>
      let whole := (Double.magnitude code / Double.unitsPerOne : Nat)
      .ok (if negative then -(whole : Int) else whole)
  | .number (.float .nan) => .error .notNumeral
  | .number (.float (.infinite _)) => .error .outOfRange
  | .boolean flag => .ok (if flag then 1 else 0)
  | _ => .error .wrongShape

/-- A whole number with at least two characters, its sign included. -/
def clockPart (value : Int) : String :=
  if value < 0 then Text.ofInt value else Text.zeroPadded 2 value.toNat

/-- The cell of a value in a column of a type that the grid names. -/
def cellOf (type : String) (value : Datum) : Except DataFault Cell := do
  match value with
  | .text content =>
      if type == "date" || type == "datetime" then
        match ← Moment.read content with
        | some moment => return .date moment
        | none => return .text content
      else return .text content
  | .list parts =>
      if type == "timeofday" then
        let numbers ← (parts.take 3).mapM wholeNumber
        return .text (Text.joined ":" (numbers.map clockPart))
      else return Cell.ofDatum value
  | _ => return Cell.ofDatum value

def cellType (name : String) : CellType :=
  match name with
  | "number" => .number
  | "boolean" => .boolean
  | "date" => .date
  | "datetime" => .date
  | _ => .string

/-- The id that the grid gives the column of an expression. -/
def columnId? : Expr → Option String
  | .column reference => some reference.name
  | .aggregate function (.column reference) => some (function.name ++ "-" ++ reference.name)
  | _ => none

def formattedIds (query : SelectQuery) : List String :=
  (query.formats.filterMap fun (expr, _) => columnId? expr).filter (!·.isEmpty)

structure AnswerColumn where
  shown : ResultColumn
  typeName : String
  /-- Whether the formatted texts of its cells are kept. -/
  keepsText : Bool

def columnOf (formatted : List String) (datum : Datum) : Except DataFault AnswerColumn := do
  let id := (← datum.fieldOr "id" (.text "")).textOr ""
  let label := (← datum.fieldOr "label" (.text "")).textOr ""
  let typeName := (← datum.fieldOr "type" (.text "string")).textOr ""
  let pattern ← datum.fieldOr "pattern" .null
  let isFormatted := formatted.contains id
  let shownPattern :=
    match pattern with
    | .text content => if isFormatted then some content else none
    | _ => none
  return {
    shown := ⟨id, if label.isEmpty then id else label, cellType typeName, shownPattern⟩
    typeName
    keepsText := isFormatted || formatted.any fun name => Text.endsWith id (" " ++ name) }

def answerCell (column : AnswerColumn) (datum : Datum) : Except DataFault ResultCell := do
  if datum.isAbsent then return ⟨.null, none⟩
  let cell ← cellOf column.typeName (← datum.fieldOr "v" .null)
  let formatted ← datum.fieldOr "f" .null
  return ⟨cell, if column.keepsText && !formatted.isNull then some formatted.plainText else none⟩

def answerRow (columns : List AnswerColumn) (datum : Datum) :
    Except DataFault (List ResultCell) := do
  let cells ← (← datum.fieldUnlessAbsent "c" (.list [])).items
  columns.zipIdx.mapM fun (column, place) => answerCell column (cells.getD place .null)

def resultOf (answer : Datum) (query : SelectQuery) : Except DataFault SelectResult := do
  let columns ← (← (← answer.fieldOr "cols" (.list [])).items).mapM
    (columnOf (formattedIds query))
  let rows ← (← (← answer.fieldOr "rows" (.list [])).items).mapM (answerRow columns)
  return ⟨columns.map (·.shown), rows, .null⟩

end GridQuery.Native

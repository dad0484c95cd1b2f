import GridQuery.Cell.View
import GridQuery.Location

/-!
Tables: columns and rows of cells, from a virtual table, from a range of a grid, or joined
from several of them.
-/

namespace GridQuery

structure Column where
  /-- The header of a virtual table's column, the letters of a range's. -/
  id : String
  label : String
  type : CellType
  /-- The name of the table that the column comes from, if it has one. -/
  aliasName : Option String
  /-- False for a column of a range that lies past all that the range holds. -/
  used : Bool
  deriving DecidableEq, Repr

def Column.qualifiedId (column : Column) : String :=
  match column.aliasName with
  | some name => if name.isEmpty then column.id else name ++ "." ++ column.id
  | none => column.id

def Column.isCalled (name : String) (column : Column) : Bool :=
  let wanted := Text.lower name
  Text.lower column.id == wanted || Text.lower column.label == wanted

structure Row where
  /-- The place among the data rows of the source, counted from zero. -/
  ordinal : Nat
  cells : List Cell
  deriving DecidableEq

inductive TableSource where
  | virtual (name : String)
  | grid (location : Location)
  deriving DecidableEq

structure Table where
  columns : List Column
  rows : List Row
  source : TableSource
  aliasName : Option String
  joined : Bool
  header : List Datum

/-- The items of a datum that stands in the place of a row: of a list, the characters of a
text, or the names of a record's fields. -/
def Datum.rowItems : Datum → Except DataFault (List Datum)
  | .list items => .ok items
  | .text content => .ok (content.toList.map fun character => .text (String.singleton character))
  | .record fields => .ok (fields.map fun (name, _) => .text name)
  | _ => .error .wrongShape

/-- The text of a header; null is empty. -/
def Datum.headerText : Datum → String
  | .null => ""
  | datum => datum.plainText

namespace Table

/-- Cells cut or filled up with nulls to a width. -/
def fit (width : Nat) (cells : List Cell) : List Cell :=
  cells.take width ++ List.replicate (width - cells.length) .null

/-- Rows of cells in order, numbered from zero. -/
def numbered (rows : List (List Cell)) : List Row :=
  rows.zipIdx.map fun (cells, ordinal) => ⟨ordinal, cells⟩

def columnCells (index : Nat) (rows : List (List Cell)) : List Cell :=
  rows.map fun cells => cells.getD index .null

/-- The table of a header and the rows below it, each cut or filled up to its width. -/
def ofHeader (name : String) (aliasName : Option String) (header : List Datum)
    (raw : List (List Datum)) : Table :=
  let names := header.map Datum.headerText
  let rows := raw.map fun items => fit header.length (items.map Cell.ofDatum)
  let called :=
    match aliasName with
    | some given => if given.isEmpty then name else given
    | none => name
  let columns := names.zipIdx.map fun (header, index) =>
    { id := header, label := header
      type := Cell.majorityType (columnCells index rows)
      aliasName := some called, used := true : Column }
  ⟨columns, numbered rows, .virtual name, some called, false, header⟩

/-- The table of a virtual table's data, the header first. -/
def ofVirtual (name : String) (data : List Datum) (aliasName : Option String) :
    Except Error Table := do
  match data with
  | [] => throw (.invalid (.emptyTable name))
  | first :: rest =>
      let header ← first.rowItems
      let raw ← (rest.mapM Datum.rowItems : Except DataFault _)
      return ofHeader name aliasName header raw

/-- A header with one more row below it; an empty place adds nothing. -/
def extendLabel (label : String) (datum : Datum) : String :=
  if datum.isEmptyPlace then label
  else Text.trim (label ++ " " ++ datum.plainText)

/-- The labels of so many columns from the rows above the data. -/
def labelsOf (width : Nat) (headers : List (List Datum)) : List String :=
  headers.foldl (fun labels row =>
    labels.zipIdx.map fun (label, index) => extendLabel label (row.getD index .null))
    (List.replicate width "")

/-- The cell of a place of a range; an empty place is null. -/
def placeCell (datum : Datum) : Cell :=
  if datum.isEmptyPlace then .null else Cell.ofDatum datum

/-- The table of the rows read from a range, of which the first are its header. A range
with a last column has all its columns, also those past what was read. -/
def ofGrid (location : Location) (data : List Datum) (headerRows : Nat)
    (aliasName : Option String) : Except Error Table := do
  let raw ← (data.mapM Datum.rowItems : Except DataFault _)
  let used := raw.foldl (fun most items => max most items.length) 0
  let width := max used (if location.lastColumn.isSome then location.columnCount else 0)
  let labels := labelsOf width (raw.take headerRows)
  let rows := (raw.drop headerRows).map fun items => fit width (items.map placeCell)
  let columns := labels.zipIdx.map fun (label, index) =>
    { id := columnLetters (location.start + index), label
      type := Cell.majorityType (columnCells index rows)
      aliasName, used := decide (index < used) : Column }
  return ⟨columns, numbered rows, .grid location, aliasName, false, labels.map .text⟩

/-- What an error message calls the table. -/
def describe (table : Table) : String :=
  match table.source with
  | .virtual name => "virtual table ':" ++ name ++ "'"
  | .grid location => "range '" ++ location.range ++ "'"

/-- The ways in which a name can mean a column, the most exact first. -/
def nameTests (name : String) : List (Column → Bool) :=
  [fun column => column.id == name, fun column => column.label == name,
    Column.isCalled name]

/-- The place of the column of a name: by id, by label, or by either in any case. -/
def columnPosition (table : Table) (name : String) : Except ValidationError Nat :=
  match (nameTests name).findSome? fun test => table.columns.findIdx? test with
  | some position => .ok position
  | none => .error (.unknownColumnOf name table.describe)

end Table

end GridQuery

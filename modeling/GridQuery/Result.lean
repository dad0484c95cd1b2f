import GridQuery.Cell.View

/-!
Results of statements, and the records in which they are handed out.
-/

namespace GridQuery

structure ResultColumn where
  id : String
  label : String
  type : CellType
  /-- The pattern that a FORMAT gives the column. -/
  pattern : Option String
  deriving DecidableEq, Repr

structure ResultCell where
  value : Cell
  formatted : Option String
  deriving DecidableEq

structure SelectResult where
  columns : List ResultColumn
  rows : List (List ResultCell)
  /-- What the grid tells of the range's cells; null if it was not asked or has nothing. -/
  metadata : Datum

inductive Change where
  | insert
  | update
  | delete
  deriving DecidableEq, Repr

def Change.name : Change → String
  | insert => "INSERT"
  | update => "UPDATE"
  | delete => "DELETE"

structure MutationResult where
  change : Change
  count : Nat
  /-- When the grid took the change over; null if it does not say or was not asked. -/
  updateTime : Datum
  message : Option String
  /-- The whole virtual table after the change, its header included. -/
  data : Option (List (List Datum))

inductive StatementResult where
  | selected (result : SelectResult)
  | changed (result : MutationResult)

/-- A column's type as it is shown; one of unknown type holds texts. -/
def CellType.shown : CellType → String
  | .null => CellType.name .string
  | type => type.name

def ResultColumn.toDatum (column : ResultColumn) : Datum :=
  .record [("id", .text column.id), ("label", .text column.label),
    ("type", .text column.type.shown)]

def ResultCell.toDatum (cell : ResultCell) : Datum :=
  .record (("v", cell.value.toDatum) ::
    (cell.formatted.map fun text => ("f", Datum.text text)).toList)

/-- A field of a record that is left out if it is null. -/
def fieldUnlessNull (name : String) (datum : Datum) : List (String × Datum) :=
  if datum.isNull then [] else [(name, datum)]

namespace SelectResult

def records (result : SelectResult) : List (List Datum) :=
  result.rows.map fun cells => cells.map fun cell => cell.value.toDatum

def data (result : SelectResult) : Datum :=
  .record
    [("cols", .list (result.columns.map ResultColumn.toDatum)),
      ("rows", .list (result.rows.map fun cells =>
        .record [("c", .list (cells.map ResultCell.toDatum))]))]

def toDatum (result : SelectResult) : Datum :=
  .record ([("operation", .text "SELECT"), ("data", result.data)] ++
    fieldUnlessNull "metadata" result.metadata)

end SelectResult

namespace MutationResult

def countName : Change → String
  | .delete => "deletedRows"
  | _ => "updatedRows"

def toDatum (result : MutationResult) : Datum :=
  .record
    ([("operation", .text result.change.name),
        (countName result.change, .int result.count)] ++
      fieldUnlessNull "updateTime" result.updateTime ++
      (result.message.map fun text => ("message", Datum.text text)).toList ++
      (result.data.map fun rows => ("data", Datum.list (rows.map .list))).toList)

end MutationResult

def StatementResult.toDatum : StatementResult → Datum
  | selected result => result.toDatum
  | changed result => result.toDatum

end GridQuery

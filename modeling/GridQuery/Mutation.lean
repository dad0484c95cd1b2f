import GridQuery.Grid
import GridQuery.Result
import GridQuery.Select

/-!
INSERT, UPDATE and DELETE: the rows that they concern, what becomes of a virtual table, and
what a grid is asked for.
-/

namespace GridQuery

/-- What a change that concerns no row says. -/
def noMatch : String := "No rows matched WHERE clause"

structure RowUpdate where
  ordinal : Nat
  values : List Datum

structure UpdatePlan where
  places : List Nat
  updates : List RowUpdate

namespace Evaluator

/-- The rows that a condition holds in, in their order and up to a limit. -/
def selectRows (evaluator : Evaluator) (table : Table) (condition : Expr)
    (orderBy : List OrderKey) (limit : Option Nat) : Except Error (List Row) := do
  table.check condition
  orderBy.forM fun key => table.check key.expr
  let rows ← evaluator.filterRows table condition
  let ordered ← evaluator.sortRows orderBy (fun row => Context.ofRow table row.cells) rows
  return page 0 limit ordered

/-- The condition of a change; every row without one. -/
def everyRow : Expr := .literal (.boolean true)

/-- What an UPDATE changes: all values are those of the rows before it. -/
def planUpdate (evaluator : Evaluator) (query : UpdateQuery) (table : Table) :
    Except Error UpdatePlan := do
  let places ← (query.assignments.mapM fun assignment => table.resolve assignment.column :
    Except ValidationError (List Nat))
  query.assignments.forM fun assignment => table.check assignment.value
  let rows ← evaluator.selectRows table (query.filter.getD everyRow) query.orderBy query.limit
  let updates ← rows.mapM fun row => do
    let cells ← query.assignments.mapM fun assignment =>
      evaluator.value (.ofRow table row.cells) assignment.value
    return RowUpdate.mk row.ordinal (cells.map Cell.toDatum)
  return ⟨places, updates⟩

def planDelete (evaluator : Evaluator) (query : DeleteQuery) (table : Table) :
    Except Error (List Nat) := do
  let rows ← evaluator.selectRows table (query.filter.getD everyRow) query.orderBy query.limit
  return rows.map (·.ordinal)

/-- A row of values in the order of the columns, filled up with empty texts to a width. -/
def positionalRow (width : Option Nat) (values : List Datum) :
    Except ValidationError (List Datum) :=
  match width with
  | none => .ok values
  | some width =>
      if width < values.length then .error (.tooManyValues values.length width)
      else .ok (values ++ List.replicate (width - values.length) (.text ""))

/-- A row of values for named columns, all others empty. Of two values for one column the
later counts. -/
def namedRow (table : Table) (names : List String) (values : List Datum) :
    Except ValidationError (List Datum) := do
  if values.length != names.length then throw (.valueCount names.length values.length)
  let blank := List.replicate table.columns.length (Datum.text "")
  (names.zip values).foldlM (fun row (name, value) => do
    return row.set (← table.columnPosition name) value) blank

/-- The rows that an INSERT adds. Its named columns are those of a table. -/
def planInsert (evaluator : Evaluator) (query : InsertQuery) (table : Option Table)
    (width : Option Nat) : Except Error (List (List Datum)) :=
  query.rows.mapM fun exprs => do
    let values := (← evaluator.values Context.constant exprs).map Cell.toDatum
    match query.columns, table with
    | some names, some table => namedRow table names values
    | _, _ => positionalRow width values

end Evaluator

/-! ### Virtual tables -/

/-- A row filled up to the width of its table, with values set at places one after
another. -/
def assignRow (width : Nat) (places : List Nat) (values row : List Datum) : List Datum :=
  (places.zip values).foldl (fun done (place, value) => done.set place value)
    (row ++ List.replicate (width - row.length) (.text ""))

def applyUpdates (width : Nat) (plan : UpdatePlan) (rows : List (List Datum)) :
    List (List Datum) :=
  rows.zipIdx.map fun (row, ordinal) =>
    match plan.updates.find? (·.ordinal == ordinal) with
    | some update => assignRow width plan.places update.values row
    | none => row

def removeRows (ordinals : List Nat) (rows : List (List Datum)) : List (List Datum) :=
  (rows.zipIdx.filter fun (_, ordinal) => !ordinals.contains ordinal).map (·.1)

def belowHeader (change : List (List Datum) → List (List Datum)) :
    List (List Datum) → List (List Datum)
  | [] => []
  | header :: rows => header :: change rows

/-- The result of a change of a virtual table that concerns so many rows. -/
def virtualResult (change : Change) (count : Nat) (data : List (List Datum)) :
    MutationResult :=
  ⟨change, count, .null, if count == 0 then some noMatch else none, some data⟩

def insertVirtual (evaluator : Evaluator) (query : InsertQuery) (table : Table)
    (data : List (List Datum)) : Except Error MutationResult := do
  let rows ← evaluator.planInsert query (some table) (some table.columns.length)
  return ⟨.insert, rows.length, .null, none, some (data ++ rows)⟩

def updateVirtual (evaluator : Evaluator) (query : UpdateQuery) (table : Table)
    (data : List (List Datum)) : Except Error MutationResult := do
  let plan ← evaluator.planUpdate query table
  return virtualResult .update plan.updates.length
    (belowHeader (applyUpdates table.columns.length plan) data)

def deleteVirtual (evaluator : Evaluator) (query : DeleteQuery) (table : Table)
    (data : List (List Datum)) : Except Error MutationResult := do
  let ordinals ← evaluator.planDelete query table
  return virtualResult .delete ordinals.length (belowHeader (removeRows ordinals) data)

/-! ### Grids -/

/-- The number that a row of a range has on its sheet. -/
def sheetRow (location : Location) (headerRows ordinal : Nat) : Nat :=
  location.firstRow + headerRows + ordinal

/-- A value as a grid is given it: null empties a cell. -/
def writtenValue : Datum → Datum
  | .null => .text ""
  | datum => datum

/-- The cells that an UPDATE writes, row by row. -/
def cellUpdates (table : Table) (location : Location) (headerRows : Nat) (plan : UpdatePlan) :
    List CellUpdate :=
  let letters := plan.places.map fun place => ((table.columns[place]?).map (·.id)).getD ""
  plan.updates.flatMap fun update =>
    (letters.zip update.values).map fun (letter, value) =>
      ⟨location.cell letter (sheetRow location headerRows update.ordinal),
        [[writtenValue value]]⟩

/-- Whether the number of a changed row is too long to be written as a numeral. -/
def UpdatePlan.passesNumerals (plan : UpdatePlan) (location : Location) (headerRows : Nat) :
    Bool :=
  plan.updates.any fun update =>
    Numeral.digitLimit < digitCount (sheetRow location headerRows update.ordinal)

/-- What a change asks of a grid, and the number of rows that it concerns; nothing if there
are none. -/
structure GridPlan where
  change : Change
  count : Nat
  call : Option GridCall

def insertGrid (evaluator : Evaluator) (query : InsertQuery) (table : Option Table)
    (location : Location) : Except Error GridPlan := do
  let rows ← evaluator.planInsert query table none
  return ⟨.insert, rows.length, some (.appendRows location rows)⟩

def updateGrid (evaluator : Evaluator) (query : UpdateQuery) (table : Table)
    (location : Location) (headerRows : Nat) : Except Error GridPlan := do
  let plan ← evaluator.planUpdate query table
  if plan.passesNumerals location headerRows then throw (.data .notNumeral)
  let call :=
    if plan.updates.isEmpty then none
    else some (.updateCells location (cellUpdates table location headerRows plan))
  return ⟨.update, plan.updates.length, call⟩

def deleteGrid (evaluator : Evaluator) (query : DeleteQuery) (table : Table)
    (location : Location) (headerRows : Nat) : Except Error GridPlan := do
  let ordinals ← evaluator.planDelete query table
  let numbers := ordinals.map (sheetRow location headerRows)
  let call :=
    if ordinals.isEmpty then none
    else some (.deleteRows location (numbers.mergeSort fun left right => decide (left ≤ right)))
  return ⟨.delete, ordinals.length, call⟩

def GridPlan.result (plan : GridPlan) (updateTime : Datum) : MutationResult :=
  ⟨plan.change, plan.count, updateTime, if plan.call.isNone then some noMatch else none, none⟩

end GridQuery

import GridQuery.Cell.Format
import GridQuery.Group
import GridQuery.Result
import GridQuery.Select.Column

/-!
Evaluation of a SELECT over a table: the rows that pass WHERE, grouped and pivoted, then
projected, made distinct, ordered and paged, and last labelled and formatted.
-/

namespace GridQuery

/-- A row of a result with what the names of ORDER BY and DISTINCT ON mean in it. -/
structure OutputRow where
  cells : List Cell
  context : Context

structure Output where
  columns : List OutputColumn
  rows : List OutputRow

namespace SelectQuery

/-- The expressions in which the names of the SELECT list can be used. -/
def lateExprs (query : SelectQuery) : List Expr :=
  query.orderBy.map (·.expr) ++ query.distinctOn ++ query.having.toList

def isAggregated (query : SelectQuery) (columns : List OutputColumn) : Bool :=
  !query.groupBy.isEmpty || !query.pivot.isEmpty ||
    columns.any (·.expr.hasAggregate) || query.having.any (·.hasAggregate) ||
    query.orderBy.any (·.expr.hasAggregate)

/-- Every column that the query refers to is there, and WHERE aggregates nothing. -/
def check (query : SelectQuery) (table : Table) (columns : List OutputColumn) :
    Except ValidationError Unit := do
  if query.filter.any (·.hasAggregate) then throw .aggregateInWhere
  (columns.filter (·.place.isNone)).forM fun column => table.check column.expr
  query.groupBy.forM table.check
  query.pivot.forM table.check
  query.filter.toList.forM table.check
  let names := columns.filterMap (·.name)
  query.lateExprs.forM fun expr => expr.columns.forM fun reference => do
    if reference.qualifier.isNone && names.contains reference.name then return
    let _ ← table.resolve reference

/-- The expressions whose columns have to be grouped. -/
def groupedExprs (query : SelectQuery) (columns : List OutputColumn) : List Expr :=
  let shown := columns.filter fun column =>
    !(!query.pivot.isEmpty && column.expr.hasAggregate)
  shown.map (·.expr) ++ query.orderBy.map (·.expr) ++ query.having.toList

end SelectQuery

namespace Evaluator

def filterRows (evaluator : Evaluator) (table : Table) (condition : Expr) :
    Except Error (List Row) :=
  table.rows.filterM fun row => evaluator.holds (.ofRow table row.cells) condition

def project (evaluator : Evaluator) (table : Table) (columns : List OutputColumn) (row : Row) :
    Except Error OutputRow := do
  let context := Context.ofRow table row.cells
  let cells ← columns.mapM fun column =>
    match column.place with
    | some place => return row.cells.getD place .null
    | none => evaluator.value context column.expr
  return ⟨cells, context.withNames (OutputColumn.named columns cells)⟩

/-- A group as the columns show it, the pivot columns last; none if HAVING does not hold
in it. -/
def projectGroup (evaluator : Evaluator) (query : SelectQuery) (table : Table)
    (columns : List OutputColumn) (pivoted : List PivotColumn) (group : Group) :
    Except Error (Option OutputRow) := do
  let context := Context.ofGroup evaluator table group.rows
  let shown ← columns.mapM fun column => evaluator.value context column.expr
  let crossed ← pivoted.mapM (evaluator.pivotCell table group query.pivot)
  let cells := shown ++ crossed
  let named := context.withNames (OutputColumn.named columns cells)
  match query.having with
  | none => return some ⟨cells, named⟩
  | some condition =>
      if ← evaluator.holds named condition then return some ⟨cells, named⟩ else return none

/-- The groups of rows as a query shows them. A pivot gives way for its aggregates to a
column for each of its keys, and has no row for a group without rows. -/
def aggregate (evaluator : Evaluator) (query : SelectQuery) (table : Table)
    (columns : List OutputColumn) (rows : List Row) : Except Error Output := do
  let groups ← evaluator.groups table rows query.groupBy
  if query.pivot.isEmpty then
    let shown ← groups.filterMapM (evaluator.projectGroup query table columns [])
    return ⟨columns, shown⟩
  else
    let aggregates := columns.filter (·.expr.hasAggregate)
    let columns := columns.filter (!·.expr.hasAggregate)
    let pivoted ← evaluator.pivotColumns table rows query.pivot
      (aggregates.map fun column => (column.expr, column.label))
    let shown ← (groups.filter (!·.rows.isEmpty)).filterMapM
      (evaluator.projectGroup query table columns pivoted)
    let made := pivoted.map fun column =>
      OutputColumn.mk column.aggregate column.label column.label none none
    return ⟨columns ++ made, shown⟩

/-- The first row of each key: of the expressions of DISTINCT ON, or of all cells. -/
def distinctRows (evaluator : Evaluator) (query : SelectQuery) (rows : List OutputRow) :
    Except Error (List OutputRow) := do
  if !query.distinct then return rows
  let keyed ← rows.mapM fun row => do
    if query.distinctOn.isEmpty then return (row.cells, row)
    else return (← evaluator.values row.context query.distinctOn, row)
  return distinctItems keyed

/-- The rows in the order of their keys; as they are without a key. -/
def sortRows {Item : Type} (evaluator : Evaluator) (keys : List OrderKey)
    (context : Item → Context) (rows : List Item) : Except Error (List Item) := do
  if keys.isEmpty then return rows
  let cells ← rows.mapM fun row => evaluator.values (context row) (keys.map (·.expr))
  return pick rows (← sortPositions (keys.map (·.descending)) cells)

end Evaluator

namespace Output

/-- The texts that the entries of a clause give to columns, a later one over an earlier
one. -/
def notes (output : Output) (table : Table) (clause : String) (entries : List (Expr × String)) :
    Except ValidationError (List (Nat × String)) := do
  let found ← entries.mapM fun (expr, text) => do
    return (← OutputColumn.find table clause output.columns expr, text)
  return found.reverse

/-- The type of a column: of most of its cells, or that of the table's column if they are
all blank. -/
def columnType (table : Table) (column : OutputColumn) (cells : List Cell) : CellType :=
  match column.place with
  | some place =>
      if cells.all Cell.isBlank then
        ((table.columns[place]?).map Column.type).getD .string
      else Cell.majorityType cells
  | none => Cell.majorityType cells

def resultColumns (output : Output) (table : Table) (labels patterns : List (Nat × String)) :
    List ResultColumn :=
  output.columns.zipIdx.map fun (column, index) =>
    ResultColumn.mk column.id ((labels.lookup index).getD column.label)
      (columnType table column (Table.columnCells index (output.rows.map (·.cells))))
      (patterns.lookup index)

def resultCell (pattern : Option String) (cell : Cell) : Except Error ResultCell :=
  match pattern with
  | some pattern => return ResultCell.mk cell (← cell.format? pattern)
  | none => return ResultCell.mk cell none

def resultRow (patterns : List (Nat × String)) (row : OutputRow) :
    Except Error (List ResultCell) :=
  row.cells.zipIdx.mapM fun (cell, index) => resultCell (patterns.lookup index) cell

def render (output : Output) (table : Table) (labels formats : List (Expr × String)) :
    Except Error SelectResult := do
  let labels ← output.notes table "LABEL" labels
  let patterns ← output.notes table "FORMAT" formats
  let rows ← output.rows.mapM (resultRow patterns)
  return ⟨output.resultColumns table labels patterns, rows, .null⟩

end Output

namespace Evaluator

def passingRows (evaluator : Evaluator) (query : SelectQuery) (table : Table) :
    Except Error (List Row) :=
  match query.filter with
  | some condition => evaluator.filterRows table condition
  | none => .ok table.rows

/-- Rows as a query shows them, in groups if it aggregates. -/
def outputOf (evaluator : Evaluator) (query : SelectQuery) (table : Table)
    (columns : List OutputColumn) (rows : List Row) : Except Error Output := do
  if query.isAggregated columns then
    table.checkGrouping query.groupBy (query.groupedExprs columns)
      (columns.filterMap (·.name))
    evaluator.aggregate query table columns rows
  else
    if query.having.isSome then throw (.invalid .havingAlone)
    let shown ← rows.mapM (evaluator.project table columns)
    return ⟨columns, shown⟩

/-- The rows that are left after DISTINCT, in their order, and of these the wanted page. -/
def arrange (evaluator : Evaluator) (query : SelectQuery) (output : Output) :
    Except Error Output := do
  let kept ← evaluator.distinctRows query output.rows
  let ordered ← evaluator.sortRows query.orderBy OutputRow.context kept
  return ⟨output.columns, page query.offset query.limit ordered⟩

def select (evaluator : Evaluator) (query : SelectQuery) (table : Table) :
    Except Error SelectResult := do
  let columns ← OutputColumn.ofItems table query.items
  query.check table columns
  let rows ← evaluator.passingRows query table
  let output ← evaluator.outputOf query table columns rows
  let arranged ← evaluator.arrange query output
  arranged.render table query.labels query.formats

end Evaluator

end GridQuery

import GridQuery.Buckets
import GridQuery.Expr.Eval
import GridQuery.Order

/-!
Groups of rows, the aggregates over them, and the columns that a pivot makes of the rows
of each group.
-/

namespace GridQuery

/-- The first cell that no other precedes, for an order in which the keys are set. -/
def extremeCell (wanted : Ordering) : List (SortKey × Cell) → Cell
  | [] => .null
  | first :: rest =>
      (rest.foldl (fun best candidate =>
        if candidate.1.order best.1 == wanted then candidate else best) first).2

def sumOf (numbers : List Number) : Except DataFault Number :=
  numbers.foldlM (fun total number => Number.within (total.add? number)) (.int 0)

/-- An aggregate of cells. Blank cells do not count, a sum or an average takes the numbers
alone, and the aggregate of nothing is null, a count apart. -/
def Aggregate.apply (function : Aggregate) (cells : List Cell) : Except DataFault Cell := do
  let present := cells.filter (!·.isBlank)
  let extreme (wanted : Ordering) : Except DataFault Cell := do
    let keyed ← present.mapM fun cell => return (← cell.sortKey, cell)
    return extremeCell wanted keyed
  let numbers : Except DataFault (List Number) := do
    return (← present.mapM Cell.asNumber?).filterMap id
  match function with
  | .count => return .int present.length
  | .min => extreme .lt
  | .max => extreme .gt
  | .sum =>
      match ← numbers with
      | [] => return .null
      | found => return .number (← sumOf found)
  | .avg =>
      match ← numbers with
      | [] => return .null
      | found =>
          let total ← sumOf found
          return .number (← Number.within (total.div? (.int found.length)))

structure Group where
  key : List Cell
  rows : List Row

namespace Context

/-- A group of rows: its columns have the values of its first row, and without rows they
are null. -/
def ofGroup (evaluator : Evaluator) (table : Table) (rows : List Row) : Context where
  column reference :=
    match rows with
    | [] => .ok .null
    | first :: _ => (ofRow table first.cells).column reference
  countRows := .ok (.int rows.length)
  aggregate function argument := do
    let cells ← rows.mapM fun row => evaluator.value (ofRow table row.cells) argument
    function.apply cells

end Context

namespace Evaluator

def values (evaluator : Evaluator) (context : Context) (exprs : List Expr) :
    Except Error (List Cell) :=
  exprs.mapM (evaluator.value context)

/-- The groups of rows, in the order of their keys. Without an expression to group by all
rows are one group, also if there are none. -/
def groups (evaluator : Evaluator) (table : Table) (rows : List Row) (exprs : List Expr) :
    Except Error (List Group) := do
  if exprs.isEmpty then return [⟨[], rows⟩]
  let keyed ← rows.mapM fun row => do
    return (← evaluator.values (.ofRow table row.cells) exprs, row)
  let found := (Buckets.ofList sameCells keyed).map fun (key, rows) => Group.mk key rows
  let order ← sortPositions (exprs.map fun _ => false) (found.map (·.key))
  return pick found order

end Evaluator

/-- Every column outside an aggregate is one of the grouping columns or has a name of the
SELECT list, unless the whole expression is one to group by. -/
def Table.checkGrouping (table : Table) (groupBy exprs : List Expr) (names : List String) :
    Except ValidationError Unit := do
  let places ← groupBy.filterMapM fun
    | .column reference => return some (← table.resolve reference)
    | _ => return none
  exprs.forM fun expr => do
    if groupBy.any expr.sameAs then return
    expr.bareColumns.forM fun reference => do
      if reference.qualifier.isNone && names.contains reference.name then return
      if !places.contains (← table.resolve reference) then
        throw (.ungroupedColumn reference.text)

/-- A column that a pivot makes: an aggregate over the rows of one key. -/
structure PivotColumn where
  key : List Cell
  aggregate : Expr
  label : String

/-- What a pivot column is called: by its key, and by its aggregate if there are
several. -/
def pivotLabel (key : List Cell) : Except DataFault String := do
  let texts ← key.mapM fun cell => return (← cell.asText?).getD ""
  return Text.joined ", " texts

namespace Evaluator

/-- The columns that a pivot makes of rows: for each key one for each aggregate. -/
def pivotColumns (evaluator : Evaluator) (table : Table) (rows : List Row)
    (pivot : List Expr) (aggregates : List (Expr × String)) :
    Except Error (List PivotColumn) := do
  let groups ← evaluator.groups table rows pivot
  let columns ← groups.mapM fun group => do
    let key ← pivotLabel group.key
    return aggregates.map fun (aggregate, label) =>
      let shown := if aggregates.length == 1 then key else key ++ " " ++ label
      PivotColumn.mk group.key aggregate shown
  return columns.flatten

/-- The cell of a group in a pivot column; null if none of its rows has the key. -/
def pivotCell (evaluator : Evaluator) (table : Table) (group : Group) (pivot : List Expr)
    (column : PivotColumn) : Except Error Cell := do
  let keyed ← group.rows.mapM fun row => do
    return (row, ← evaluator.values (.ofRow table row.cells) pivot)
  let rows := (keyed.filter fun (_, key) => sameCells key column.key).map (·.1)
  if rows.isEmpty then return .null
  else evaluator.value (.ofGroup evaluator table rows) column.aggregate

end Evaluator

end GridQuery

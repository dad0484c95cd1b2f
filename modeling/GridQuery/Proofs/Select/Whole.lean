import GridQuery.Proofs.Select.Grouped
import GridQuery.Proofs.Select.Names

/-!
# An aggregate of all rows

A query for an aggregate of a column that does not group its rows has one row with one cell:
what the aggregate is of the column's cells in all rows that pass, also if there are none.
-/

namespace GridQuery

/-! ### Texts of columns -/

theorem exists_columnText {table : Table} {reference : ColumnRef} {place : Nat}
    (resolved : table.resolve reference = .ok place) (naming : Naming) :
    ∃ text, naming.columnText table reference = .ok text := by
  simp only [Naming.columnText, bind_eq_ok_iff, resolved, Except.ok.injEq, exists_eq_left']
  split
  · cases naming <;> exact ⟨_, rfl⟩
  · exact ⟨_, rfl⟩

theorem check_column {table : Table} {reference : ColumnRef} :
    table.check (.column reference) = .ok () ↔ ∃ place, table.resolve reference = .ok place := by
  simp [Table.check, Expr.columns]

namespace Evaluator

variable {evaluator : Evaluator} {table : Table} {source : Option TableRef}
  {joins : List JoinClause} {filter : Option Expr} {function : Aggregate} {reference : ColumnRef}
  {rows : List Row}

/-- A query for an aggregate of a column over the rows that pass a condition. -/
def wholeQuery (source : Option TableRef) (joins : List JoinClause) (filter : Option Expr)
    (function : Aggregate) (reference : ColumnRef) : SelectQuery :=
  { groupQuery [.expr (.aggregate function (.column reference)) none] [] with
    source, joins, filter }

/-- The column of an aggregate. -/
theorem exists_aggregateColumn (function : Aggregate) {place : Nat}
    (resolved : table.resolve reference = .ok place) :
    ∃ column, OutputColumn.ofItems table [.expr (.aggregate function (.column reference)) none] =
        .ok [column] ∧
      column.expr = .aggregate function (.column reference) ∧ column.name = none ∧
      column.place = none := by
  obtain ⟨id, onId⟩ := exists_columnText resolved .id
  obtain ⟨label, onLabel⟩ := exists_columnText resolved .label
  have texts (naming : Naming) {text : String}
      (found : naming.columnText table reference = .ok text) :
      ∃ shown, naming.text table (.aggregate function (.column reference)) = .ok shown := by
    simp only [Naming.text, found]
    exact ⟨_, rfl⟩
  obtain ⟨id, onId⟩ := texts .id onId
  obtain ⟨label, onLabel⟩ := texts .label onLabel
  refine ⟨⟨.aggregate function (.column reference), id, label, none, none⟩, ?_, rfl, rfl, rfl⟩
  simp only [OutputColumn.ofItems, List.mapM_cons, List.mapM_nil, OutputColumn.ofItem,
    OutputColumn.ofExpr, onId, onLabel, Option.filter_none]
  rfl

/-- In each of some rows a column has the cell at its place. -/
theorem value_column {place : Nat} (resolved : table.resolve reference = .ok place) (row : Row) :
    evaluator.value (.ofRow table row.cells) (.column reference) =
      .ok (row.cells.getD place .null) := by
  simp only [value, Context.ofRow, resolved]
  rfl

theorem cellAt_column {place : Nat} (resolved : table.resolve reference = .ok place) (row : Row) :
    evaluator.cellAt table row (.column reference) = row.cells.getD place .null := by
  rw [cellAt, value_column resolved]
  rfl

theorem value_aggregate {place : Nat} (resolved : table.resolve reference = .ok place) :
    evaluator.value (.ofGroup evaluator table rows) (.aggregate function (.column reference)) =
      function.apply (rows.map fun row => row.cells.getD place .null) := by
  have cells : rows.mapM (fun row => evaluator.value (.ofRow table row.cells)
      (.column reference)) = .ok (rows.map fun row => row.cells.getD place .null) :=
    mapM_eq_ok_of_forall fun row _ => value_column resolved row
  rw [value]
  simp only [Context.ofGroup, cells]
  rfl

/-- All rows are one group, which shows the aggregate of their cells. -/
theorem outputOf_wholeQuery {place : Nat} (resolved : table.resolve reference = .ok place)
    {column : OutputColumn} (expr : column.expr = .aggregate function (.column reference))
    (unnamed : column.name = none) {cell : Cell}
    (applied : function.apply (rows.map fun row => row.cells.getD place .null) = .ok cell) :
    evaluator.outputOf (wholeQuery source joins filter function reference) table [column] rows =
      .ok ⟨[column], [⟨[cell], Context.ofGroup evaluator table rows⟩]⟩ := by
  have grouped : (wholeQuery source joins filter function reference).isAggregated [column] =
      true := by
    simp [SelectQuery.isAggregated, expr, Expr.hasAggregate]
  have allowed : table.checkGrouping [] [column.expr] [] = .ok () := by
    simp [Table.checkGrouping, expr, Expr.bareColumns]
  have whole : evaluator.groups table rows [] = .ok [⟨[], rows⟩] := rfl
  have nameless : OutputColumn.named [column] [cell] = [] :=
    named_eq_nil (fun _ among => List.mem_singleton.mp among ▸ unnamed) [cell]
  have projected : evaluator.projectGroup (wholeQuery source joins filter function reference)
      table [column] [] ⟨[], rows⟩ = .ok (some ⟨[cell], Context.ofGroup evaluator table rows⟩) := by
    have shown : evaluator.value (.ofGroup evaluator table rows) column.expr = .ok cell := by
      rw [expr, value_aggregate resolved, applied]
      rfl
    simp only [projectGroup, List.mapM_cons, List.mapM_nil, bind_eq_ok_iff, shown, pure_eq_ok,
      Except.ok.injEq, exists_eq_left', List.append_nil, nameless, withNames_nil]
    rfl
  have names : [column].filterMap (·.name) = [] := by simp [unnamed]
  rw [outputOf, grouped, names]
  simp only [if_true, bind_eq_ok_iff, lift_validation_eq_ok_iff]
  refine ⟨(), allowed, ?_⟩
  simp only [aggregate, bind_eq_ok_iff]
  refine ⟨_, whole, ?_⟩
  simp only [wholeQuery, groupQuery] at projected
  simp [wholeQuery, groupQuery, projected]

/-- The query has one row, with what the aggregate is of the rows that pass. -/
theorem select_wholeQuery {place : Nat} (resolved : table.resolve reference = .ok place)
    (plain : filter.any (·.hasAggregate) = false)
    (checked : ∀ condition ∈ filter, table.check condition = .ok ())
    (passed : evaluator.passingRows (wholeQuery source joins filter function reference) table =
      .ok rows) {cell : Cell}
    (applied : function.apply (rows.map fun row => row.cells.getD place .null) = .ok cell) :
    ∃ shown, evaluator.select (wholeQuery source joins filter function reference) table =
        .ok shown ∧ shown.cellRows = [[cell]] := by
  obtain ⟨column, shows, expr, unnamed, placeless⟩ :=
    exists_aggregateColumn function resolved
  have accepted : (wholeQuery source joins filter function reference).check table [column] =
      .ok () := by
    rw [SelectQuery.check_eq_ok_iff]
    constructor
    case filtered => exact plain
    case shown =>
      intro other among _
      obtain rfl := List.mem_singleton.mp among
      rw [expr]
      exact check_column.mpr ⟨place, resolved⟩
    case filter => exact checked
    all_goals exact fun _ impossible => (List.not_mem_nil impossible).elim
  obtain ⟨shown, rendered, -, cells⟩ :=
    render_plain ⟨[column], [⟨[cell], Context.ofGroup evaluator table rows⟩]⟩ table
  refine ⟨shown, ?_, cells⟩
  simp only [select, bind_eq_ok_iff, lift_validation_eq_ok_iff]
  refine ⟨[column], shows, (), accepted, rows, passed, _,
    outputOf_wholeQuery resolved expr unnamed applied, _, ?_, rendered⟩
  exact arrange_of_unarranged ⟨rfl, rfl, rfl, rfl, rfl⟩ _

end Evaluator

end GridQuery

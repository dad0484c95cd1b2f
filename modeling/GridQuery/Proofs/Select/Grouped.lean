import GridQuery.Proofs.Expr.Value
import GridQuery.Proofs.Group
import GridQuery.Proofs.Number.Double
import GridQuery.Proofs.Statement.Grammatical
import GridQuery.Select

/-!
# Projections of grouped rows

A group shows an expression without an aggregate as it is in the first row of the group. The
check of grouping is there so that it is the same in every row. It lets two kinds of
expressions pass that are not: those with a column whose name is also one of the SELECT
list's, and those that differ from an expression to group by in the kind of a number.
-/

namespace GridQuery

/-! ### The check of grouping -/

namespace Table

variable {table : Table} {groupBy exprs : List Expr} {names : List String}

/-- Whether a reference means a column that one of the expressions to group by is. -/
def Groups (table : Table) (groupBy : List Expr) (reference : ColumnRef) : Prop :=
  ∃ place, table.resolve reference = .ok place ∧
    ∃ key, Expr.column key ∈ groupBy ∧ table.resolve key = .ok place

/-- What has passed the check of grouping: each expression is like one to group by, or all
its columns are grouping columns or have names of the SELECT list. -/
theorem checkGrouping_eq_ok (passed : table.checkGrouping groupBy exprs names = .ok ())
    {expr : Expr} (among : expr ∈ exprs) :
    (∃ key ∈ groupBy, expr.sameAs key = true) ∨
      ∀ reference ∈ expr.bareColumns,
        (reference.qualifier = none ∧ reference.name ∈ names) ∨
          table.Groups groupBy reference := by
  simp only [checkGrouping, bind_eq_ok_iff] at passed
  obtain ⟨places, resolved, checked⟩ := passed
  obtain ⟨each, found⟩ := filterMapM_eq_ok resolved
  have here := forM_eq_ok_iff.mp checked expr among
  split at here
  · next alike => exact .inl (List.any_eq_true.mp alike)
  · refine .inr fun reference bare => ?_
    have columns := forM_eq_ok_iff.mp here reference bare
    split at columns
    · next named => exact .inl (by simpa using named)
    · simp only [bind_eq_ok_iff] at columns
      obtain ⟨place, meant, columns⟩ := columns
      split at columns
      · simp at columns
      · next grouped =>
          refine .inr ⟨place, meant, ?_⟩
          have member : place ∈ places := by simpa using grouped
          rw [found] at member
          obtain ⟨key, inGroup, same⟩ := List.mem_filterMap.mp member
          have resolves := each key inGroup
          rw [same] at resolves
          cases key with
          | column key =>
              simp only [bind_eq_ok_iff, pure_eq_ok, Except.ok.injEq,
                Option.some.injEq, exists_eq_right] at resolves
              exact ⟨key, inGroup, resolves⟩
          | _ => simp at resolves

end Table

/-! ### Groups as a query shows them -/

namespace Evaluator

variable {evaluator : Evaluator} {table : Table} {query : SelectQuery}
  {columns : List OutputColumn} {rows : List Row}

theorem value_ofGroup {expr : Expr} (plain : expr.hasAggregate = false) (first : Row)
    (rest : List Row) :
    evaluator.value (.ofGroup evaluator table (first :: rest)) expr =
      evaluator.value (.ofRow table first.cells) expr :=
  value_congr plain fun _ _ => rfl

/-- What a query without a pivot that groups its rows has gone through once it has a
result. -/
theorem select_eq_ok_of_groupBy (grouping : query.groupBy ≠ []) (unpivoted : query.pivot = [])
    (shows : OutputColumn.ofItems table query.items = .ok columns) {shown : SelectResult}
    (accepted : evaluator.select query table = .ok shown) :
    ∃ rows groups, evaluator.passingRows query table = .ok rows ∧
      evaluator.groups table rows query.groupBy = .ok groups ∧
      table.checkGrouping query.groupBy (query.groupedExprs columns)
        (columns.filterMap (·.name)) = .ok () ∧
      ∀ group ∈ groups, ∀ column ∈ columns, ∃ cell,
        evaluator.value (.ofGroup evaluator table group.rows) column.expr = .ok cell := by
  have grouped : query.isAggregated columns = true := by
    simp [SelectQuery.isAggregated, grouping]
  simp only [select, bind_eq_ok_iff, lift_validation_eq_ok_iff, shows, Except.ok.injEq,
    exists_eq_left', outputOf, grouped, if_true, aggregate, unpivoted, List.isEmpty_nil,
    pure_eq_ok] at accepted
  obtain ⟨_, -, rows, passed, output, ⟨_, checked, groups, made, outputs, projected, -⟩, -⟩ :=
    accepted
  refine ⟨rows, groups, passed, made, checked, fun group among column shownColumn => ?_⟩
  have here := (filterMapM_eq_ok projected).1 group among
  simp only [projectGroup, bind_eq_ok_iff] at here
  obtain ⟨cells, evaluated, -⟩ := here
  exact ⟨_, (mapM_eq_ok .null evaluated).1 column shownColumn⟩

theorem passingRows_subset (passed : evaluator.passingRows query table = .ok rows) :
    rows ⊆ table.rows := by
  rw [passingRows] at passed
  split at passed
  · obtain ⟨passes, -, rfl⟩ := filterM_eq_ok passed
    exact List.filter_sublist.subset
  · cases passed
    exact List.Subset.refl _

end Evaluator

/-! ### Rows of a group agree -/

/-- The numbers of a table are integers. -/
def Table.IntsOnly (table : Table) : Prop :=
  ∀ row ∈ table.rows, GridQuery.IntsOnly row.cells

theorem Cell.eq_of_agrees {left right : Cell} (agree : left.Agrees right)
    (leftInt : ∀ number, left = .number number → ∃ value, number = .int value)
    (rightInt : ∀ number, right = .number number → ∃ value, number = .int value) :
    left = right := by
  rcases agree with equal | same
  · exact equal
  · cases left <;> cases right <;> simp_all [Cell.sameValue]
    obtain ⟨value, rfl⟩ := leftInt
    obtain ⟨other, rfl⟩ := rightInt
    obtain ⟨place, here, there⟩ := (Number.sameValue_iff _ _).mp same
    have units := here.trans there.symm
    simp only [Number.place?, Option.some.injEq, Number.Place.units.injEq] at units
    have positive : (Double.unitsPerOne : Int) ≠ 0 :=
      Int.natCast_ne_zero.mpr (Nat.ne_of_gt Double.unitsPerOne_pos)
    rw [Int.eq_of_mul_eq_mul_right positive units]

/-- No column outside an aggregate is hidden from the check of grouping: a projection is one
of the expressions to group by, with numbers of the same kinds, if it is like one, and a
column that has a name of the SELECT list is a grouping column if the projection is none. -/
structure SelectQuery.Guarded (query : SelectQuery) (table : Table)
    (columns : List OutputColumn) : Prop where
  exact : ∀ column ∈ columns, column.expr.hasAggregate = false →
    ∀ key ∈ query.groupBy, column.expr.sameAs key = true → column.expr = key
  unhidden : ∀ column ∈ columns, column.expr.hasAggregate = false →
    column.expr ∉ query.groupBy → ∀ reference ∈ column.expr.bareColumns,
      reference.qualifier = none → reference.name ∈ columns.filterMap (·.name) →
        table.Groups query.groupBy reference

namespace Evaluator

variable {evaluator : Evaluator} {table : Table} {query : SelectQuery}
  {columns : List OutputColumn} {rows : List Row} {groups : List Group}

/-- A grouping column is the same cell in all rows of a group. -/
theorem column_eq_of_groups (whole : table.IntsOnly) (within : rows ⊆ table.rows)
    (grouped : evaluator.groups table rows query.groupBy = .ok groups) {group : Group}
    (among : group ∈ groups) {row other : Row} (held : row ∈ group.rows)
    (otherHeld : other ∈ group.rows) {reference : ColumnRef}
    (groupsBy : table.Groups query.groupBy reference) :
    (Context.ofRow table row.cells).column reference =
      (Context.ofRow table other.cells).column reference := by
  obtain ⟨place, meant, key, inGroup, resolved⟩ := groupsBy
  have some : query.groupBy ≠ [] := List.ne_nil_of_mem inGroup
  have inColumn (row : Row) (reference : ColumnRef) (meant : table.resolve reference = .ok place) :
      (Context.ofRow table row.cells).column reference = .ok (row.cells.getD place .null) := by
    simp only [Context.ofRow, meant]
    rfl
  have cellAt (row : Row) :
      evaluator.cellAt table row (.column key) = row.cells.getD place .null := by
    rw [Evaluator.cellAt, value, inColumn row key resolved]
    rfl
  have isInt {row : Row} (held : row ∈ group.rows) (number : Number)
      (equal : row.cells.getD place .null = .number number) :
      ∃ value, number = .int value := by
    have inTable := within (mem_of_mem_groups some grouped among held).1
    refine whole row inTable number ?_
    rw [List.getD_eq_getElem?_getD] at equal
    cases found : row.cells[place]? with
    | none => rw [found] at equal; cases equal
    | some cell =>
        rw [found, Option.getD_some] at equal
        exact equal ▸ List.mem_of_getElem? found
  have agree := agrees_of_mem_groups some grouped among held otherHeld inGroup
  rw [cellAt, cellAt] at agree
  rw [inColumn row reference meant, inColumn other reference meant,
    Cell.eq_of_agrees agree (isInt held) (isInt otherHeld)]

/-- Every projection without an aggregate is in each row of a group what the group shows of
it, unless it is hidden from the check of grouping. -/
theorem agrees_of_select (grouping : query.groupBy ≠ []) (unpivoted : query.pivot = [])
    (whole : table.IntsOnly) (shows : OutputColumn.ofItems table query.items = .ok columns)
    (guarded : query.Guarded table columns) {shown : SelectResult}
    (accepted : evaluator.select query table = .ok shown) :
    ∃ rows groups, evaluator.passingRows query table = .ok rows ∧
      evaluator.groups table rows query.groupBy = .ok groups ∧
      ∀ group ∈ groups, ∀ column ∈ columns, column.expr.hasAggregate = false →
        ∃ cell, evaluator.value (.ofGroup evaluator table group.rows) column.expr = .ok cell ∧
          ∀ row ∈ group.rows, ∃ other,
            evaluator.value (.ofRow table row.cells) column.expr = .ok other ∧
              cell.Agrees other := by
  obtain ⟨rows, groups, passed, grouped, checked, valued⟩ :=
    select_eq_ok_of_groupBy grouping unpivoted shows accepted
  refine ⟨rows, groups, passed, grouped, fun group among column isShown plain => ?_⟩
  obtain ⟨cell, first⟩ := valued group among column isShown
  refine ⟨cell, first, fun row held => ?_⟩
  obtain ⟨representative, rest, equal⟩ := List.exists_cons_of_ne_nil (List.ne_nil_of_mem held)
  have isFirst : representative ∈ group.rows := equal ▸ List.mem_cons_self
  rw [equal, value_ofGroup plain] at first
  by_cases inGroup : column.expr ∈ query.groupBy
  · have valuedAt := (groups_eq_ok grouping grouped).1
    have inRows := (mem_of_mem_groups grouping grouped among held).1
    refine ⟨_, valuedAt row inRows _ inGroup, ?_⟩
    have agree := agrees_of_mem_groups grouping grouped among isFirst held inGroup
    rwa [show evaluator.cellAt table representative column.expr = cell by
      rw [cellAt, first]; rfl] at agree
  · have among' : column.expr ∈ query.groupedExprs columns := by
      simp only [SelectQuery.groupedExprs, List.mem_append, List.mem_map, List.mem_filter]
      exact .inl (.inl ⟨column, ⟨isShown, by simp [unpivoted]⟩, rfl⟩)
    have alike (reference : ColumnRef) (bare : reference ∈ column.expr.bareColumns) :
        (Context.ofRow table representative.cells).column reference =
          (Context.ofRow table row.cells).column reference := by
      refine column_eq_of_groups whole (passingRows_subset passed) grouped among isFirst held ?_
      rcases Table.checkGrouping_eq_ok checked among' with ⟨key, isKey, same⟩ | columnwise
      · exact absurd (guarded.exact column isShown plain key isKey same ▸ isKey) inGroup
      · rcases columnwise reference bare with ⟨unqualified, named⟩ | groupsBy
        · exact guarded.unhidden column isShown plain inGroup reference bare unqualified named
        · exact groupsBy
    exact ⟨cell, (value_congr plain alike).symm.trans first, .inl rfl⟩

/-! ### Sales of two items, one of them sold twice -/

theorem newYear_valid : (1 ≤ 2024 ∧ 2024 ≤ 9999) ∧ (1 ≤ 1 ∧ 1 ≤ 12) ∧
    1 ≤ 1 ∧ 1 ≤ daysInMonth 2024 1 := by
  decide

def morning : Evaluator :=
  ⟨true, .midnight ⟨2024, 1, 1, newYear_valid⟩⟩

def sales : Table :=
  .ofHeader "sales" none [.text "item", .text "sold"]
    [[.text "ink", .int 10], [.text "pen", .int 20], [.text "ink", .int 30]]

def named (name : String) : Expr :=
  .column ⟨none, name⟩

/-- A query that groups rows by expressions, without any other clause. -/
def groupQuery (items : List SelectItem) (groupBy : List Expr) : SelectQuery where
  items := items
  source := none
  joins := []
  filter := none
  groupBy := groupBy
  having := none
  orderBy := []
  limit := none
  offset := 0
  distinct := false
  distinctOn := []
  pivot := []
  labels := []
  formats := []

def upperItem : Expr :=
  .changeCase .upper (named "item")

/-- How much was sold of each item, the item under its own name and in capitals. -/
def soldQuery : SelectQuery :=
  groupQuery [.expr (named "item") (some "item"), .expr upperItem none,
    .expr (.aggregate .sum (named "sold")) none] [named "item"]

def soldColumns : List OutputColumn :=
  [⟨named "item", "item", "item", some "item", none⟩,
    ⟨upperItem, "upper(item)", "upper(item)", none, none⟩,
    ⟨.aggregate .sum (named "sold"), "sum-sold", "sum sold", none, none⟩]

theorem sales_intsOnly : sales.IntsOnly := by
  intro row among number held
  have rows : sales.rows = [⟨0, [.text "ink", .int 10]⟩, ⟨1, [.text "pen", .int 20]⟩,
    ⟨2, [.text "ink", .int 30]⟩] := rfl
  simp only [rows, List.mem_cons, List.not_mem_nil, or_false] at among
  rcases among with rfl | rfl | rfl <;> exact ⟨_, by simpa [Cell.int] using held⟩

set_option maxRecDepth 4000 in
theorem sales_agree :
    ∃ rows groups, morning.passingRows soldQuery sales = .ok rows ∧
      morning.groups sales rows soldQuery.groupBy = .ok groups ∧
      ∀ group ∈ groups, ∀ column ∈ soldColumns, column.expr.hasAggregate = false →
        ∃ cell, morning.value (.ofGroup morning sales group.rows) column.expr = .ok cell ∧
          ∀ row ∈ group.rows, ∃ other,
            morning.value (.ofRow sales row.cells) column.expr = .ok other ∧
              cell.Agrees other := by
  have shows : OutputColumn.ofItems sales soldQuery.items = .ok soldColumns := by
    cbv
  have accepted : (morning.select soldQuery sales).toOption.isSome = true := by
    cbv
  have guarded : soldQuery.Guarded sales soldColumns := by
    constructor
    · decide
    · intro column among plain ungrouped reference bare _ _
      simp only [soldColumns, List.mem_cons, List.not_mem_nil, or_false] at among
      rcases among with rfl | rfl | rfl
      · exact absurd (by decide) ungrouped
      · simp only [upperItem, named, Expr.bareColumns, List.mem_singleton] at bare
        exact ⟨0, bare ▸ rfl, ⟨none, "item"⟩, by decide, rfl⟩
      · cases plain
  cases done : morning.select soldQuery sales with
  | error failure => rw [done] at accepted; cases accepted
  | ok shown => exact agrees_of_select (by decide) rfl sales_intsOnly shows guarded done

/-- The sales of an item under their own name: which of them is shown is left to the order
of the rows. -/
theorem sold_not_agrees :
    ∃ shown groups group first other,
      morning.select (groupQuery [.expr (named "item") none, .expr (named "sold") (some "sold")]
        [named "item"]) sales = .ok shown ∧
      morning.groups sales sales.rows [named "item"] = .ok groups ∧
      group ∈ groups ∧ first ∈ group.rows ∧ other ∈ group.rows ∧
      morning.value (.ofRow sales first.cells) (named "sold") = .ok (.int 10) ∧
      morning.value (.ofRow sales other.cells) (named "sold") = .ok (.int 30) ∧
      ¬ (Cell.int 10).Agrees (.int 30) := by
  let ink : Row := ⟨0, [.text "ink", .int 10]⟩
  let moreInk : Row := ⟨2, [.text "ink", .int 30]⟩
  let pen : Row := ⟨1, [.text "pen", .int 20]⟩
  refine ⟨⟨[⟨"item", "item", .string, none⟩, ⟨"sold", "sold", .number, none⟩],
    [[⟨.text "ink", none⟩, ⟨.int 10, none⟩], [⟨.text "pen", none⟩, ⟨.int 20, none⟩]], .null⟩,
    [⟨[.text "ink"], [ink, moreInk]⟩, ⟨[.text "pen"], [pen]⟩], ⟨[.text "ink"], [ink, moreInk]⟩,
    ink, moreInk, by cbv, by cbv, List.mem_cons_self, List.mem_cons_self, by simp,
    rfl, rfl, fun agree => ?_⟩
  have equal := Cell.eq_of_agrees agree (fun _ same => ⟨10, (Cell.number.inj same).symm⟩)
    fun _ same => ⟨30, (Cell.number.inj same).symm⟩
  cases equal

end Evaluator

end GridQuery

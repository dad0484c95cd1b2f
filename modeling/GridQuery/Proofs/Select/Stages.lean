import GridQuery.Proofs.Expr.Value
import GridQuery.Proofs.Group
import GridQuery.Proofs.Select.Star
import GridQuery.Proofs.Statement.Grammatical

/-!
# From groups to the rows of a result

What a query that groups its rows shows of each group, if it keeps all groups and leaves
them in the order of their keys.
-/

namespace GridQuery

/-- A query that shows all its groups, in the order of their keys. -/
structure SelectQuery.Unarranged (query : SelectQuery) : Prop where
  having : query.having = none
  orderBy : query.orderBy = []
  distinct : query.distinct = false
  limit : query.limit = none
  offset : query.offset = 0

/-- The cells of a result, row by row. -/
def SelectResult.cellRows (result : SelectResult) : List (List Cell) :=
  result.rows.map (·.map (·.value))

/-! ### The SELECT list -/

theorem OutputColumn.ofExpr_eq_ok {table : Table} {expr : Expr} {aliasName : Option String}
    {column : OutputColumn} (made : ofExpr table expr aliasName = .ok column) :
    column.expr = expr ∧ column.name = aliasName.filter (!·.isEmpty) ∧ column.place = none ∧
      ∀ name, column.name = some name → column.label = name := by
  simp only [ofExpr, bind_eq_ok_iff] at made
  obtain ⟨id, -, made⟩ := made
  split at made <;> simp only [bind_eq_ok_iff, pure_eq_ok, Except.ok.injEq] at made
  case h_1 given named =>
    obtain ⟨_, rfl, rfl⟩ := made
    exact ⟨rfl, rfl, rfl, fun name same => Option.some.inj (named.symm.trans same)⟩
  case h_2 unnamed =>
    obtain ⟨_, -, rfl⟩ := made
    exact ⟨rfl, rfl, rfl, fun name same => by cases unnamed.symm.trans same⟩

/-- The columns of a list of expressions show these expressions. -/
theorem exprs_of_ofItems {table : Table} {items : List SelectItem} {exprs : List Expr}
    (listed : items.map SelectItem.expr? = exprs.map some) {columns : List OutputColumn}
    (shows : OutputColumn.ofItems table items = .ok columns) :
    columns.map (·.expr) = exprs := by
  simp only [OutputColumn.ofItems, bind_eq_ok_iff, pure_eq_ok, Except.ok.injEq] at shows
  obtain ⟨shown, made, rfl⟩ := shows
  induction items generalizing exprs shown with
  | nil =>
      obtain rfl := List.map_eq_nil_iff.mp listed.symm
      cases made
      rfl
  | cons item items inductionHypothesis =>
      cases exprs with
      | nil => cases listed
      | cons expr exprs =>
          simp only [List.map_cons, List.cons.injEq] at listed
          simp only [List.mapM_cons, bind_eq_ok_iff, pure_eq_ok, Except.ok.injEq] at made
          obtain ⟨here, one, rest, others, rfl⟩ := made
          cases item with
          | star qualifier => cases listed.1
          | expr listedExpr aliasName =>
              obtain rfl : listedExpr = expr := Option.some.inj listed.1
              simp only [OutputColumn.ofItem, bind_eq_ok_iff, pure_eq_ok, Except.ok.injEq] at one
              obtain ⟨column, made, rfl⟩ := one
              have later := inductionHypothesis listed.2 rest others
              simpa [(OutputColumn.ofExpr_eq_ok made).1] using later

/-! ### The rows of a result -/

/-- LABEL and FORMAT leave ids and cells as they are. -/
theorem cellRows_of_render {output : Output} {table : Table} {labels formats : List (Expr × String)}
    {result : SelectResult} (done : output.render table labels formats = .ok result) :
    result.cellRows = output.rows.map (·.cells) ∧
      result.columns.map (·.id) = output.columns.map (·.id) := by
  obtain ⟨labels, -, patterns, -, rows, made, rfl⟩ := Output.render_eq_ok_iff.mp done
  have cell (pattern : Option String) (cell : Cell) (result : ResultCell)
      (made : Output.resultCell pattern cell = .ok result) : result.value = cell := by
    cases pattern with
    | none =>
        cases made
        rfl
    | some pattern =>
        simp only [Output.resultCell, bind_eq_ok_iff, pure_eq_ok, Except.ok.injEq] at made
        obtain ⟨_, -, rfl⟩ := made
        rfl
  have row (row : OutputRow) (result : List ResultCell)
      (made : Output.resultRow patterns row = .ok result) :
      result.map (·.value) = row.cells := by
    rw [map_of_mapM_eq_ok (fun _ _ => cell _ _ _) made]
    exact List.zipIdx_map_fst 0 row.cells
  refine ⟨map_of_mapM_eq_ok row made, ?_⟩
  have columns := congrArg (List.map OutputColumn.id) (List.zipIdx_map_fst 0 output.columns)
  rw [List.map_map] at columns
  simp only [Output.resultColumns, List.map_map]
  exact columns

namespace Evaluator

variable {evaluator : Evaluator} {table : Table} {query : SelectQuery}

theorem arrange_of_unarranged (unarranged : query.Unarranged) (output : Output) :
    evaluator.arrange query output = .ok output := by
  simp only [arrange, distinctRows, unarranged.distinct, sortRows, unarranged.orderBy,
    unarranged.limit, unarranged.offset, Bool.not_false, if_true, List.isEmpty_nil, page,
    List.drop_zero]
  rfl

/-! ### Groups -/

/-- What a group of rows shows of an expression, where it has a value there. -/
def shownAt (evaluator : Evaluator) (table : Table) (rows : List Row) (expr : Expr) : Cell :=
  (evaluator.value (.ofGroup evaluator table rows) expr).toOption.getD .null

/-- A group shows what it is grouped by as it is in its first row. -/
theorem map_shownAt_eq_keyAt {rows : List Row} {exprs : List Expr}
    (valued : evaluator.Valued table rows exprs) {first : Row}
    (among : first ∈ rows) (rest : List Row) :
    exprs.map (evaluator.shownAt table (first :: rest)) = evaluator.keyAt table exprs first := by
  refine List.map_congr_left fun expr inExprs => ?_
  rw [shownAt, value_ofGroup_of_value rest (valued first among expr inExprs)]
  rfl

/-- What a group shows in a pivot column, where it has a value there. -/
def crossedAt (evaluator : Evaluator) (table : Table) (pivot : List Expr) (group : Group)
    (column : PivotColumn) : Cell :=
  (evaluator.pivotCell table group pivot column).toOption.getD .null

/-- A group shows its columns, and after them its pivot columns. -/
theorem cells_of_projectGroup (unfiltered : query.having = none) {columns : List OutputColumn}
    {pivoted : List PivotColumn} {group : Group} {projected : Option OutputRow}
    (done : evaluator.projectGroup query table columns pivoted group = .ok projected) :
    projected.map (·.cells) = some ((columns.map (·.expr)).map
      (evaluator.shownAt table group.rows) ++
        pivoted.map (evaluator.crossedAt table query.pivot group)) := by
  simp only [projectGroup, bind_eq_ok_iff, unfiltered, pure_eq_ok, Except.ok.injEq] at done
  obtain ⟨shown, evaluated, crossed, pivots, rfl⟩ := done
  rw [Option.map_some, (mapM_eq_ok .null evaluated).2, (mapM_eq_ok .null pivots).2, List.map_map]
  rfl

theorem map_cells_of_groups (unfiltered : query.having = none) {columns : List OutputColumn}
    {pivoted : List PivotColumn} {groups : List Group} {rows : List OutputRow}
    (done : groups.filterMapM (evaluator.projectGroup query table columns pivoted) = .ok rows) :
    rows.map (·.cells) = groups.map fun group =>
      (columns.map (·.expr)).map (evaluator.shownAt table group.rows) ++
        pivoted.map (evaluator.crossedAt table query.pivot group) := by
  have ⟨each, made⟩ := filterMapM_eq_ok done
  rw [made, List.map_filterMap, ← List.filterMap_eq_map]
  refine List.filterMap_congr fun group among => ?_
  exact cells_of_projectGroup unfiltered (each group among)

/-- What a query without a pivot has gone through, and the rows of its result: its
expressions in each group. -/
theorem cellRows_of_groupBy (unarranged : query.Unarranged) (grouping : query.groupBy ≠ [])
    (unpivoted : query.pivot = []) {exprs : List Expr}
    (listed : query.items.map SelectItem.expr? = exprs.map some) {shown : SelectResult}
    (done : evaluator.select query table = .ok shown) :
    ∃ rows groups, evaluator.passingRows query table = .ok rows ∧
      evaluator.groups table rows query.groupBy = .ok groups ∧
      shown.cellRows = groups.map fun group =>
        exprs.map (evaluator.shownAt table group.rows) := by
  simp only [select, bind_eq_ok_iff, lift_validation_eq_ok_iff] at done
  obtain ⟨columns, shows, _, -, rows, passed, output, made, arranged, ordered, rendered⟩ := done
  have grouped : query.isAggregated columns = true := by
    simp [SelectQuery.isAggregated, grouping]
  simp only [outputOf, grouped, if_true, aggregate, unpivoted, List.isEmpty_nil,
    bind_eq_ok_iff, pure_eq_ok, Except.ok.injEq] at made
  obtain ⟨_, -, groups, made, outputs, projected, rfl⟩ := made
  rw [arrange_of_unarranged unarranged] at ordered
  cases ordered
  refine ⟨rows, groups, passed, made, ?_⟩
  rw [(cellRows_of_render rendered).1, map_cells_of_groups unarranged.having projected,
    exprs_of_ofItems listed shows]
  simp

theorem pivoted_eq {group : Group} {aggregates : List (Expr × String)}
    {columns : List PivotColumn}
    (made : (do
      let key ← pivotLabel group.key
      return aggregates.map fun (aggregate, label) =>
        let shown := if aggregates.length == 1 then key else key ++ " " ++ label
        PivotColumn.mk group.key aggregate shown : Except Error (List PivotColumn)) =
          .ok columns) :
    columns.map (fun column => (column.key, column.aggregate)) =
      (aggregates.map (·.1)).map fun aggregate => (group.key, aggregate) := by
  simp only [bind_eq_ok_iff, pure_eq_ok, Except.ok.injEq] at made
  obtain ⟨_, -, rfl⟩ := made
  simp

/-- The columns that a pivot makes: for each key one for each aggregate. -/
theorem pivotColumns_eq_ok {rows : List Row} {pivot : List Expr}
    {aggregates : List (Expr × String)} {pivoted : List PivotColumn}
    (done : evaluator.pivotColumns table rows pivot aggregates = .ok pivoted) :
    ∃ keyed, evaluator.groups table rows pivot = .ok keyed ∧
      pivoted.map (fun column => (column.key, column.aggregate)) =
        (keyed.map (·.key)).flatMap fun key =>
          (aggregates.map (·.1)).map fun aggregate => (key, aggregate) := by
  simp only [pivotColumns, bind_eq_ok_iff, pure_eq_ok, Except.ok.injEq] at done
  obtain ⟨keyed, grouped, columns, made, rfl⟩ := done
  refine ⟨keyed, grouped, ?_⟩
  rw [List.map_flatten, map_of_mapM_eq_ok (fun _ _ => pivoted_eq) made, List.flatMap_map,
    List.flatMap_def]

/-- What a query with a pivot has gone through, and the columns and rows of its result. -/
theorem cellRows_of_pivot (unarranged : query.Unarranged) (pivots : query.pivot ≠ [])
    {exprs : List Expr} (listed : query.items.map SelectItem.expr? = exprs.map some)
    {shown : SelectResult} (done : evaluator.select query table = .ok shown) :
    ∃ rows groups labels pivoted, evaluator.passingRows query table = .ok rows ∧
      evaluator.groups table rows query.groupBy = .ok groups ∧
      labels.length = (exprs.filter Expr.hasAggregate).length ∧
      evaluator.pivotColumns table rows query.pivot
        ((exprs.filter Expr.hasAggregate).zip labels) = .ok pivoted ∧
      (shown.columns.map (·.id)).drop (exprs.filter (!·.hasAggregate)).length =
        pivoted.map (·.label) ∧
      shown.cellRows = (groups.filter (!·.rows.isEmpty)).map fun group =>
        (exprs.filter (!·.hasAggregate)).map (evaluator.shownAt table group.rows) ++
          pivoted.map (evaluator.crossedAt table query.pivot group) := by
  simp only [select, bind_eq_ok_iff, lift_validation_eq_ok_iff] at done
  obtain ⟨columns, shows, _, -, rows, passed, output, made, arranged, ordered, rendered⟩ := done
  have grouped : query.isAggregated columns = true := by
    simp [SelectQuery.isAggregated, pivots]
  have given : query.pivot.isEmpty = false := by simpa using pivots
  simp only [outputOf, grouped, if_true, aggregate, given, Bool.false_eq_true, if_false,
    bind_eq_ok_iff, pure_eq_ok, Except.ok.injEq] at made
  obtain ⟨_, -, groups, made, pivoted, crossed, outputs, projected, rfl⟩ := made
  rw [arrange_of_unarranged unarranged] at ordered
  cases ordered
  have split (test : Expr → Bool) :
      (columns.filter fun column => test column.expr).map (·.expr) = exprs.filter test := by
    rw [← exprs_of_ofItems listed shows, List.filter_map]
    rfl
  have rows' := cellRows_of_render rendered
  refine ⟨rows, groups, (columns.filter (·.expr.hasAggregate)).map (·.label), pivoted, passed,
    made, ?_, ?_, ?_, ?_⟩
  · rw [← split Expr.hasAggregate, List.length_map, List.length_map]
  · rw [← split Expr.hasAggregate, List.zip_map']
    exact crossed
  · rw [rows'.2, List.map_append, ← split fun expr => !expr.hasAggregate, List.length_map,
      List.drop_left' (List.length_map _), List.map_map]
    rfl
  · rw [rows'.1, map_cells_of_groups unarranged.having projected, split fun expr =>
      !expr.hasAggregate]

end Evaluator

end GridQuery

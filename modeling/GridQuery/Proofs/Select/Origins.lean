import GridQuery.Proofs.Group
import GridQuery.Proofs.Select.Star

/-!
# Where the rows of a result come from

Each row that a query shows, before the rows are thinned out, ordered and paged, shows a row of
the table or a group of its rows. What is evaluated for it later is evaluated in the row or
group that it comes from, with the names of the columns for the cells that are shown.
-/

namespace GridQuery.Evaluator

variable {evaluator : Evaluator} {table : Table} {query : SelectQuery}

/-- A row that shows a row of the table, or a group of its rows. The names of the columns mean
the cells that are shown, and all else is read where the row comes from. -/
inductive ComesFrom (evaluator : Evaluator) (table : Table) (columns : List OutputColumn) :
    OutputRow → Prop
  | row {source : Row} (among : source ∈ table.rows) (cells : List Cell) :
      ComesFrom evaluator table columns
        ⟨cells, (Context.ofRow table source.cells).withNames (OutputColumn.named columns cells)⟩
  | group {rows : List Row} (among : rows ⊆ table.rows) (cells : List Cell) :
      ComesFrom evaluator table columns ⟨cells,
        (Context.ofGroup evaluator table rows).withNames (OutputColumn.named columns cells)⟩

theorem groups_subset {rows : List Row} {exprs : List Expr} {groups : List Group}
    (done : evaluator.groups table rows exprs = .ok groups) {group : Group}
    (among : group ∈ groups) : group.rows ⊆ rows := by
  by_cases some : exprs = []
  · subst some
    cases done
    obtain rfl := List.mem_singleton.mp among
    exact List.Subset.refl rows
  · intro row held
    exact (mem_of_mem_groups some done among held).1

/-- Columns without a name add no name. -/
theorem named_append_unnamed {columns made : List OutputColumn} {shown crossed : List Cell}
    (even : shown.length = columns.length) (unnamed : ∀ column ∈ made, column.name = none) :
    OutputColumn.named (columns ++ made) (shown ++ crossed) =
      OutputColumn.named columns (shown ++ crossed) := by
  have front : OutputColumn.named columns (shown ++ crossed) =
      OutputColumn.named columns shown := by
    have cut : (columns ++ []).zip (shown ++ crossed) = columns.zip shown ++ [].zip crossed :=
      List.zip_append even.symm
    rw [List.append_nil, List.zip_nil_left, List.append_nil] at cut
    rw [OutputColumn.named, cut, OutputColumn.named]
  rw [front, OutputColumn.named, List.zip_append even.symm, List.filterMap_append]
  have back := named_eq_nil unnamed crossed
  rw [OutputColumn.named] at back
  rw [back, List.append_nil, OutputColumn.named]

theorem comesFrom_of_projectGroup {columns made : List OutputColumn}
    {pivoted : List PivotColumn} {group : Group} {shown : OutputRow}
    (within : group.rows ⊆ table.rows) (unnamed : ∀ column ∈ made, column.name = none)
    (done : evaluator.projectGroup query table columns pivoted group = .ok (some shown)) :
    evaluator.ComesFrom table (columns ++ made) shown := by
  simp only [projectGroup, bind_eq_ok_iff] at done
  obtain ⟨cells, evaluated, crossed, -, done⟩ := done
  have source : evaluator.ComesFrom table (columns ++ made)
      ⟨cells ++ crossed, (Context.ofGroup evaluator table group.rows).withNames
        (OutputColumn.named columns (cells ++ crossed))⟩ := by
    rw [← named_append_unnamed (length_of_mapM_eq_ok evaluated) unnamed]
    exact .group within _
  split at done
  · cases done
    exact source
  · obtain ⟨holds, -, done⟩ := (bind_eq_ok_iff ..).mp done
    cases holds with
    | false => cases done
    | true =>
        cases done
        exact source

theorem comesFrom_of_aggregate {columns : List OutputColumn} {rows : List Row} {output : Output}
    (within : rows ⊆ table.rows)
    (made : evaluator.aggregate query table columns rows = .ok output) :
    ∀ row ∈ output.rows, evaluator.ComesFrom table output.columns row := by
  intro row among
  simp only [aggregate, bind_eq_ok_iff] at made
  obtain ⟨groups, grouped, made⟩ := made
  have inTable {group : Group} (inGroups : group ∈ groups) : group.rows ⊆ table.rows :=
    List.Subset.trans (groups_subset grouped inGroups) within
  split_ifs at made
  · simp only [bind_eq_ok_iff, pure_eq_ok, Except.ok.injEq] at made
    obtain ⟨shown, projected, rfl⟩ := made
    obtain ⟨group, inGroups, done⟩ := exists_of_mem_filterMapM projected among
    have here : evaluator.ComesFrom table (columns ++ []) row :=
      comesFrom_of_projectGroup (inTable inGroups) (by simp) done
    rwa [List.append_nil] at here
  · simp only [bind_eq_ok_iff, pure_eq_ok, Except.ok.injEq] at made
    obtain ⟨pivoted, -, shown, projected, rfl⟩ := made
    obtain ⟨group, inGroups, done⟩ := exists_of_mem_filterMapM projected among
    refine comesFrom_of_projectGroup (inTable (List.mem_of_mem_filter inGroups)) ?_ done
    intro column isMade
    obtain ⟨_, -, rfl⟩ := List.mem_map.mp isMade
    rfl

theorem comesFrom_of_outputOf {columns : List OutputColumn} {rows : List Row} {output : Output}
    (within : rows ⊆ table.rows)
    (made : evaluator.outputOf query table columns rows = .ok output) :
    ∀ row ∈ output.rows, evaluator.ComesFrom table output.columns row := by
  unfold outputOf at made
  split_ifs at made
  · obtain ⟨_, -, made⟩ := (bind_eq_ok_iff ..).mp made
    exact comesFrom_of_aggregate within made
  · simp at made
  · intro row among
    simp only [bind_eq_ok_iff, pure_eq_ok, Except.ok.injEq] at made
    obtain ⟨shown, projected, rfl⟩ := made
    obtain ⟨source, inRows, done⟩ := exists_of_mem_mapM projected among
    simp only [project, bind_eq_ok_iff, pure_eq_ok, Except.ok.injEq] at done
    obtain ⟨cells, -, rfl⟩ := done
    exact .row (within inRows) cells

end GridQuery.Evaluator

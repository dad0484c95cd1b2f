import GridQuery.Proofs.Selection
import GridQuery.Proofs.Table.Place

/-!
# Plans of changes

What an UPDATE or a DELETE plans once its rows are selected: for each of the rows the
values of the assignments in it, all of them computed before anything is written.
-/

namespace GridQuery

namespace Evaluator

variable {evaluator : Evaluator} {table : Table}

/-- The value of an assignment in a row; null if it has none. -/
def assigned (evaluator : Evaluator) (table : Table) (row : Row) (assignment : Assignment) :
    Cell :=
  (evaluator.value (.ofRow table row.cells) assignment.value).toOption.getD .null

/-- The place of the column of an assignment; the first one if there is no such column. -/
def target (table : Table) (assignment : Assignment) : Nat :=
  (table.resolve assignment.column).toOption.getD 0

/-- The plan of an UPDATE whose rows are selected. -/
def updatePlan (evaluator : Evaluator) (table : Table) (assignments : List Assignment)
    (picked : List Row) : UpdatePlan :=
  ⟨assignments.map (target table), picked.map fun row =>
    ⟨row.ordinal, assignments.map fun assignment =>
      (evaluator.assigned table row assignment).toDatum⟩⟩

/-- One row of an UPDATE has a value for each assignment. -/
theorem rowUpdate_eq_ok {assignments : List Assignment} {row : Row} {update : RowUpdate}
    (done : (do
      let cells ← assignments.mapM fun assignment =>
        evaluator.value (.ofRow table row.cells) assignment.value
      return RowUpdate.mk row.ordinal (cells.map Cell.toDatum)) = Except.ok update) :
    (∀ assignment ∈ assignments,
        evaluator.value (.ofRow table row.cells) assignment.value =
          .ok (evaluator.assigned table row assignment)) ∧
      update = ⟨row.ordinal, assignments.map fun assignment =>
        (evaluator.assigned table row assignment).toDatum⟩ := by
  simp only [bind_eq_ok_iff, pure_eq_ok, Except.ok.injEq] at done
  obtain ⟨cells, computed, rfl⟩ := done
  obtain ⟨each, rfl⟩ := mapM_eq_ok Cell.null computed
  refine ⟨each, ?_⟩
  rw [List.map_map]
  rfl

theorem planUpdate_eq_ok {query : UpdateQuery} {plan : UpdatePlan}
    (done : evaluator.planUpdate query table = .ok plan) :
    ∃ picked,
      evaluator.selectRows table (query.filter.getD everyRow) query.orderBy query.limit =
        .ok picked ∧
      plan = evaluator.updatePlan table query.assignments picked ∧
      (∀ assignment ∈ query.assignments,
        table.resolve assignment.column = .ok (target table assignment)) ∧
      ∀ row ∈ picked, ∀ assignment ∈ query.assignments,
        evaluator.value (.ofRow table row.cells) assignment.value =
          .ok (evaluator.assigned table row assignment) := by
  unfold planUpdate at done
  rw [bind_eq_ok_iff] at done
  obtain ⟨places, resolved, done⟩ := done
  rw [bind_eq_ok_iff] at done
  obtain ⟨_, _, done⟩ := done
  rw [bind_eq_ok_iff] at done
  obtain ⟨picked, selected, done⟩ := done
  rw [bind_eq_ok_iff] at done
  obtain ⟨updates, evaluated, done⟩ := done
  cases done
  obtain ⟨eachResolved, rfl⟩ := mapM_eq_ok 0 ((lift_validation_eq_ok_iff _ _).mp resolved)
  obtain ⟨eachRow, rfl⟩ := mapM_eq_ok ⟨0, []⟩ evaluated
  refine ⟨picked, selected, ?_, eachResolved, fun row membership =>
    (rowUpdate_eq_ok (eachRow row membership)).1⟩
  rw [updatePlan, UpdatePlan.mk.injEq]
  exact ⟨rfl, List.map_congr_left fun row membership =>
    (rowUpdate_eq_ok (eachRow row membership)).2⟩

theorem planDelete_eq_ok {query : DeleteQuery} {ordinals : List Nat}
    (done : evaluator.planDelete query table = .ok ordinals) :
    ∃ picked,
      evaluator.selectRows table (query.filter.getD everyRow) query.orderBy query.limit =
        .ok picked ∧
      ordinals = picked.map (·.ordinal) := by
  simp only [planDelete, bind_eq_ok_iff, pure_eq_ok, Except.ok.injEq] at done
  obtain ⟨picked, selected, rfl⟩ := done
  exact ⟨picked, selected, rfl⟩

end Evaluator

/-! ### What the grid is asked for -/

theorem insertGrid_eq_ok {evaluator : Evaluator} {query : InsertQuery} {table : Option Table}
    {location : Location} {plan : GridPlan}
    (done : insertGrid evaluator query table location = .ok plan) :
    ∃ rows, evaluator.planInsert query table none = .ok rows ∧ plan.count = rows.length ∧
      plan.call = some (.appendRows location rows) := by
  rw [insertGrid, bind_eq_ok_iff] at done
  obtain ⟨rows, planned, done⟩ := done
  cases done
  exact ⟨rows, planned, rfl, rfl⟩

theorem updateGrid_eq_ok {evaluator : Evaluator} {query : UpdateQuery} {table : Table}
    {location : Location} {headerRows : Nat} {plan : GridPlan}
    (done : updateGrid evaluator query table location headerRows = .ok plan) :
    ∃ updates, evaluator.planUpdate query table = .ok updates ∧
      updates.passesNumerals location headerRows = false ∧
      plan.count = updates.updates.length ∧
      (updates.updates = [] ∧ plan.call = none ∨
        plan.call =
          some (.updateCells location (cellUpdates table location headerRows updates))) := by
  rw [updateGrid, bind_eq_ok_iff] at done
  obtain ⟨updates, planned, done⟩ := done
  refine ⟨updates, planned, ?_⟩
  cases long : updates.passesNumerals location headerRows with
  | true => simp [long] at done
  | false =>
      simp only [long, Bool.false_eq_true, if_false] at done
      cases done
      refine ⟨rfl, rfl, ?_⟩
      cases none : updates.updates with
      | nil => exact .inl ⟨rfl, by simp⟩
      | cons first rest => exact .inr (by simp)

theorem deleteGrid_eq_ok {evaluator : Evaluator} {query : DeleteQuery} {table : Table}
    {location : Location} {headerRows : Nat} {plan : GridPlan}
    (done : deleteGrid evaluator query table location headerRows = .ok plan) :
    ∃ ordinals, evaluator.planDelete query table = .ok ordinals ∧
      plan.count = ordinals.length ∧
      (ordinals = [] ∧ plan.call = none ∨
        plan.call = some (.deleteRows location
          ((ordinals.map (sheetRow location headerRows)).mergeSort
            fun left right => decide (left ≤ right)))) := by
  rw [deleteGrid, bind_eq_ok_iff] at done
  obtain ⟨ordinals, planned, done⟩ := done
  refine ⟨ordinals, planned, ?_⟩
  cases done
  refine ⟨rfl, ?_⟩
  cases ordinals with
  | nil => exact .inl ⟨rfl, by simp⟩
  | cons first rest => exact .inr (by simp)

end GridQuery

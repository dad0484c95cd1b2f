import GridQuery.Proofs.Mutation

/-!
# Rows with values assigned

An UPDATE of a virtual table fills a row up to the width of the table and sets the values of
its assignments one after another, so that of two for one column the later stays. All other
data of the row are as they were, also past the last column.
-/

namespace GridQuery

/-! ### Values set at places -/

/-- A row with values set at places one after another. -/
def setAll (row : List Datum) (pairs : List (Nat × Datum)) : List Datum :=
  pairs.foldl (fun done (place, value) => done.set place value) row

variable {row other : List Datum} {pairs earlier later : List (Nat × Datum)} {place : Nat}
  {value : Datum}

@[simp]
theorem length_setAll (row : List Datum) (pairs : List (Nat × Datum)) :
    (setAll row pairs).length = row.length := by
  induction pairs generalizing row with
  | nil => rfl
  | cons pair pairs inductionHypothesis =>
      exact (inductionHypothesis (row.set pair.1 pair.2)).trans List.length_set

theorem getElem?_setAll_of_forall_ne (elsewhere : ∀ pair ∈ pairs, pair.1 ≠ place) :
    (setAll row pairs)[place]? = row[place]? := by
  induction pairs generalizing row with
  | nil => rfl
  | cons pair pairs inductionHypothesis =>
      have rest : (setAll (row.set pair.1 pair.2) pairs)[place]? =
          (row.set pair.1 pair.2)[place]? :=
        inductionHypothesis fun other among => elsewhere other (List.mem_cons_of_mem pair among)
      exact rest.trans (List.getElem?_set_ne (elsewhere pair List.mem_cons_self))

theorem getElem?_setAll_last (inside : place < row.length)
    (final : ∀ pair ∈ later, pair.1 ≠ place) :
    (setAll row (earlier ++ (place, value) :: later))[place]? = some value := by
  have split : setAll row (earlier ++ (place, value) :: later) =
      setAll ((setAll row earlier).set place value) later := by
    rw [setAll, List.foldl_append, List.foldl_cons]
    rfl
  rw [split, getElem?_setAll_of_forall_ne final,
    List.getElem?_set_self (by rwa [length_setAll])]

/-- What is set does not depend on what stood at the places that are set. -/
theorem setAll_congr (size : row.length = other.length)
    (same : ∀ place, (∀ pair ∈ pairs, pair.1 ≠ place) → row[place]? = other[place]?) :
    setAll row pairs = setAll other pairs := by
  induction pairs generalizing row other with
  | nil => exact List.ext_getElem? fun place => same place fun pair among => by cases among
  | cons pair pairs inductionHypothesis =>
      refine inductionHypothesis (by simpa using size) fun place elsewhere => ?_
      rw [List.getElem?_set, List.getElem?_set, size]
      split
      · rfl
      · next apart =>
          exact same place (List.forall_mem_cons.mpr ⟨apart, elsewhere⟩)

theorem setAll_setAll : setAll (setAll row pairs) pairs = setAll row pairs :=
  setAll_congr (length_setAll row pairs) fun _ => getElem?_setAll_of_forall_ne

/-! ### Rows of a virtual table -/

/-- A row filled up with empty texts to a width. -/
def widened (width : Nat) (row : List Datum) : List Datum :=
  row ++ List.replicate (width - row.length) (.text "")

variable {width : Nat}

theorem length_widened : (widened width row).length = max row.length width := by
  rw [widened, List.length_append, List.length_replicate]
  omega

theorem widened_eq_self (wide : width ≤ row.length) : widened width row = row := by
  rw [widened, Nat.sub_eq_zero_of_le wide, List.replicate_zero, List.append_nil]

theorem getElem?_widened_of_lt (inside : place < row.length) :
    (widened width row)[place]? = row[place]? :=
  List.getElem?_append_left inside

theorem getElem?_widened_of_le (short : row.length ≤ place) (inside : place < width) :
    (widened width row)[place]? = some (.text "") := by
  rw [widened, List.getElem?_append_right short, List.getElem?_replicate,
    if_pos (by omega)]

theorem assignRow_eq {places : List Nat} {values : List Datum} :
    assignRow width places values row = setAll (widened width row) (places.zip values) := rfl

theorem length_assignRow {places : List Nat} {values : List Datum} :
    (assignRow width places values row).length = max row.length width := by
  rw [assignRow_eq, length_setAll, length_widened]

/-- Assigning the same values once more changes nothing. -/
theorem assignRow_assignRow {places : List Nat} {values : List Datum} :
    assignRow width places values (assignRow width places values row) =
      assignRow width places values row := by
  have wide : width ≤ (assignRow width places values row).length := by
    rw [length_assignRow]
    exact Nat.le_max_right row.length width
  rw [assignRow_eq, widened_eq_self wide, assignRow_eq, setAll_setAll]

theorem getElem?_applyUpdates {plan : UpdatePlan} {rows : List (List Datum)} {ordinal : Nat} :
    (applyUpdates width plan rows)[ordinal]? = rows[ordinal]?.map fun row =>
      match plan.updates.find? (·.ordinal == ordinal) with
      | some update => assignRow width plan.places update.values row
      | none => row := by
  simp only [applyUpdates, List.getElem?_map, List.getElem?_zipIdx, Option.map_map, Nat.zero_add]
  rfl

namespace Evaluator

variable {evaluator : Evaluator} {table : Table} {assignments : List Assignment}
  {picked : List Row} {rows : List (List Datum)}

/-- The values of assignments in a row, in the order of the assignments. -/
def assignedData (evaluator : Evaluator) (table : Table) (assignments : List Assignment)
    (row : Row) : List Datum :=
  assignments.map fun assignment => (evaluator.assigned table row assignment).toDatum

theorem find?_updatePlan (distinct : (picked.map (·.ordinal)).Nodup) {row : Row}
    (among : row ∈ picked) :
    (evaluator.updatePlan table assignments picked).updates.find? (·.ordinal == row.ordinal) =
      some ⟨row.ordinal, evaluator.assignedData table assignments row⟩ := by
  have found : picked.find? (·.ordinal == row.ordinal) = some row := by
    refine find?_eq_some_of_unique among (beq_self_eq_true row.ordinal) ?_
    intro other otherAmong same
    exact List.inj_on_of_nodup_map distinct otherAmong among (beq_iff_eq.mp same)
  rw [updatePlan, List.find?_map]
  exact congrArg _ found

theorem getElem?_applyUpdates_of_mem (distinct : (picked.map (·.ordinal)).Nodup) {row : Row}
    (among : row ∈ picked) {items : List Datum} (here : rows[row.ordinal]? = some items) :
    (applyUpdates width (evaluator.updatePlan table assignments picked) rows)[row.ordinal]? =
      some (assignRow width (assignments.map (target table))
        (evaluator.assignedData table assignments row) items) := by
  rw [getElem?_applyUpdates, here, find?_updatePlan distinct among]
  rfl

theorem getElem?_applyUpdates_of_not_mem {ordinal : Nat}
    (spared : ordinal ∉ picked.map (·.ordinal)) :
    (applyUpdates width (evaluator.updatePlan table assignments picked) rows)[ordinal]? =
      rows[ordinal]? := by
  have none : (evaluator.updatePlan table assignments picked).updates.find?
      (·.ordinal == ordinal) = none := by
    simpa [updatePlan] using spared
  rw [getElem?_applyUpdates, none]
  exact Option.map_id' ..

end Evaluator

/-- What assignments make of a row of a virtual table. Their values are those in the cells
that stood for the row before any of them. -/
structure AssignedRow (evaluator : Evaluator) (table : Table) (assignments : List Assignment)
    (cells : List Cell) (before after : List Datum) : Prop where
  size : after.length = max before.length table.columns.length
  /-- The last assignment for a column counts. -/
  assigned : ∀ earlier assignment later, assignments = earlier ++ assignment :: later →
    ∀ place, table.resolve assignment.column = .ok place →
      (∀ other ∈ later, table.resolve other.column ≠ .ok place) →
      ∃ cell, evaluator.value (.ofRow table cells) assignment.value = .ok cell ∧
        after[place]? = some cell.toDatum
  kept : ∀ place, (∀ assignment ∈ assignments, table.resolve assignment.column ≠ .ok place) →
    place < before.length → after[place]? = before[place]?
  filled : ∀ place, (∀ assignment ∈ assignments, table.resolve assignment.column ≠ .ok place) →
    before.length ≤ place → place < table.columns.length → after[place]? = some (.text "")

theorem assignedRow_assignRow {evaluator : Evaluator} {table : Table}
    {assignments : List Assignment} {row : Row}
    (resolved : ∀ assignment ∈ assignments,
      table.resolve assignment.column = .ok (Evaluator.target table assignment))
    (valued : ∀ assignment ∈ assignments,
      evaluator.value (.ofRow table row.cells) assignment.value =
        .ok (evaluator.assigned table row assignment)) (items : List Datum) :
    AssignedRow evaluator table assignments row.cells items
      (assignRow table.columns.length (assignments.map (Evaluator.target table))
        (evaluator.assignedData table assignments row) items) := by
  have pairs : (assignments.map (Evaluator.target table)).zip
      (evaluator.assignedData table assignments row) = assignments.map fun assignment =>
        (Evaluator.target table assignment, (evaluator.assigned table row assignment).toDatum) :=
    List.zip_map' ..
  have elsewhere {place : Nat} {part : List Assignment} (within : part ⊆ assignments)
      (apart : ∀ assignment ∈ part, table.resolve assignment.column ≠ .ok place) :
      ∀ pair ∈ part.map fun assignment => (Evaluator.target table assignment,
        (evaluator.assigned table row assignment).toDatum), pair.1 ≠ place := by
    rintro _ membership same
    obtain ⟨assignment, among, rfl⟩ := List.mem_map.mp membership
    exact apart assignment among (same ▸ resolved assignment (within among))
  constructor
  case size => exact length_assignRow
  case assigned =>
    rintro earlier assignment later rfl place here final
    have among : assignment ∈ earlier ++ assignment :: later := by simp
    have target := resolved assignment among
    rw [here, Except.ok.injEq] at target
    refine ⟨_, valued assignment among, ?_⟩
    rw [assignRow_eq, pairs, List.map_append, List.map_cons, ← target]
    refine getElem?_setAll_last ?_ (elsewhere (fun other later => by simp [later]) final)
    rw [length_widened]
    exact Nat.lt_of_lt_of_le (Table.resolve_lt here) (Nat.le_max_right ..)
  case kept =>
    intro place apart inside
    rw [assignRow_eq, pairs, getElem?_setAll_of_forall_ne
      (elsewhere (List.Subset.refl assignments) apart), getElem?_widened_of_lt inside]
  case filled =>
    intro place apart short inside
    rw [assignRow_eq, pairs, getElem?_setAll_of_forall_ne
      (elsewhere (List.Subset.refl assignments) apart), getElem?_widened_of_le short inside]

end GridQuery

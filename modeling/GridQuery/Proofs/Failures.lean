import GridQuery.Proofs.Fallible

/-!
# What a computation can fail with

`FailsOnly` says of each failure of a computation that it is an allowed one. There is one
rule for each way to put computations together.
-/

namespace GridQuery

variable {Failure Item Next : Type} {allowed : Failure → Prop}

/-- A computation that fails, fails in an allowed way. -/
def FailsOnly (allowed : Failure → Prop) (step : Except Failure Item) : Prop :=
  ∀ failure, step = .error failure → allowed failure

/-- The failures of a statement that is not valid are allowed ones. -/
def WhenInvalid (allowed : ValidationError → Prop) : Error → Prop
  | .invalid cause => allowed cause
  | _ => True

namespace FailsOnly

theorem pure (value : Item) : FailsOnly allowed (Pure.pure value : Except Failure Item) := by
  rintro failure ⟨⟩

theorem ok (value : Item) : FailsOnly allowed (.ok value : Except Failure Item) := by
  rintro failure ⟨⟩

theorem throw {failure : Failure} (permitted : allowed failure) :
    FailsOnly allowed (MonadExcept.throw failure : Except Failure Item) := by
  rintro _ ⟨⟩
  exact permitted

theorem error {failure : Failure} (permitted : allowed failure) :
    FailsOnly allowed (.error failure : Except Failure Item) := by
  rintro _ ⟨⟩
  exact permitted

theorem ite {condition : Prop} [Decidable condition] {first second : Except Failure Item}
    (holds : FailsOnly allowed first) (fails : FailsOnly allowed second) :
    FailsOnly allowed (if condition then first else second) := by
  split
  · exact holds
  · exact fails

theorem of_eq_ok {step : Except Failure Item} {value : Item} (done : step = .ok value) :
    FailsOnly allowed step := by
  rw [done]
  exact ok value

theorem mono {others : Failure → Prop} {step : Except Failure Item}
    (fails : FailsOnly allowed step) (wider : ∀ failure, allowed failure → others failure) :
    FailsOnly others step := by
  intro failure failed
  apply wider
  exact fails failure failed

theorem bind {step : Except Failure Item} {next : Item → Except Failure Next}
    (first : FailsOnly allowed step)
    (second : ∀ value, step = .ok value → FailsOnly allowed (next value)) :
    FailsOnly allowed (step >>= next) := by
  intro failure failed
  cases done : step with
  | error cause =>
      rw [done] at failed
      cases failed
      exact first _ done
  | ok value =>
      rw [done] at failed
      exact second value done failure failed

theorem map {step : Except Failure Item} (convert : Item → Next)
    (fails : FailsOnly allowed step) : FailsOnly allowed (step.map convert) := by
  intro failure failed
  cases done : step with
  | error cause =>
      rw [done] at failed
      cases failed
      exact fails _ done
  | ok value =>
      rw [done] at failed
      cases failed

theorem mapM {step : Item → Except Failure Next} {items : List Item}
    (each : ∀ item ∈ items, FailsOnly allowed (step item)) :
    FailsOnly allowed (items.mapM step) := by
  induction items with
  | nil => exact pure []
  | cons item items inductionHypothesis =>
      rw [List.mapM_cons]
      apply bind (each item List.mem_cons_self)
      intro value _
      apply bind
      · exact inductionHypothesis fun other among => each other (List.mem_cons_of_mem item among)
      · exact fun values _ => pure _

theorem forM {step : Item → Except Failure Unit} {items : List Item}
    (each : ∀ item ∈ items, FailsOnly allowed (step item)) :
    FailsOnly allowed (items.forM step) := by
  induction items with
  | nil => exact pure ()
  | cons item items inductionHypothesis =>
      simp only [List.forM_eq_forM, List.forM_cons] at inductionHypothesis ⊢
      apply bind (each item List.mem_cons_self)
      intro _ _
      exact inductionHypothesis fun other among => each other (List.mem_cons_of_mem item among)

theorem filterMapM {step : Item → Except Failure (Option Next)} {items : List Item}
    (each : ∀ item ∈ items, FailsOnly allowed (step item)) :
    FailsOnly allowed (items.filterMapM step) := by
  induction items with
  | nil => exact pure []
  | cons item items inductionHypothesis =>
      have later := inductionHypothesis fun other among =>
        each other (List.mem_cons_of_mem item among)
      rw [List.filterMapM_cons]
      apply bind (each item List.mem_cons_self)
      intro value _
      cases value with
      | none => exact later
      | some value => exact bind later fun values _ => pure _

theorem filterM {test : Item → Except Failure Bool} {items : List Item}
    (each : ∀ item ∈ items, FailsOnly allowed (test item)) :
    FailsOnly allowed (items.filterM test) := by
  have general (kept : List Item) : FailsOnly allowed (List.filterAuxM test items kept) := by
    induction items generalizing kept with
    | nil => exact pure kept
    | cons item items inductionHypothesis =>
        rw [List.filterAuxM]
        apply bind (each item List.mem_cons_self)
        intro passed _
        exact inductionHypothesis (fun other among => each other (List.mem_cons_of_mem item among))
          _
  rw [List.filterM]
  apply bind (general [])
  intro kept _
  exact pure _

theorem lift_validation {allowed : ValidationError → Prop} {step : Except ValidationError Item}
    (fails : FailsOnly allowed step) :
    FailsOnly (WhenInvalid allowed) (liftM step : Except Error Item) := by
  intro failure failed
  cases done : step with
  | error cause =>
      rw [done] at failed
      cases failed
      exact fails _ done
  | ok value =>
      rw [done] at failed
      cases failed

/-- A fault of data is no fault of the statement. -/
theorem lift_data (allowed : ValidationError → Prop) (step : Except DataFault Item) :
    FailsOnly (WhenInvalid allowed) (liftM step : Except Error Item) := by
  intro failure failed
  cases done : step with
  | error fault =>
      rw [done] at failed
      cases failed
      trivial
  | ok value =>
      rw [done] at failed
      cases failed

end FailsOnly

end GridQuery

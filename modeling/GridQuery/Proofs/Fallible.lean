import GridQuery.Expr.Eval
import Mathlib.Data.List.Forall2

/-!
# Computations that may fail

What a computation in `Except` has gone through once it has a result: the steps of a bind,
the parts of a map, a filter and a check over a list.
-/

namespace GridQuery

instance decidableEqExcept {Failure Result : Type} [DecidableEq Failure] [DecidableEq Result] :
    DecidableEq (Except Failure Result)
  | .error failure, .error other =>
      decidable_of_iff (failure = other) ⟨congrArg Except.error, Except.error.inj⟩
  | .ok result, .ok other => decidable_of_iff (result = other) ⟨congrArg Except.ok, Except.ok.inj⟩
  | .error _, .ok _ => isFalse (by simp)
  | .ok _, .error _ => isFalse (by simp)

variable {Failure Item Result : Type}

@[simp]
theorem bind_eq_ok_iff {Next : Type} (step : Except Failure Item)
    (next : Item → Except Failure Next) (result : Next) :
    (step >>= next) = .ok result ↔ ∃ value, step = .ok value ∧ next value = .ok result := by
  cases step with
  | error failure => simp [bind, Except.bind]
  | ok value => simp [bind, Except.bind]

@[simp]
theorem pure_eq_ok (value : Item) : (pure value : Except Failure Item) = .ok value := rfl

@[simp]
theorem throw_ne_ok (failure : Failure) (result : Item) :
    (throw failure : Except Failure Item) ≠ .ok result := by
  simp [throw, throwThe, MonadExceptOf.throw]

@[simp]
theorem functor_map_eq_ok_iff (convert : Item → Result) (step : Except Failure Item)
    (result : Result) :
    convert <$> step = .ok result ↔ ∃ value, step = .ok value ∧ convert value = result := by
  cases step <;> simp [Functor.map, Except.map]

@[simp]
theorem map_eq_ok_iff (convert : Item → Result) (step : Except Failure Item)
    (result : Result) :
    step.map convert = .ok result ↔ ∃ value, step = .ok value ∧ convert value = result := by
  cases step <;> simp [Except.map]

/-- A check of a statement that has passed has passed on its own. -/
@[simp]
theorem lift_validation_eq_ok_iff (step : Except ValidationError Item) (result : Item) :
    (liftM step : Except Error Item) = .ok result ↔ step = .ok result := by
  cases step <;> simp [liftM, monadLift, MonadLift.monadLift]

@[simp]
theorem lift_data_eq_ok_iff (step : Except DataFault Item) (result : Item) :
    (liftM step : Except Error Item) = .ok result ↔ step = .ok result := by
  cases step <;> simp [liftM, monadLift, MonadLift.monadLift]

/-- It is enough that what follows on a step is the same for its result. -/
theorem bind_congr_of_ok {Next : Type} {step : Except Failure Item}
    {next other : Item → Except Failure Next}
    (same : ∀ value, step = .ok value → next value = other value) :
    (step >>= next) = step >>= other := by
  cases step with
  | error failure => rfl
  | ok value => exact same value rfl

theorem mapM_congr_of_mem {step other : Item → Except Failure Result} {items : List Item}
    (same : ∀ item ∈ items, step item = other item) : items.mapM step = items.mapM other := by
  induction items with
  | nil => rfl
  | cons first rest inductionHypothesis =>
      have later := inductionHypothesis fun item among =>
        same item (List.mem_cons_of_mem first among)
      rw [List.mapM_cons, List.mapM_cons, same first List.mem_cons_self, later]

/-- The results of a map over a list are those of its items, one for each. -/
theorem mapM_eq_ok_iff {step : Item → Except Failure Result} {items : List Item}
    {results : List Result} :
    items.mapM step = .ok results ↔
      List.Forall₂ (fun item result => step item = .ok result) items results := by
  induction items generalizing results with
  | nil => simp [eq_comm]
  | cons first rest inductionHypothesis =>
      simp only [List.mapM_cons, bind_eq_ok_iff, pure_eq_ok, Except.ok.injEq,
        inductionHypothesis, List.forall₂_cons_left_iff]
      constructor
      · rintro ⟨value, here, values, later, rfl⟩
        exact ⟨value, values, here, later, rfl⟩
      · rintro ⟨value, values, here, later, rfl⟩
        exact ⟨value, here, values, later, rfl⟩

/-- A map over a list that has a result is a plain map. -/
theorem mapM_eq_ok (otherwise : Result) {step : Item → Except Failure Result}
    {items : List Item} {results : List Result} (done : items.mapM step = .ok results) :
    (∀ item ∈ items, step item = .ok ((step item).toOption.getD otherwise)) ∧
      results = items.map fun item => (step item).toOption.getD otherwise := by
  rw [mapM_eq_ok_iff] at done
  induction done with
  | nil => simp
  | cons here _ inductionHypothesis =>
      obtain ⟨each, rfl⟩ := inductionHypothesis
      simpa [here, Except.toOption] using each

/-- What each result shows of its item, all results show of the items. -/
theorem map_of_mapM_eq_ok {Seen : Type} {step : Item → Except Failure Result}
    {view : Result → Seen} {seen : Item → Seen}
    (each : ∀ item result, step item = .ok result → view result = seen item)
    {items : List Item} {results : List Result} (done : items.mapM step = .ok results) :
    results.map view = items.map seen := by
  symm
  rw [← List.forall₂_eq_eq_eq, List.forall₂_map_left_iff, List.forall₂_map_right_iff]
  exact (mapM_eq_ok_iff.mp done).imp fun item result made => (each item result made).symm

theorem length_of_mapM_eq_ok {step : Item → Except Failure Result}
    {items : List Item} {results : List Result} (done : items.mapM step = .ok results) :
    results.length = items.length :=
  (mapM_eq_ok_iff.mp done).length_eq.symm

theorem mapM_eq_ok_of_forall {step : Item → Except Failure Result} {items : List Item}
    {value : Item → Result} (each : ∀ item ∈ items, step item = .ok (value item)) :
    items.mapM step = .ok (items.map value) := by
  rw [mapM_eq_ok_iff, List.forall₂_map_right_iff, List.forall₂_same]
  exact each

theorem exists_mapM_eq_ok {step : Item → Except Failure Result} {items : List Item}
    (each : ∀ item ∈ items, ∃ result, step item = .ok result) :
    ∃ results, items.mapM step = .ok results := by
  induction items with
  | nil => exact ⟨[], rfl⟩
  | cons first rest inductionHypothesis =>
      obtain ⟨value, here⟩ := each first List.mem_cons_self
      obtain ⟨values, later⟩ :=
        inductionHypothesis fun item among => each item (List.mem_cons_of_mem first among)
      exact ⟨value :: values, by simp [here, later]⟩

theorem getElem?_of_mapM_eq_ok {step : Item → Except Failure Result} {items : List Item}
    {results : List Result} (done : items.mapM step = .ok results) {place : Nat} {item : Item}
    (here : items[place]? = some item) :
    ∃ result, step item = .ok result ∧ results[place]? = some result := by
  rw [mapM_eq_ok_iff] at done
  induction done generalizing place with
  | nil => cases here
  | cons made _ inductionHypothesis =>
      cases place with
      | zero =>
          cases here
          exact ⟨_, made, rfl⟩
      | succ place => exact inductionHypothesis here

/-- A map over a list that drops items and has a result is a plain one. -/
theorem filterMapM_eq_ok {step : Item → Except Failure (Option Result)} {items : List Item}
    {results : List Result} (done : items.filterMapM step = .ok results) :
    (∀ item ∈ items, step item = .ok ((step item).toOption.getD none)) ∧
      results = items.filterMap fun item => (step item).toOption.getD none := by
  induction items generalizing results with
  | nil => simpa [eq_comm] using done
  | cons first rest inductionHypothesis =>
      simp only [List.filterMapM_cons, bind_eq_ok_iff] at done
      obtain ⟨value, here, continued⟩ := done
      have later : ∃ values, rest.filterMapM step = .ok values ∧
          results = value.toList ++ values := by
        cases value with
        | none => exact ⟨results, continued, rfl⟩
        | some value =>
            simp only [bind_eq_ok_iff, pure_eq_ok, Except.ok.injEq] at continued
            obtain ⟨values, later, rfl⟩ := continued
            exact ⟨values, later, rfl⟩
      obtain ⟨values, later, rfl⟩ := later
      have ⟨each, mapped⟩ := inductionHypothesis later
      constructor
      · intro item membership
        rcases List.mem_cons.mp membership with rfl | membership
        · simp [here, Except.toOption]
        · exact each item membership
      · cases value <;> simp [here, Except.toOption, mapped]

theorem exists_of_mem_filterMapM {step : Item → Except Failure (Option Result)}
    {items : List Item} {results : List Result} (done : items.filterMapM step = .ok results)
    {result : Result} (among : result ∈ results) :
    ∃ item ∈ items, step item = .ok (some result) := by
  have ⟨each, made⟩ := filterMapM_eq_ok done
  rw [made] at among
  obtain ⟨item, inItems, found⟩ := List.mem_filterMap.mp among
  exact ⟨item, inItems, found ▸ each item inItems⟩

theorem exists_of_mem_mapM {step : Item → Except Failure Result} {items : List Item}
    {results : List Result} (done : items.mapM step = .ok results) {result : Result}
    (among : result ∈ results) : ∃ item ∈ items, step item = .ok result := by
  have ⟨each, made⟩ := mapM_eq_ok result done
  rw [made] at among
  obtain ⟨item, inItems, found⟩ := List.mem_map.mp among
  exact ⟨item, inItems, found ▸ each item inItems⟩

theorem forM_eq_ok_iff {step : Item → Except Failure Unit} {items : List Item} :
    items.forM step = .ok () ↔ ∀ item ∈ items, step item = .ok () := by
  induction items with
  | nil => simp [List.forM, pure, Except.pure]
  | cons first rest inductionHypothesis =>
      simp only [List.forM_eq_forM] at inductionHypothesis
      simp only [List.forM_eq_forM, List.forM_cons, bind_eq_ok_iff, inductionHypothesis,
        List.forall_mem_cons]
      exact ⟨fun ⟨_, here, later⟩ => ⟨here, later⟩, fun ⟨here, later⟩ => ⟨(), here, later⟩⟩

/-- An item that passes a check if those before it do can be left out. -/
theorem forM_insert_of_ok {step : Item → Except Failure Unit} {item : Item} {before : List Item}
    (passes : before.forM step = .ok () → step item = .ok ()) (after : List Item) :
    (before ++ item :: after).forM step = (before ++ after).forM step := by
  simp only [List.forM_eq_forM, List.forM_append, List.forM_cons]
  refine bind_congr_of_ok fun _ passed => ?_
  rw [passes passed]
  rfl

theorem filterAuxM_eq_ok {test : Item → Except Failure Bool} {items kept result : List Item}
    (done : List.filterAuxM test items kept = .ok result) :
    ∃ passes : Item → Bool, (∀ item ∈ items, test item = .ok (passes item)) ∧
      result = (items.filter passes).reverse ++ kept := by
  refine ⟨fun item => (test item).toOption.getD false, ?_⟩
  induction items generalizing kept with
  | nil => simpa [List.filterAuxM, eq_comm] using done
  | cons first rest inductionHypothesis =>
      simp only [List.filterAuxM, bind_eq_ok_iff] at done
      obtain ⟨passed, here, later⟩ := done
      have ⟨each, filtered⟩ := inductionHypothesis later
      constructor
      · intro item membership
        rcases List.mem_cons.mp membership with rfl | membership
        · simp [here, Except.toOption]
        · exact each item membership
      · cases passed <;> simp [here, Except.toOption, filtered]

/-- A filter of a list that has a result is a plain filter. -/
theorem filterM_eq_ok {test : Item → Except Failure Bool} {items result : List Item}
    (done : items.filterM test = .ok result) :
    ∃ passes : Item → Bool,
      (∀ item ∈ items, test item = .ok (passes item)) ∧ result = items.filter passes := by
  simp only [List.filterM, bind_eq_ok_iff, pure_eq_ok, Except.ok.injEq] at done
  obtain ⟨reversed, filtered, rfl⟩ := done
  obtain ⟨passes, each, rfl⟩ := filterAuxM_eq_ok filtered
  exact ⟨passes, each, by simp⟩

theorem filterM_eq_ok_of_forall {test : Item → Except Failure Bool} {items : List Item}
    {passes : Item → Bool} (each : ∀ item ∈ items, test item = .ok (passes item)) :
    items.filterM test = .ok (items.filter passes) := by
  have general : ∀ kept, List.filterAuxM test items kept =
      .ok ((items.filter passes).reverse ++ kept) := by
    induction items with
    | nil => intro kept; rfl
    | cons first rest inductionHypothesis =>
        intro kept
        have later := inductionHypothesis fun item membership =>
          each item (List.mem_cons_of_mem first membership)
        simp only [List.filterAuxM, bind_eq_ok_iff, each first List.mem_cons_self]
        refine ⟨_, rfl, ?_⟩
        cases passed : passes first <;> simp [later, passed]
  simp [List.filterM, general]

end GridQuery

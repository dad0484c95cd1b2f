import GridQuery.Engine
import GridQuery.Proofs.Fallible

/-!
# Steps of a statement

A step is a function of the session: it runs its parts one after another and stops at the
first that fails.
-/

namespace GridQuery

namespace Step

variable {State Result Next : Type}

@[simp]
theorem pure_apply (value : Result) (session : Session State) :
    (pure value : Step State Result) session = (.ok value, session) := rfl

@[simp]
theorem throw_apply (error : Error) (session : Session State) :
    (throw error : Step State Result) session = (.error error, session) := rfl

@[simp]
theorem liftM_apply (step : Except Error Result) (session : Session State) :
    (liftM step : Step State Result) session = (step, session) := rfl

@[simp]
theorem lift_data_apply (step : Except DataFault Result) (session : Session State) :
    (liftM step : Step State Result) session = ((liftM step : Except Error Result), session) :=
  rfl

@[simp]
theorem get_apply (session : Session State) :
    (get : Step State (Session State)) session = (.ok session, session) := rfl

@[simp]
theorem modify_apply (change : Session State → Session State) (session : Session State) :
    (modify change : Step State Unit) session = (.ok (), change session) := rfl

theorem bind_apply (step : Step State Result) (next : Result → Step State Next)
    (session : Session State) :
    (step >>= next) session =
      match step session with
      | (.ok value, session) => next value session
      | (.error error, session) => (.error error, session) := by
  simp only [bind, ExceptT.bind, ExceptT.mk, StateT.bind, ExceptT.bindCont]
  rcases step session with ⟨_ | _, _⟩ <;> rfl

/-- A step with a result has gone through its parts. -/
@[simp]
theorem bind_eq_ok_iff (step : Step State Result) (next : Result → Step State Next)
    (before after : Session State) (result : Next) :
    (step >>= next) before = (.ok result, after) ↔
      ∃ value session, step before = (.ok value, session) ∧
        next value session = (.ok result, after) := by
  rw [bind_apply]
  rcases step before with ⟨outcome, middle⟩
  constructor
  · intro done
    cases outcome with
    | error error => cases done
    | ok value => exact ⟨value, middle, rfl, done⟩
  · rintro ⟨value, session, here, later⟩
    cases here
    exact later

theorem liftM_eq_ok_iff (step : Except Error Result) (before after : Session State)
    (result : Result) :
    (liftM step : Step State Result) before = (.ok result, after) ↔
      step = .ok result ∧ after = before := by
  constructor
  · intro done
    have outcome : step = .ok result := congrArg Prod.fst done
    have kept : before = after := congrArg Prod.snd done
    exact ⟨outcome, kept.symm⟩
  · rintro ⟨rfl, rfl⟩
    rfl

theorem ask_apply (source : GridSource State) (call : GridCall) (session : Session State) :
    ask source call session =
      ((source call session.grid).1.mapError fun failure => .remote (failure.toError call),
        ⟨(source call session.grid).2, session.calls ++ [call], session.cells⟩) := by
  rw [ask]
  rcases source call session.grid with ⟨_ | _, _⟩ <;> rfl

theorem ask_eq_ok {source : GridSource State} {call : GridCall} {before after : Session State}
    {datum : Datum} (done : ask source call before = (.ok datum, after)) :
    source call before.grid = (.ok datum, after.grid) := by
  rw [ask] at done
  rcases replied : source call before.grid with ⟨_ | _, grid⟩
  · rw [replied] at done
    cases done
  · rw [replied] at done
    cases done
    rfl

theorem readCells_apply (source : GridSource State) (location : Location)
    (session : Session State) :
    readCells source location session =
      match session.cells.lookup (location.spreadsheet, location.range) with
      | some cells => (.ok cells, session)
      | none =>
          match ask source (.readRange location) session with
          | (.ok cells, after) =>
              (.ok cells, { after with
                cells := ((location.spreadsheet, location.range), cells) :: after.cells })
          | (.error error, after) => (.error error, after) := by
  rw [readCells, bind_apply]
  simp only [get_apply]
  cases session.cells.lookup (location.spreadsheet, location.range) with
  | some cells => rfl
  | none =>
      simp only [bind_apply]
      rcases ask source (.readRange location) session with ⟨_ | _, _⟩ <;> rfl

end Step

/-! ### Changes of virtual tables and of ranges -/

namespace Engine

variable {State : Type} (engine : Engine State) {mutation : Mutation}

theorem change_of_range
    (onGrid : mutation.target.any (·.isVirtual) = false) :
    engine.change mutation = engine.changeGrid mutation := by
  rw [change]
  split
  · next target =>
      rw [target] at onGrid
      cases onGrid
  · rfl

theorem change_of_virtual (isVirtual : mutation.target.any (·.isVirtual) = true) :
    ∃ changed : Except Error MutationResult, engine.change mutation = liftM changed := by
  rw [change]
  split
  · exact ⟨_, rfl⟩
  · next onGrid =>
      rcases target : mutation.target with _ | ⟨name, _ | _, aliasName⟩
      · rw [target] at isVirtual
        cases isVirtual
      · rw [target] at isVirtual
        cases isVirtual
      · exact absurd target (onGrid name aliasName)

end Engine

end GridQuery

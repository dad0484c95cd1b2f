import GridQuery.Proofs.Engine.Step
import Mathlib.Data.List.Basic

/-!
# The calls of a step

A step of a statement makes calls one after another. It goes on only after an answer, so
that a call that fails is its last, and its own failure is what the step fails with.
-/

namespace GridQuery

variable {State Result Next : Type} {source : GridSource State}

/-- Calls that are all answered, one after another. -/
inductive Answers (source : GridSource State) : State → List GridCall → State → Prop where
  | nil (grid : State) : Answers source grid [] grid
  | cons {before middle after : State} {call : GridCall} {datum : Datum}
      {calls : List GridCall} (reply : source call before = (.ok datum, middle))
      (rest : Answers source middle calls after) : Answers source before (call :: calls) after

theorem Answers.append {before middle after : State} {earlier later : List GridCall}
    (first : Answers source before earlier middle) (rest : Answers source middle later after) :
    Answers source before (earlier ++ later) after := by
  induction first with
  | nil grid => exact rest
  | cons reply _ inductionHypothesis => exact .cons reply (inductionHypothesis rest)

theorem Answers.of_append {before after : State} {earlier later : List GridCall}
    (all : Answers source before (earlier ++ later) after) :
    ∃ middle, Answers source before earlier middle ∧ Answers source middle later after := by
  induction earlier generalizing before with
  | nil => exact ⟨before, .nil before, all⟩
  | cons call earlier inductionHypothesis =>
      cases all with
      | cons reply rest =>
          obtain ⟨middle, first, last⟩ := inductionHypothesis rest
          exact ⟨middle, .cons reply first, last⟩

/-- None of the calls writes. -/
def ReadsOnly (calls : List GridCall) : Prop :=
  ∀ call ∈ calls, call.isWrite = false

@[simp]
theorem readsOnly_nil : ReadsOnly [] := fun _ membership => by cases membership

/-- How a step with an outcome gets from one session to the next. Either all its calls are
answered, and if it fails nevertheless it has written nothing, or it fails as its last call
does and has written nothing before. -/
inductive Course (source : GridSource State) (before after : Session State)
    (outcome : Except Error Result) : List GridCall → Prop where
  | answered {made : List GridCall} (calls : after.calls = before.calls ++ made)
      (answers : Answers source before.grid made after.grid)
      (safe : ∀ error, outcome = .error error → ReadsOnly made) :
      Course source before after outcome made
  | failed {made : List GridCall} {call : GridCall} {failure : GridFailure} {grid : State}
      (calls : after.calls = before.calls ++ (made ++ [call]))
      (answers : Answers source before.grid made grid)
      (reply : source call grid = (.error failure, after.grid))
      (told : outcome = .error (.remote (failure.toError call)))
      (reads : ReadsOnly made) :
      Course source before after outcome (made ++ [call])

namespace Course

variable {before middle after : Session State} {made rest : List GridCall}

theorem calls_eq {outcome : Except Error Result}
    (course : Course source before after outcome made) :
    after.calls = before.calls ++ made := by
  cases course with
  | answered calls => exact calls
  | failed calls => exact calls

theorem refl (session : Session State) (outcome : Except Error Result) :
    Course source session session outcome [] :=
  .answered (List.append_nil _).symm (.nil session.grid) fun _ _ => readsOnly_nil

/-- Only steps that read can be followed by a step that may fail. -/
theorem append {value : Result} {outcome : Except Error Next}
    (first : Course source before middle (.ok value) made) (reads : ReadsOnly made)
    (later : Course source middle after outcome rest) :
    Course source before after outcome (made ++ rest) := by
  cases first with
  | failed _ _ _ told => cases told
  | answered calls answers _ =>
      cases later with
      | answered laterCalls laterAnswers safe =>
          refine .answered ?_ (answers.append laterAnswers) ?_
          · rw [laterCalls, calls, List.append_assoc]
          · intro error fails call membership
            rcases List.mem_append.mp membership with earlier | later
            · exact reads call earlier
            · exact safe error fails call later
      | failed laterCalls laterAnswers reply told laterReads =>
          rw [← List.append_assoc]
          refine .failed ?_ (answers.append laterAnswers) reply told ?_
          · rw [laterCalls, calls, List.append_assoc, List.append_assoc]
          · intro call membership
            rcases List.mem_append.mp membership with earlier | later
            · exact reads call earlier
            · exact laterReads call later

theorem of_error {error : Error}
    (course : Course source before after (.error error : Except Error Result) made) :
    Course source before after (.error error : Except Error Next) made := by
  cases course with
  | answered calls answers safe =>
      exact .answered calls answers fun _ _ => safe error rfl
  | failed calls answers reply told reads =>
      cases told
      exact .failed calls answers reply rfl reads

end Course

/-! ### Steps that follow a sequence of calls -/

/-- The calls of a step are the first ones of a sequence, and all of it if the step has a
result. -/
def Step.Follows (source : GridSource State) (step : Step State Result)
    (before : Session State) (full : List GridCall) : Prop :=
  ∃ made, made <+: full ∧ Course source before (step before).2 (step before).1 made ∧
    ∀ value, (step before).1 = .ok value → made = full

namespace Step.Follows

variable {before : Session State} {full : List GridCall}

theorem liftM (step : Except Error Result) :
    Follows source (liftM step : Step State Result) before [] :=
  ⟨[], List.prefix_rfl, .refl before step, fun _ _ => rfl⟩

/-- One call, whatever else becomes of the session. -/
theorem of_reply {step : Step State Result} {call : GridCall} {after : Session State}
    {outcome : Except Error Result} (done : step before = (outcome, after))
    (calls : after.calls = before.calls ++ [call])
    (reply : (∃ datum value, source call before.grid = (.ok datum, after.grid) ∧
        outcome = .ok value) ∨
      ∃ failure, source call before.grid = (.error failure, after.grid) ∧
        outcome = .error (.remote (failure.toError call))) :
    Follows source step before [call] := by
  refine ⟨[call], List.prefix_rfl, ?_, fun _ _ => rfl⟩
  rw [done]
  rcases reply with ⟨datum, value, answered, rfl⟩ | ⟨failure, failed, rfl⟩
  · refine .answered calls (.cons answered (.nil after.grid)) ?_
    intro error fails
    cases fails
  · have course : Course source before after
        (.error (.remote (failure.toError call)) : Except Error Result) ([] ++ [call]) :=
      .failed calls (.nil before.grid) failed rfl readsOnly_nil
    exact course

theorem ask (call : GridCall) : Follows source (Step.ask source call) before [call] := by
  rcases reply : source call before.grid with ⟨outcome, grid⟩
  have done := ask_apply source call before
  rw [reply] at done
  cases outcome with
  | ok datum => exact of_reply done rfl (.inl ⟨datum, datum, reply, rfl⟩)
  | error failure => exact of_reply done rfl (.inr ⟨failure, reply, rfl⟩)

/-- A step that reads, and then one whose calls depend on what was read. -/
theorem bind {step : Step State Result} {next : Result → Step State Next}
    {permits : List GridCall → Prop} {other : List GridCall}
    (first : Follows source step before full) (reads : ReadsOnly full)
    (possible : permits other)
    (later : ∀ value middle, step before = (.ok value, middle) →
      ∃ rest, permits rest ∧ Follows source (next value) middle rest) :
    ∃ rest, permits rest ∧ Follows source (step >>= next) before (full ++ rest) := by
  obtain ⟨made, begun, course, complete⟩ := first
  rcases done : step before with ⟨outcome, middle⟩
  rw [done] at course complete
  cases outcome with
  | error error =>
      refine ⟨other, possible, made, begun.trans (List.prefix_append full other), ?_, ?_⟩
      · rw [bind_apply, done]
        exact course.of_error
      · rw [bind_apply, done]
        intro value fails
        cases fails
  | ok value =>
      cases complete value rfl
      obtain ⟨rest, permitted, madeLater, begunLater, courseLater, completeLater⟩ :=
        later value middle done
      refine ⟨rest, permitted, full ++ madeLater, ?_, ?_, ?_⟩
      · exact List.prefix_append_right_inj full |>.mpr begunLater
      · rw [bind_apply, done]
        exact course.append reads courseLater
      · rw [bind_apply, done]
        intro result same
        rw [completeLater result same]

theorem map {step : Step State Result} (convert : Result → Next)
    (follows : Follows source step before full) :
    Follows source (step >>= fun value => pure (convert value)) before full := by
  obtain ⟨made, begun, course, complete⟩ := follows
  rcases done : step before with ⟨outcome, middle⟩
  rw [done] at course complete
  refine ⟨made, begun, ?_, ?_⟩
  · rw [bind_apply, done]
    cases outcome with
    | error error => exact course.of_error
    | ok value =>
        cases course with
        | answered calls answers _ =>
            refine .answered calls answers ?_
            intro error fails
            cases fails
        | failed _ _ _ told => cases told
  · rw [bind_apply, done]
    intro value same
    cases outcome with
    | error error => cases same
    | ok value => exact complete value rfl

end Step.Follows

end GridQuery

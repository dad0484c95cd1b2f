import GridQuery.Proofs.Engine.Ranges
import GridQuery.Proofs.Mutation

/-!
# The calls of a statement

Which calls a statement may make: a query is answered by one query or by one read of each
range, a change by at most one read and then one write. Whatever the grid replies, and
wherever it fails, the calls made are the first ones of such a sequence.
-/

namespace GridQuery.Engine

variable {State : Type}

/-- The calls that answer a query: one query of its only range, or one read of each range
among those of its targets, in their order. -/
inductive Answering (engine : Engine State) (query : SelectQuery) : List GridCall → Prop where
  | asked {location : Location} {text : NativeText}
      (sole : engine.soleRange query = .ok (some location))
      (wanted : engine.nativeText? query (some location) = some text) :
      Answering engine query [.query location text.text]
  | evaluated {ranges : List Location} (targets : ranges.Sublist (engine.targetRanges query))
      (distinct : (ranges.map Location.key).Nodup)
      (complete : ∀ location ∈ engine.targetRanges query,
        location.key ∈ ranges.map Location.key) :
      Answering engine query (readCalls ranges)

/-- The calls that a statement makes if nothing stops it. -/
inductive Permitted (engine : Engine State) (withMetadata : Bool) :
    Statement → List GridCall → Prop where
  | select {query : SelectQuery} {calls : List GridCall}
      (answering : engine.Answering query calls) :
      Permitted engine withMetadata (.select query) calls
  | metadata {query : SelectQuery} {calls : List GridCall} {location : Location}
      (answering : engine.Answering query calls) (wanted : withMetadata = true)
      (sole : engine.soleRange query = .ok (some location)) :
      Permitted engine withMetadata (.select query) (calls ++ [.readMetadata location])
  | insert {query : InsertQuery} {location : Location} {rows : List (List Datum)}
      (range : engine.range? query.target = some location) :
      Permitted engine withMetadata (.change (.insert query)) [.appendRows location rows]
  | insertNamed {query : InsertQuery} {location : Location} {rows : List (List Datum)}
      (range : engine.range? query.target = some location)
      (named : query.columns.isSome = true) :
      Permitted engine withMetadata (.change (.insert query))
        [.readRange location, .appendRows location rows]
  | update {query : UpdateQuery} {location : Location} {updates : List CellUpdate}
      (range : engine.range? query.target = some location) :
      Permitted engine withMetadata (.change (.update query))
        [.readRange location, .updateCells location updates]
  | delete {query : DeleteQuery} {location : Location} {numbers : List Nat}
      (range : engine.range? query.target = some location) :
      Permitted engine withMetadata (.change (.delete query))
        [.readRange location, .deleteRows location numbers]
  | virtual {mutation : Mutation}
      (isVirtual : mutation.target.any (·.isVirtual) = true) :
      Permitted engine withMetadata (.change mutation) []

variable (engine : Engine State)

/-! ### SELECT -/

theorem answering_newRanges (query : SelectQuery) :
    engine.Answering query (readCalls (newRanges [] (engine.targetRanges query))) := by
  refine .evaluated (newRanges_sublist [] _) (nodup_keys_newRanges [] _) ?_
  intro location membership
  rcases key_mem_newRanges [] _ membership with seen | new
  · cases seen
  · exact new

theorem readsOnly_of_answering {query : SelectQuery} {calls : List GridCall}
    (answering : engine.Answering query calls) : ReadsOnly calls := by
  cases answering with
  | asked _ _ =>
      intro call membership
      rw [List.mem_singleton.mp membership]
      rfl
  | evaluated _ _ _ => exact readsOnly_readCalls _

theorem answer_follows {query : SelectQuery} {location : Option Location}
    (sole : engine.soleRange query = .ok location) {before : Session State}
    (fresh : before.seen = []) :
    ∃ calls, engine.Answering query calls ∧
      Step.Follows engine.source (engine.answer query location) before calls := by
  have evaluated := (engine.evaluate_reads query before).1
  rw [fresh] at evaluated
  unfold answer
  split
  · next found text wanted =>
      have answering := Answering.asked sole wanted
      refine ⟨_, answering, ?_⟩
      obtain ⟨_, rfl, follows⟩ := (Step.Follows.ask (.query found text.text)).bind
        (engine.readsOnly_of_answering answering) rfl
        fun answer _ _ => ⟨[], rfl, Step.Follows.liftM (Native.resultOf answer query)⟩
      exact follows
  · exact ⟨_, engine.answering_newRanges query, evaluated⟩

theorem select_follows (query : SelectQuery) (withMetadata : Bool) {before : Session State}
    (fresh : before.seen = []) :
    ∃ full, engine.Permitted withMetadata (.select query) full ∧
      Step.Follows engine.source (engine.select query withMetadata) before full := by
  have located : Step.Follows engine.source
      (liftM (engine.soleRange query) : Step State (Option Location)) before [] := .liftM _
  refine located.bind readsOnly_nil (Permitted.select (engine.answering_newRanges query)) ?_
  intro location middle done
  obtain ⟨sole, rfl⟩ := (Step.liftM_eq_ok_iff _ _ _ _).mp done
  obtain ⟨calls, answering, follows⟩ := engine.answer_follows sole fresh
  cases withMetadata with
  | false => exact ⟨calls, .select answering, follows.map id⟩
  | true =>
      cases location with
      | none => exact ⟨calls, .select answering, follows.map id⟩
      | some location =>
          obtain ⟨_, rfl, both⟩ := follows.bind (engine.readsOnly_of_answering answering) rfl
            fun result _ _ => ⟨[.readMetadata location], rfl,
              (Step.Follows.ask (.readMetadata location)).map fun metadata =>
                ({ result with metadata } : SelectResult)⟩
          exact ⟨_, .metadata answering rfl sole, both⟩

/-! ### Changes -/

/-- The ranges whose cells a change is planned over. -/
def plannedOver (mutation : Mutation) (location : Location) : List Location :=
  match mutation with
  | .insert query => if query.columns.isSome then [location] else []
  | .update _ => [location]
  | .delete _ => [location]

theorem planGrid_reads (mutation : Mutation) (location : Location)
    (aliasName : Option String) :
    Step.Reads engine.source (engine.planGrid mutation location aliasName)
      (plannedOver mutation location) := by
  cases mutation with
  | insert query =>
      simp only [planGrid, plannedOver]
      cases query.columns.isSome with
      | true =>
          exact (engine.readTable_reads location none).bind fun _ => Step.Reads.liftM _
      | false => exact Step.Reads.liftM _
  | update query =>
      exact (engine.readTable_reads location aliasName).bind fun _ => Step.Reads.liftM _
  | delete query =>
      exact (engine.readTable_reads location aliasName).bind fun _ => Step.Reads.liftM _

variable {withMetadata : Bool} {mutation : Mutation} {location : Location}

theorem permitted_insert {query : InsertQuery}
    (range : engine.range? query.target = some location) (rows : List (List Datum)) :
    engine.Permitted withMetadata (.change (.insert query))
      (readCalls (plannedOver (.insert query) location) ++ [.appendRows location rows]) := by
  rw [plannedOver]
  split
  · next named => exact .insertNamed range named
  · exact .insert range

/-- A change reads what it is planned over, and then asks for one write. -/
theorem permitted_of_plan (range : engine.range? mutation.target = some location)
    {aliasName : Option String} {before after : Session State} {plan : GridPlan}
    {call : GridCall}
    (planned : engine.planGrid mutation location aliasName before = (.ok plan, after))
    (asks : plan.call = some call) :
    engine.Permitted withMetadata (.change mutation)
      (readCalls (plannedOver mutation location) ++ [call]) := by
  cases mutation with
  | insert query =>
      obtain ⟨table, inserted⟩ : ∃ table,
          insertGrid engine.evaluator query table location = .ok plan := by
        simp only [planGrid] at planned
        split at planned
        · obtain ⟨table, middle, _, made⟩ := (Step.bind_eq_ok_iff _ _ _ _ _).mp planned
          exact ⟨some table, ((Step.liftM_eq_ok_iff _ _ _ _).mp made).1⟩
        · exact ⟨none, ((Step.liftM_eq_ok_iff _ _ _ _).mp planned).1⟩
      obtain ⟨rows, _, _, asked⟩ := insertGrid_eq_ok inserted
      cases asked.symm.trans asks
      exact engine.permitted_insert range rows
  | update query =>
      obtain ⟨table, middle, _, made⟩ := (Step.bind_eq_ok_iff _ _ _ _ _).mp planned
      obtain ⟨updated, _⟩ := (Step.liftM_eq_ok_iff _ _ _ _).mp made
      obtain ⟨_, _, _, _, ⟨_, nothing⟩ | asked⟩ := updateGrid_eq_ok updated
      · cases nothing.symm.trans asks
      · cases asked.symm.trans asks
        exact .update range
  | delete query =>
      obtain ⟨table, middle, _, made⟩ := (Step.bind_eq_ok_iff _ _ _ _ _).mp planned
      obtain ⟨deleted, _⟩ := (Step.liftM_eq_ok_iff _ _ _ _).mp made
      obtain ⟨_, _, _, ⟨_, nothing⟩ | asked⟩ := deleteGrid_eq_ok deleted
      · cases nothing.symm.trans asks
      · cases asked.symm.trans asks
        exact .delete range

theorem exists_permitted (range : engine.range? mutation.target = some location) :
    ∃ call, engine.Permitted withMetadata (.change mutation)
      (readCalls (plannedOver mutation location) ++ [call]) := by
  cases mutation with
  | insert query => exact ⟨.appendRows location [], engine.permitted_insert range []⟩
  | update query => exact ⟨.updateCells location [], .update range⟩
  | delete query => exact ⟨.deleteRows location [], .delete range⟩

theorem newRanges_plannedOver (mutation : Mutation) (location : Location) :
    newRanges [] (plannedOver mutation location) = plannedOver mutation location := by
  cases mutation with
  | insert query =>
      rw [plannedOver]
      split
      · rfl
      · rfl
  | update _ => rfl
  | delete _ => rfl

theorem locate_of_range? {target : Option TableRef}
    (range : engine.range? target = some location) :
    engine.workspace.locate target = .ok location := by
  rw [range?] at range
  split at range
  · cases range
  · cases found : engine.workspace.locate target with
    | error error =>
        rw [found] at range
        cases range
    | ok other =>
        rw [found] at range
        cases range
        rfl

/-- No more calls, or one that completes what a change may do. -/
def Completes (withMetadata : Bool) (mutation : Mutation) (location : Location)
    (rest : List GridCall) : Prop :=
  rest = [] ∨ ∃ call, rest = [call] ∧ engine.Permitted withMetadata (.change mutation)
    (readCalls (plannedOver mutation location) ++ [call])

theorem changeGrid_follows {before : Session State} (fresh : before.seen = [])
    (range : engine.range? mutation.target = some location) :
    ∃ rest, engine.Completes withMetadata mutation location rest ∧
      Step.Follows engine.source (engine.changeGrid mutation) before
        (readCalls (plannedOver mutation location) ++ rest) := by
  have reads := (engine.planGrid_reads mutation location
    (mutation.target.bind (·.aliasName)) before).1
  rw [fresh, newRanges_plannedOver] at reads
  rw [changeGrid, engine.locate_of_range? range]
  refine reads.bind (readsOnly_readCalls _) (.inl rfl) fun plan middle planned => ?_
  rw [carryOut]
  cases asks : plan.call with
  | none => exact ⟨[], .inl rfl, Step.Follows.liftM (.ok (plan.result .null))⟩
  | some call =>
      exact ⟨[call], .inr ⟨call, rfl, engine.permitted_of_plan range planned asks⟩,
        (Step.Follows.ask call).map plan.result⟩

/-! ### Statements -/

/-- A statement that is prepared has been checked. -/
theorem check_of_prepare {text : String} {statement : Statement}
    (prepared : engine.prepare text = .ok statement) :
    ∃ references, engine.workspace.check references statement = .ok () := by
  rw [prepare, bind_eq_ok_iff] at prepared
  obtain ⟨found, _, prepared⟩ := prepared
  split at prepared
  · cases prepared
  · next references _ =>
      obtain ⟨_, checked, same⟩ := (bind_eq_ok_iff _ _ _).mp prepared
      cases same
      exact ⟨references, checked⟩

theorem checkTarget_of_check {references : List String} {statement : Statement}
    (checked : engine.workspace.check references statement = .ok ()) :
    ∀ target ∈ statement.targets, engine.workspace.checkTarget target = .ok () := by
  rw [Workspace.check, bind_eq_ok_iff] at checked
  obtain ⟨_, _, checked⟩ := checked
  split at checked
  · cases checked
  · obtain ⟨_, targets, _⟩ := (bind_eq_ok_iff _ _ _).mp checked
    exact forM_eq_ok_iff.mp targets

theorem range?_of_checkTarget {target : Option TableRef}
    (checked : engine.workspace.checkTarget target = .ok ())
    (onGrid : target.any (·.isVirtual) = false) :
    ∃ location, engine.range? target = some location := by
  have located : ∃ location, engine.workspace.locate target = .ok location := by
    unfold Workspace.checkTarget at checked
    split at checked
    · cases onGrid
    · obtain ⟨location, found, _⟩ := (bind_eq_ok_iff _ _ _).mp checked
      exact ⟨location, found⟩
  obtain ⟨location, found⟩ := located
  refine ⟨location, ?_⟩
  rw [range?, onGrid, found]
  rfl

/-- The target of a change that has been checked is a virtual table or a range. -/
theorem range?_of_prepare {text : String}
    (prepared : engine.prepare text = .ok (.change mutation))
    (onGrid : mutation.target.any (·.isVirtual) = false) :
    ∃ location, engine.range? mutation.target = some location := by
  obtain ⟨references, checked⟩ := engine.check_of_prepare prepared
  have targets := engine.checkTarget_of_check checked mutation.target List.mem_cons_self
  exact engine.range?_of_checkTarget targets onGrid

/-- The calls of a statement that has been checked are the first ones of a sequence that
it may make. -/
theorem run_course {text : String} {statement : Statement}
    (prepared : engine.prepare text = .ok statement) (withMetadata : Bool)
    {before : Session State} (fresh : before.seen = []) :
    ∃ full made, engine.Permitted withMetadata statement full ∧ made <+: full ∧
      Course engine.source before (engine.run statement withMetadata before).2
        (engine.run statement withMetadata before).1 made := by
  cases statement with
  | select query =>
      obtain ⟨full, permitted, follows⟩ := engine.select_follows query withMetadata fresh
      obtain ⟨made, begun, course, _⟩ := follows.map StatementResult.selected
      exact ⟨full, made, permitted, begun, course⟩
  | change mutation =>
      cases virtual : mutation.target.any (·.isVirtual) with
      | true =>
          obtain ⟨changed, same⟩ := engine.change_of_virtual virtual
          have follows : Step.Follows engine.source
              (liftM changed : Step State MutationResult) before [] := .liftM changed
          rw [← same] at follows
          obtain ⟨made, begun, course, _⟩ := follows.map StatementResult.changed
          exact ⟨[], made, .virtual virtual, begun, course⟩
      | false =>
          obtain ⟨location, range⟩ := engine.range?_of_prepare prepared virtual
          obtain ⟨rest, completes, follows⟩ := engine.changeGrid_follows fresh range
          rw [← engine.change_of_range virtual] at follows
          obtain ⟨made, begun, course, _⟩ := follows.map StatementResult.changed
          rcases completes with rfl | ⟨call, rfl, permitted⟩
          · obtain ⟨call, permitted⟩ := engine.exists_permitted range
            rw [List.append_nil] at begun
            exact ⟨_, made, permitted, begun.trans (List.prefix_append _ _), course⟩
          · exact ⟨_, made, permitted, begun, course⟩

/-! ### Runs -/

/-- A statement that fails in a run has written nothing, or fails as its only write does,
which is its last call. -/
def FailsSafely (source : GridSource State) (grid after : State) (calls : List GridCall)
    (error : Error) : Prop :=
  ReadsOnly calls ∨
    ∃ earlier write middle failure,
      calls = earlier ++ [write] ∧ write.isWrite = true ∧ ReadsOnly earlier ∧
        Answers source grid earlier middle ∧ source write middle = (.error failure, after) ∧
        error = .remote (failure.toError write)

theorem failsSafely_of_course {Result : Type} {source : GridSource State}
    {before after : Session State} {outcome : Except Error Result} {made : List GridCall}
    (course : Course source before after outcome made) {error : Error}
    (fails : outcome = .error error) :
    FailsSafely source before.grid after.grid made error := by
  cases course with
  | answered _ _ safe => exact .inl (safe error fails)
  | @failed made call failure middle _ answers reply told reads =>
      cases write : call.isWrite with
      | true =>
          cases told.symm.trans fails
          exact .inr ⟨made, call, middle, failure, rfl, write, reads, answers, reply, rfl⟩
      | false =>
          refine .inl fun other membership => ?_
          rcases List.mem_append.mp membership with earlier | last
          · exact reads other earlier
          · rw [List.mem_singleton.mp last]
            exact write

/-- After a call comes another only if the call is answered. -/
theorem answered_of_course {Result : Type} {source : GridSource State}
    {before after : Session State} {outcome : Except Error Result} {made : List GridCall}
    (course : Course source before after outcome made) {earlier later : List GridCall}
    {call : GridCall} (split : made = earlier ++ call :: later) (more : later ≠ []) :
    ∃ middle datum next, Answers source before.grid earlier middle ∧
      source call middle = (.ok datum, next) := by
  cases course with
  | answered _ answers _ =>
      rw [split] at answers
      obtain ⟨middle, first, rest⟩ := answers.of_append
      cases rest with
      | cons reply _ => exact ⟨middle, _, _, first, reply⟩
  | @failed made last _ _ _ answers _ _ _ =>
      -- The call that failed is the last, so the others are among those before it.
      obtain ⟨between, final, rfl⟩ := (List.eq_nil_or_concat later).resolve_left more
      have whole : made ++ [last] = (earlier ++ call :: between) ++ [final] := by
        rw [split, List.concat_eq_append, List.append_assoc, List.cons_append]
      obtain ⟨rfl, _⟩ := List.append_inj' whole rfl
      obtain ⟨middle, first, rest⟩ := answers.of_append
      cases rest with
      | cons reply _ => exact ⟨middle, _, _, first, reply⟩

theorem readsOnly_of_permitted {withMetadata : Bool} {query : SelectQuery}
    {full : List GridCall} (permitted : engine.Permitted withMetadata (.select query) full) :
    ReadsOnly full := by
  cases permitted with
  | select answering => exact engine.readsOnly_of_answering answering
  | metadata answering _ _ =>
      intro call membership
      rcases List.mem_append.mp membership with earlier | last
      · exact engine.readsOnly_of_answering answering call earlier
      · rw [List.mem_singleton.mp last]
        rfl

theorem eq_nil_of_permitted_virtual {withMetadata : Bool} {mutation : Mutation}
    {full : List GridCall}
    (permitted : engine.Permitted withMetadata (.change mutation) full)
    (isVirtual : mutation.target.any (·.isVirtual) = true) : full = [] := by
  have noRange : engine.range? mutation.target = none := by
    rw [range?, if_pos isVirtual]
  cases permitted with
  | insert range => cases noRange.symm.trans range
  | insertNamed range _ => cases noRange.symm.trans range
  | update range => cases noRange.symm.trans range
  | delete range => cases noRange.symm.trans range
  | virtual _ => rfl

/-- What a statement does to the grid, told by its calls. Whatever the grid replies, they
are the first ones of a sequence that the statement may make, a SELECT writes nothing, no
call follows one that failed, and a statement that fails has written nothing unless its
failure is that of its one write. -/
theorem execute_calls (text : String) (withMetadata : Bool) (grid : State) :
    let run := engine.execute text withMetadata (Session.start grid)
    (match engine.prepare text with
      | .error _ => run.2.calls = []
      | .ok statement =>
          (∃ full, engine.Permitted withMetadata statement full ∧ run.2.calls <+: full) ∧
            (∀ query, statement = .select query → ReadsOnly run.2.calls) ∧
            ∀ mutation, statement = .change mutation →
              mutation.target.any (·.isVirtual) = true → run.2.calls = []) ∧
      (∀ earlier call later, run.2.calls = earlier ++ call :: later → later ≠ [] →
        ∃ middle datum next, Answers engine.source grid earlier middle ∧
          engine.source call middle = (.ok datum, next)) ∧
      ∀ error, run.1 = .error error →
        FailsSafely engine.source grid run.2.grid run.2.calls error := by
  intro run
  cases prepared : engine.prepare text with
  | error error =>
      have stopped : run = (.error error, Session.start grid) := by
        change engine.execute text withMetadata (Session.start grid) = _
        rw [execute, prepared]
        rfl
      rw [stopped]
      refine ⟨rfl, ?_, fun _ _ => .inl readsOnly_nil⟩
      intro earlier call later split
      cases List.append_eq_nil_iff.mp split.symm |>.2
  | ok statement =>
      have going : run = engine.run statement withMetadata (Session.start grid) := by
        change engine.execute text withMetadata (Session.start grid) = _
        rw [execute, prepared]
        rfl
      have fresh : (Session.start grid).seen = [] := rfl
      obtain ⟨full, made, permitted, begun, course⟩ :=
        engine.run_course prepared withMetadata fresh
      rw [← going] at course
      have calls : run.2.calls = made := course.calls_eq
      rw [calls]
      refine ⟨⟨⟨full, permitted, begun⟩, ?_, ?_⟩, ?_, ?_⟩
      · rintro query rfl call membership
        exact engine.readsOnly_of_permitted permitted call (begun.subset membership)
      · rintro mutation rfl isVirtual
        rw [engine.eq_nil_of_permitted_virtual permitted isVirtual] at begun
        exact List.prefix_nil.mp begun
      · intro earlier call later split more
        exact answered_of_course course split more
      · intro error fails
        exact failsSafely_of_course course fails

end GridQuery.Engine

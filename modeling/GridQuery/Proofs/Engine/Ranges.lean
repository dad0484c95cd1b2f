import GridQuery.Proofs.Engine.Course

/-!
# The ranges that a SELECT reads

Each range is read at its first need and at no other: the reads of a query are those of
its targets, without the ranges that were there already.
-/

namespace GridQuery

/-- What tells one range from another. -/
def Location.key (location : Location) : String × String :=
  (location.spreadsheet, location.range)

/-- The ranges that are not there yet, each once. -/
def newRanges (seen : List (String × String)) : List Location → List Location
  | [] => []
  | location :: rest =>
      if location.key ∈ seen then newRanges seen rest
      else location :: newRanges (location.key :: seen) rest

/-- What is there once some ranges are read. -/
def seenAfter (seen : List (String × String)) (ranges : List Location) :
    List (String × String) :=
  ((newRanges seen ranges).map Location.key).reverse ++ seen

section

variable (seen : List (String × String)) (ranges : List Location)

theorem newRanges_cons_of_mem {location : Location} (known : location.key ∈ seen) :
    newRanges seen (location :: ranges) = newRanges seen ranges := by
  rw [newRanges, if_pos known]

theorem newRanges_cons_of_notMem {location : Location} (fresh : location.key ∉ seen) :
    newRanges seen (location :: ranges) =
      location :: newRanges (location.key :: seen) ranges := by
  rw [newRanges, if_neg fresh]

theorem seenAfter_cons (location : Location) :
    seenAfter seen (location :: ranges) = seenAfter (seenAfter seen [location]) ranges := by
  by_cases known : location.key ∈ seen
  · simp [seenAfter, newRanges, known]
  · simp [seenAfter, newRanges, known]

theorem newRanges_append (more : List Location) :
    newRanges seen (ranges ++ more) =
      newRanges seen ranges ++ newRanges (seenAfter seen ranges) more := by
  induction ranges generalizing seen with
  | nil => rfl
  | cons location ranges inductionHypothesis =>
      rw [seenAfter_cons, List.cons_append]
      by_cases known : location.key ∈ seen
      · simp [newRanges, known, inductionHypothesis, seenAfter]
      · simp [newRanges, known, inductionHypothesis, seenAfter]

theorem seenAfter_append (more : List Location) :
    seenAfter seen (ranges ++ more) = seenAfter (seenAfter seen ranges) more := by
  simp [seenAfter, newRanges_append]

theorem newRanges_sublist : (newRanges seen ranges).Sublist ranges := by
  induction ranges generalizing seen with
  | nil => exact List.Sublist.slnil
  | cons location ranges inductionHypothesis =>
      by_cases known : location.key ∈ seen
      · rw [newRanges_cons_of_mem seen ranges known]
        exact (inductionHypothesis seen).cons location
      · rw [newRanges_cons_of_notMem seen ranges known]
        exact (inductionHypothesis _).cons_cons location

theorem key_notMem_newRanges {key : String × String} (known : key ∈ seen) :
    key ∉ (newRanges seen ranges).map Location.key := by
  induction ranges generalizing seen with
  | nil => simp [newRanges]
  | cons location ranges inductionHypothesis =>
      by_cases old : location.key ∈ seen
      · rw [newRanges_cons_of_mem seen ranges old]
        exact inductionHypothesis seen known
      · rw [newRanges_cons_of_notMem seen ranges old, List.map_cons, List.mem_cons]
        rintro (same | later)
        · exact old (same ▸ known)
        · exact inductionHypothesis _ (List.mem_cons_of_mem _ known) later

theorem nodup_keys_newRanges : ((newRanges seen ranges).map Location.key).Nodup := by
  induction ranges generalizing seen with
  | nil => exact List.nodup_nil
  | cons location ranges inductionHypothesis =>
      by_cases known : location.key ∈ seen
      · rw [newRanges_cons_of_mem seen ranges known]
        exact inductionHypothesis seen
      · rw [newRanges_cons_of_notMem seen ranges known, List.map_cons, List.nodup_cons]
        exact ⟨key_notMem_newRanges _ ranges List.mem_cons_self, inductionHypothesis _⟩

theorem key_mem_newRanges {location : Location} (membership : location ∈ ranges) :
    location.key ∈ seen ∨ location.key ∈ (newRanges seen ranges).map Location.key := by
  induction ranges generalizing seen with
  | nil => cases membership
  | cons first ranges inductionHypothesis =>
      by_cases known : first.key ∈ seen
      · rw [newRanges_cons_of_mem seen ranges known]
        rcases List.mem_cons.mp membership with rfl | later
        · exact .inl known
        · exact inductionHypothesis seen later
      · rw [newRanges_cons_of_notMem seen ranges known, List.map_cons]
        rcases List.mem_cons.mp membership with rfl | later
        · exact .inr List.mem_cons_self
        · rcases inductionHypothesis (first.key :: seen) later with old | new
          · rcases List.mem_cons.mp old with same | older
            · exact .inr (same ▸ List.mem_cons_self)
            · exact .inl older
          · exact .inr (List.mem_cons_of_mem _ new)

end

/-! ### Steps that read ranges -/

variable {State Result Next : Type} {source : GridSource State}

/-- The keys of the ranges that a session has read. -/
def Session.seen (session : Session State) : List (String × String) :=
  session.cells.map (·.1)

def readCalls (ranges : List Location) : List GridCall :=
  ranges.map .readRange

theorem readsOnly_readCalls (ranges : List Location) : ReadsOnly (readCalls ranges) := by
  intro call membership
  obtain ⟨location, _, rfl⟩ := List.mem_map.mp membership
  rfl

/-- A step reads ranges, those alone that are not there yet. -/
def Step.Reads (source : GridSource State) (step : Step State Result)
    (ranges : List Location) : Prop :=
  ∀ before : Session State,
    Follows source step before (readCalls (newRanges before.seen ranges)) ∧
      ∀ value, (step before).1 = .ok value → (step before).2.seen = seenAfter before.seen ranges

namespace Step.Reads

theorem liftM (step : Except Error Result) :
    Reads source (liftM step : Step State Result) [] := fun _ =>
  ⟨Follows.liftM step, fun _ _ => rfl⟩

theorem throw (error : Error) : Reads source (throw error : Step State Result) [] :=
  liftM (.error error)

theorem bind {step : Step State Result} {next : Result → Step State Next}
    {ranges more : List Location} (first : Reads source step ranges)
    (later : ∀ value, Reads source (next value) more) :
    Reads source (step >>= next) (ranges ++ more) := by
  intro before
  obtain ⟨follows, grown⟩ := first before
  have split : readCalls (newRanges before.seen (ranges ++ more)) =
      readCalls (newRanges before.seen ranges) ++
        readCalls (newRanges (seenAfter before.seen ranges) more) := by
    rw [newRanges_append, readCalls, List.map_append]
    rfl
  constructor
  · obtain ⟨_, rfl, both⟩ := follows.bind (readsOnly_readCalls _) rfl
      fun value middle done => by
        have seen : middle.seen = seenAfter before.seen ranges := by
          have := grown value (by rw [done])
          rwa [done] at this
        exact ⟨_, congrArg (fun seen => readCalls (newRanges seen more)) seen.symm,
          (later value middle).1⟩
    rwa [split]
  · intro result done
    rcases started : step before with ⟨outcome, middle⟩
    rw [bind_apply, started] at done ⊢
    cases outcome with
    | error error => cases done
    | ok value =>
        have seen := grown value (by rw [started])
        rw [started] at seen
        rw [seenAfter_append, ← seen]
        exact (later value middle).2 result done

theorem readCells (location : Location) :
    Reads source (Step.readCells source location) [location] := by
  intro before
  cases found : before.cells.lookup (location.spreadsheet, location.range) with
  | some cells =>
      have known : location.key ∈ before.seen := by
        obtain ⟨earlier, later, split, _⟩ := List.lookup_eq_some_iff.mp found
        simp [Session.seen, split, Location.key]
      have same : Step.readCells source location before = (.ok cells, before) := by
        rw [readCells_apply, found]
      rw [seenAfter, newRanges_cons_of_mem _ _ known]
      constructor
      · refine ⟨[], List.prefix_rfl, ?_, fun _ _ => rfl⟩
        rw [same]
        exact .refl before _
      · intro value _
        rw [same]
        rfl
  | none =>
      have fresh : location.key ∉ before.seen := by
        intro known
        obtain ⟨⟨key, cells⟩, membership, rfl⟩ := List.mem_map.mp known
        have missing := List.lookup_eq_none_iff.mp found _ membership
        simp [Location.key] at missing
      rw [seenAfter, newRanges_cons_of_notMem _ _ fresh]
      have asked := ask_apply source (.readRange location) before
      have done := readCells_apply source location before
      rcases reply : source (.readRange location) before.grid with ⟨outcome, grid⟩
      rw [reply] at asked
      cases outcome with
      | ok cells =>
          simp only [found, asked, Except.mapError] at done
          constructor
          · exact .of_reply done rfl (.inl ⟨cells, cells, reply, rfl⟩)
          · intro value _
            rw [done]
            rfl
      | error failure =>
          simp only [found, asked, Except.mapError] at done
          constructor
          · exact .of_reply done rfl (.inr ⟨failure, reply, rfl⟩)
          · intro value fails
            rw [done] at fails
            cases fails

end Step.Reads

/-! ### The targets of a query -/

namespace Engine

/-- The range that a target means; none for a virtual table. -/
def range? (engine : Engine State) (target : Option TableRef) : Option Location :=
  if target.any (·.isVirtual) then none else (engine.workspace.locate target).toOption

/-- The ranges of the targets of a query, in their order. -/
def targetRanges (engine : Engine State) (query : SelectQuery) : List Location :=
  (Statement.select query).targets.filterMap engine.range?

variable (engine : Engine State)

theorem readTable_reads (location : Location) (aliasName : Option String) :
    Step.Reads engine.source (engine.readTable location aliasName) [location] := by
  rw [readTable]
  refine (Step.Reads.readCells location).bind fun cells => ?_
  split
  · exact Step.Reads.liftM _
  · exact Step.Reads.liftM _

/-- A range is found before anything is read of it. -/
theorem locate_reads (target : Option TableRef) :
    Step.Reads engine.source (do
        let location ← engine.workspace.locate target
        engine.readTable location (target.bind (·.aliasName)))
      (engine.workspace.locate target).toOption.toList := by
  cases located : engine.workspace.locate target with
  | error error => exact Step.Reads.throw error
  | ok location => exact engine.readTable_reads location _

theorem loadTable_reads (target : Option TableRef) :
    Step.Reads engine.source (engine.loadTable target) (engine.range? target).toList := by
  rcases target with _ | ⟨name, isVirtual, aliasName⟩
  · exact engine.locate_reads none
  · cases isVirtual with
    | false => exact engine.locate_reads (some ⟨name, false, aliasName⟩)
    | true =>
        rw [loadTable]
        cases engine.workspace.virtualRows name with
        | ok rows => exact Step.Reads.liftM _
        | error cause => exact Step.Reads.throw _

theorem joinAll_reads (table : Table) (clauses : List JoinClause) :
    Step.Reads engine.source (engine.joinAll table clauses)
      (clauses.filterMap fun clause => engine.range? (some clause.table)) := by
  induction clauses generalizing table with
  | nil => exact Step.Reads.liftM (.ok table)
  | cons clause clauses inductionHypothesis =>
      have loaded := engine.loadTable_reads (some clause.table)
      have whole := loaded.bind fun other =>
        (Step.Reads.liftM (table.join other clause)).bind fun joined =>
          inductionHypothesis joined
      rw [joinAll, List.filterMap_cons]
      cases range : engine.range? (some clause.table) with
      | none => simpa [range] using whole
      | some location => simpa [range] using whole

/-- A query that is evaluated reads the ranges of its targets. -/
theorem evaluate_reads (query : SelectQuery) :
    Step.Reads engine.source (engine.evaluate query) (engine.targetRanges query) := by
  have first := engine.loadTable_reads query.source
  have whole := first.bind fun table =>
    (engine.joinAll_reads table query.joins).bind fun joined =>
      Step.Reads.liftM (engine.evaluator.select query joined)
  have targets : engine.targetRanges query = (engine.range? query.source).toList ++
      ((query.joins.filterMap fun clause => engine.range? (some clause.table)) ++ []) := by
    rw [targetRanges, Statement.targets, List.filterMap_cons, List.filterMap_map,
      List.append_nil]
    cases engine.range? query.source with
    | none => rfl
    | some location => rfl
  rw [targets]
  exact whole

end Engine

end GridQuery

import GridQuery.Pattern
import Mathlib.Algebra.BigOperators.Group.List.Basic
import Mathlib.Computability.Language

/-!
# The language of a pattern

A pattern without groups takes pieces of a text: from a state it leads to the states after
the pieces that are in its language, and it leads to one after each of them. That of alike
states only one is kept loses none of them, since states of one text with the same number of
characters after them have the same characters after them.
-/

namespace GridQuery.Pattern

open Computability

variable {pattern first second : Pattern} {language other : Language Char}
  {walk next : State → List State}

/-- A piece of the text leads from a state to a later one, and no group is matched. -/
def State.Takes (state : State) (piece : List Char) (later : State) : Prop :=
  state.after = piece ++ later.after ∧ later.groups = state.groups

theorem State.takes_nil (state : State) : state.Takes [] state := ⟨rfl, rfl⟩

theorem State.Takes.trans {state later last : State} {piece more : List Char}
    (taken : state.Takes piece later) (takenNext : later.Takes more last) :
    state.Takes (piece ++ more) last := by
  constructor
  · rw [taken.1, takenNext.1, List.append_assoc]
  · rw [takenNext.2, taken.2]

/-- What is left of a text is known from its length. -/
theorem State.Takes.after_eq {state left right : State} {piece more : List Char}
    (taken : state.Takes piece left) (takenNext : state.Takes more right)
    (same : left.after.length = right.after.length) : left.after = right.after := by
  have whole := taken.1.symm.trans takenNext.1
  exact (List.append_inj' whole same).2

/-- From each state, the states reached are those after the pieces that are in a language. -/
structure Walks (walk : State → List State) (language : Language Char) : Prop where
  taken : ∀ {state reached}, reached ∈ walk state → ∃ piece ∈ language, state.Takes piece reached
  reached : ∀ state {piece rest}, piece ∈ language → state.after = piece ++ rest →
    ∃ reached ∈ walk state, reached.after = rest

/-! ### States that are alike -/

theorem State.same_iff {left right : State} :
    left.same right = true ↔
      left.after.length = right.after.length ∧ left.groups = right.groups := by
  simp [State.same]

theorem mem_of_mem_distinctStates {states : List State} {state : State}
    (kept : state ∈ distinctStates states) : state ∈ states := by
  induction states with
  | nil => exact kept
  | cons head rest inductionHypothesis =>
      unfold distinctStates at kept
      rcases List.mem_cons.mp kept with rfl | later
      · exact List.mem_cons_self
      · apply List.mem_cons_of_mem
        exact inductionHypothesis (List.mem_of_mem_filter later)

theorem exists_same_mem_distinctStates {states : List State} {state : State}
    (among : state ∈ states) : ∃ kept ∈ distinctStates states, kept.same state = true := by
  induction states with
  | nil => cases among
  | cons head rest inductionHypothesis =>
      unfold distinctStates
      rcases List.mem_cons.mp among with rfl | later
      · exact ⟨state, List.mem_cons_self, State.same_iff.mpr ⟨rfl, rfl⟩⟩
      · obtain ⟨kept, there, same⟩ := inductionHypothesis later
        by_cases alike : head.same kept = true
        · rw [State.same_iff] at alike same
          refine ⟨head, List.mem_cons_self, State.same_iff.mpr ?_⟩
          exact ⟨alike.1.trans same.1, alike.2.trans same.2⟩
        · refine ⟨kept, List.mem_cons_of_mem _ (List.mem_filter.mpr ⟨there, ?_⟩), same⟩
          simpa using alike

/-- What is left after one of the states is left after one that is kept. -/
theorem exists_mem_distinctStates {state found : State} {states : List State}
    (follow : ∀ later ∈ states, ∃ piece, state.Takes piece later) (among : found ∈ states) :
    ∃ kept ∈ distinctStates states, kept.after = found.after := by
  obtain ⟨kept, there, same⟩ := exists_same_mem_distinctStates among
  obtain ⟨_, keptTaken⟩ := follow kept (mem_of_mem_distinctStates there)
  obtain ⟨_, foundTaken⟩ := follow found among
  exact ⟨kept, there, keptTaken.after_eq foundTaken (State.same_iff.mp same).1⟩

namespace Walks

theorem distinct (walks : Walks walk language) :
    Walks (fun state => distinctStates (walk state)) language where
  taken kept := walks.taken (mem_of_mem_distinctStates kept)
  reached := by
    intro state piece rest within split
    obtain ⟨found, among, rfl⟩ := walks.reached state within split
    have follow : ∀ later ∈ walk state, ∃ piece, state.Takes piece later := by
      intro later there
      obtain ⟨piece, -, taken⟩ := walks.taken there
      exact ⟨piece, taken⟩
    exact exists_mem_distinctStates follow among

/-! ### One after another -/

theorem nothing : Walks (fun state => [state]) 1 where
  taken := by
    intro state reached here
    rw [List.mem_singleton.mp here]
    exact ⟨[], rfl, state.takes_nil⟩
  reached := by
    rintro state piece rest empty split
    rw [(Language.mem_one _).mp empty] at split
    exact ⟨state, List.mem_cons_self, split⟩

theorem taken_of_mem_flatMap (walks : Walks walk language)
    (takenNext : ∀ {state reached}, reached ∈ next state →
      ∃ piece ∈ other, state.Takes piece reached)
    {state reached : State} (there : reached ∈ (walk state).flatMap next) :
    ∃ piece ∈ language * other, state.Takes piece reached := by
  obtain ⟨middle, among, last⟩ := List.mem_flatMap.mp there
  obtain ⟨piece, within, taken⟩ := walks.taken among
  obtain ⟨more, withinMore, takenMore⟩ := takenNext last
  exact ⟨piece ++ more, Language.append_mem_mul within withinMore, taken.trans takenMore⟩

theorem flatMap (walks : Walks walk language) (walksNext : Walks next other) :
    Walks (fun state => (walk state).flatMap next) (language * other) where
  taken := walks.taken_of_mem_flatMap walksNext.taken
  reached := by
    intro state piece rest within split
    obtain ⟨left, leftWithin, right, rightWithin, rfl⟩ := Language.mem_mul.mp within
    rw [List.append_assoc] at split
    obtain ⟨middle, among, middleAfter⟩ := walks.reached state leftWithin split
    obtain ⟨last, there, lastAfter⟩ := walksNext.reached middle rightWithin middleAfter
    exact ⟨last, List.mem_flatMap.mpr ⟨middle, among, there⟩, lastAfter⟩

/-! ### One character -/

theorem one (test : Char → Bool) :
    Walks (Pattern.one test)
      { piece | ∃ character, test character = true ∧ piece = [character] } where
  taken := by
    intro state reached there
    unfold Pattern.one at there
    split at there
    · cases there
    · next character rest after =>
        split at there
        · next passed =>
            rw [List.mem_singleton.mp there, State.advance, after]
            exact ⟨[character], ⟨character, passed, rfl⟩, after, rfl⟩
        · cases there
  reached := by
    rintro state _ rest ⟨character, passed, rfl⟩ split
    refine ⟨state.advance, ?_, ?_⟩
    · simp [Pattern.one, split, passed]
    · simp [State.advance, split]

/-! ### Repetitions -/

section Repetition

variable {least : Nat} {greatest : Option Nat} {isLazy : Bool}

/-- A repetition goes on with the body or ends here. -/
theorem mem_repeatStates_succ {fuel count : Nat} {last : Option Nat} {state reached : State} :
    reached ∈ repeatStates walk least greatest isLazy (fuel + 1) count last state ↔
      ((count < least ∨ (∀ most ∈ greatest, count < most) ∧ last ≠ some state.after.length) ∧
        reached ∈ distinctStates ((walk state).flatMap
          (repeatStates walk least greatest isLazy fuel (count + 1) (some state.after.length)))) ∨
      (least ≤ count ∧ reached = state) := by
  have bounded : (greatest.map fun most => decide (count < most)).getD true = true ↔
      ∀ most ∈ greatest, count < most := by
    cases greatest <;> simp
  cases isLazy <;>
    simp [repeatStates, bounded, or_comm, and_comm, List.mem_append]

theorem taken_of_mem_repeatStates (walks : Walks walk language) {fuel count : Nat}
    {last : Option Nat} {state reached : State}
    (there : reached ∈ repeatStates walk least greatest isLazy fuel count last state) :
    ∃ piece ∈ language∗, state.Takes piece reached := by
  induction fuel generalizing count last state reached with
  | zero => cases there
  | succ fuel inductionHypothesis =>
      rcases mem_repeatStates_succ.mp there with ⟨-, more⟩ | ⟨-, rfl⟩
      · obtain ⟨piece, within, taken⟩ :=
          walks.taken_of_mem_flatMap inductionHypothesis (mem_of_mem_distinctStates more)
        refine ⟨piece, ?_, taken⟩
        rw [← Language.one_add_self_mul_kstar_eq_kstar]
        exact .inr within
      · exact ⟨[], Language.nil_mem_kstar language, reached.takes_nil⟩

/-- Pieces with characters in them are taken one after another, for each of them leaves less
of the text. -/
theorem exists_mem_repeatStates (walks : Walks walk language) {pieces : List (List Char)}
    (within : ∀ piece ∈ pieces, piece ∈ language ∧ piece ≠ []) {fuel count : Nat}
    {last : Option Nat} {state : State} {rest : List Char}
    (enough : pieces.length < fuel) (split : state.after = pieces.flatten ++ rest)
    (fresh : last ≠ some state.after.length) :
    ∃ reached ∈ repeatStates walk 0 none isLazy fuel count last state,
      reached.after = rest := by
  induction pieces generalizing fuel count last state with
  | nil =>
      obtain ⟨fuel, rfl⟩ := Nat.exists_eq_add_of_lt enough
      exact ⟨state, mem_repeatStates_succ.mpr (.inr ⟨Nat.zero_le _, rfl⟩), split⟩
  | cons piece pieces inductionHypothesis =>
      obtain ⟨fuel, rfl⟩ := Nat.exists_eq_add_of_lt (Nat.zero_lt_of_lt enough)
      rw [Nat.zero_add] at enough ⊢
      obtain ⟨⟨pieceWithin, nonempty⟩, laterWithin⟩ := List.forall_mem_cons.mp within
      rw [List.flatten_cons, List.append_assoc] at split
      obtain ⟨middle, among, after⟩ := walks.reached state pieceWithin split
      have shorter : some state.after.length ≠ some middle.after.length := by
        rw [split, after, List.length_append]
        simpa using nonempty
      obtain ⟨found, there, foundAfter⟩ : ∃ found ∈ repeatStates walk 0 none isLazy fuel
          (count + 1) (some state.after.length) middle, found.after = rest :=
        inductionHypothesis laterWithin (Nat.lt_of_succ_lt_succ enough) after shorter
      have follow : ∀ later ∈ (walk state).flatMap
          (repeatStates walk 0 none isLazy fuel (count + 1) (some state.after.length)),
          ∃ taken, state.Takes taken later := by
        intro later reached
        obtain ⟨taken, -, follows⟩ :=
          walks.taken_of_mem_flatMap walks.taken_of_mem_repeatStates reached
        exact ⟨taken, follows⟩
      obtain ⟨kept, keptThere, keptAfter⟩ :=
        exists_mem_distinctStates follow (List.mem_flatMap.mpr ⟨middle, among, there⟩)
      refine ⟨kept, mem_repeatStates_succ.mpr (.inl ⟨.inr ⟨by simp, fresh⟩, keptThere⟩), ?_⟩
      rw [keptAfter, foundAfter]

/-- Twice the length of the text is more than enough for a repetition without bounds. -/
theorem repeated (walks : Walks walk language) :
    Walks (fun state =>
      repeatStates walk 0 none isLazy (0 + 2 * state.after.length + 3) 0 none state) language∗ where
  taken := walks.taken_of_mem_repeatStates
  reached := by
    intro state piece rest within split
    obtain ⟨pieces, rfl, each⟩ := Language.mem_kstar_iff_exists_nonempty.mp within
    have few : pieces.length ≤ pieces.flatten.length := by
      rw [List.length_flatten, ← List.length_map List.length]
      apply List.length_le_sum_of_one_le
      intro count among
      obtain ⟨piece, there, rfl⟩ := List.mem_map.mp among
      exact List.length_pos_iff.mpr (each piece there).2
    have short : pieces.flatten.length ≤ state.after.length := by
      rw [split, List.length_append]
      exact Nat.le_add_right _ _
    exact walks.exists_mem_repeatStates each (by omega) split (Option.some_ne_none _).symm

end Repetition

end Walks

/-! ### Patterns -/

/-- All pieces of just one character. -/
def oneCharacter : Language Char := { piece | ∃ character, piece = [character] }

/-- Pieces of one character make up any text. -/
theorem mem_kstar_oneCharacter (text : List Char) : text ∈ oneCharacter∗ := by
  have whole : text = (text.map ([·])).flatten := by
    simp [← List.flatMap_def]
  rw [whole]
  apply Language.join_mem_kstar
  intro piece among
  obtain ⟨character, -, rfl⟩ := List.mem_map.mp among
  exact ⟨character, rfl⟩

/-- A pattern takes the pieces of a language, wherever in a text. -/
abbrev Reads (pattern : Pattern) (language : Language Char) : Prop :=
  Walks pattern.states language

theorem reads_empty : Reads .empty 1 :=
  Walks.nothing

/-- The empty pattern takes nothing else than the empty piece. -/
theorem eq_one_of_reads_empty (reads : Reads .empty language) : language = 1 := by
  ext piece
  rw [Language.mem_one]
  constructor
  · intro within
    obtain ⟨reached, among, finished⟩ :=
      reads.reached ⟨[], piece, []⟩ within (List.append_nil _).symm
    rwa [List.mem_singleton.mp among] at finished
  · rintro rfl
    have here : ⟨[], [], []⟩ ∈ Pattern.empty.states ⟨[], [], []⟩ := List.mem_cons_self
    obtain ⟨piece, within, taken, -⟩ := reads.taken here
    rw [List.append_nil] at taken
    rwa [← show [] = piece from taken] at within

theorem reads_char {flags : Flags} (sensitive : flags.ignoreCase = false) (character : Char) :
    Reads (.char character flags) { piece | piece = [character] } := by
  have only : { piece | ∃ other, sameChar flags character other = true ∧ piece = [other] } =
      ({ piece | piece = [character] } : Language Char) := by
    simp [sameChar, sensitive]
  rw [← only]
  exact Walks.one _

theorem reads_any {flags : Flags} (dotAll : flags.dotAll = true) :
    Reads (.any flags) oneCharacter := by
  have every : { piece | ∃ character, (flags.dotAll || character != '\n') = true ∧
      piece = [character] } = oneCharacter := by
    simp [oneCharacter, dotAll]
  rw [← every]
  exact Walks.one _

theorem Reads.seq (reads : Reads first language) (readsNext : Reads second other) :
    Reads (.seq first second) (language * other) :=
  (reads.flatMap readsNext).distinct

theorem Reads.repeated {preference : Preference} (backtracks : preference ≠ .possessive)
    (reads : Reads pattern language) : Reads (.repeated 0 none preference pattern) language∗ := by
  have states : (Pattern.repeated 0 none preference pattern).states = fun state =>
      distinctStates (repeatStates pattern.states 0 none (preference == .lazy)
        (0 + 2 * state.after.length + 3) 0 none state) := by
    funext state
    exact if_neg (by simpa using backtracks)
  unfold Reads
  rw [states]
  exact (Walks.repeated reads).distinct

/-- A whole text is matched if and only if it is in the language. -/
theorem Reads.matchesWhole_iff (reads : Reads pattern language) (text : String) :
    pattern.matchesWhole text = true ↔ text.toList ∈ language := by
  unfold matchesWhole
  rw [List.any_eq_true]
  constructor
  · rintro ⟨reached, among, finished⟩
    obtain ⟨piece, within, taken, -⟩ := reads.taken among
    rw [List.isEmpty_iff.mp finished, List.append_nil] at taken
    rwa [show text.toList = piece from taken]
  · intro within
    obtain ⟨reached, among, finished⟩ :=
      reads.reached ⟨[], text.toList, []⟩ within (List.append_nil _).symm
    exact ⟨reached, among, List.isEmpty_iff.mpr finished⟩

end GridQuery.Pattern

import GridQuery.Pattern.Reader.Whole

/-!
# Wildcards as a regular expression

The expression of a wildcard pattern has `.*` for each `%`, `.` for each `_`, and every other
character for itself, with a backslash before it if it means something else in an expression.
Reading the expression gives one item for each character of the pattern, in their order.
-/

namespace GridQuery.Pattern

open Reader

/-- The characters that stand for something else than themselves. -/
def specials : List Char :=
  ['(', ')', '[', ']', '\x7b', '\x7d', '?', '*', '+', '-', '|', '^', '$', '\\', '.', '&', '~',
    '#', ' ', '\t', '\n', '\r', '\x0b', '\x0c']

/-- What stands for a character of a wildcard pattern in an expression. -/
def wildcardText (wildcard : Char) : List Char :=
  if wildcard = '%' then ['.', '*']
  else if wildcard = '_' then ['.']
  else if wildcard ∈ specials then ['\\', wildcard]
  else [wildcard]

/-- The expression of a wildcard pattern. -/
def wildcardExpression (wildcards : String) : String :=
  String.ofList (wildcards.toList.flatMap wildcardText)

def wildcardSigns (wildcard : Char) : List Sign :=
  if wildcard = '%' then [.plain '.', .plain '*']
  else if wildcard = '_' then [.plain '.']
  else if wildcard ∈ specials then [.escaped wildcard]
  else [.plain wildcard]

def wildcardItem (wildcard : Char) : Kind × Pattern :=
  if wildcard = '%' then (.repetition, .repeated 0 none .greedy (.any startFlags))
  else if wildcard = '_' then (.item, .any startFlags)
  else (.item, .char wildcard startFlags)

def ofWildcards (wildcards : String) : Pattern :=
  Reader.sequence (wildcards.toList.map wildcardItem).reverse

/-- The first item of a sequence comes before the sequence of the others. -/
theorem sequence_reverse_cons (kind : Kind) (item : Pattern) (items : List (Kind × Pattern)) :
    Reader.sequence ((kind, item) :: items).reverse =
      match Reader.sequence items.reverse with
      | .empty => item
      | later => .seq item later := by
  unfold Reader.sequence
  rw [List.reverse_cons, List.foldl_append]
  rfl

/-! ### Signs -/

theorem signs?_wildcardText (wildcard : Char) (rest : List Char) :
    signs? (wildcardText wildcard ++ rest) =
      (signs? rest).map (wildcardSigns wildcard ++ ·) := by
  by_cases any : wildcard = '%'
  · cases rest <;> simp [wildcardText, wildcardSigns, any, signs?, Function.comp_def]
  by_cases one : wildcard = '_'
  · simp [wildcardText, wildcardSigns, one, signs?]
  by_cases special : wildcard ∈ specials
  · simp [wildcardText, wildcardSigns, any, one, special, signs?]
  · have noEscape : wildcard ≠ '\\' := by
      rintro rfl
      exact special (by decide)
    simp [wildcardText, wildcardSigns, any, one, special, signs?, noEscape]

theorem signs?_wildcards (wildcards : List Char) :
    signs? (wildcards.flatMap wildcardText) = some (wildcards.flatMap wildcardSigns) := by
  induction wildcards with
  | nil => rfl
  | cons wildcard wildcards inductionHypothesis =>
      rw [List.flatMap_cons, signs?_wildcardText, inductionHypothesis]
      rfl

/-- No sign asks for another preference of the repetition before it. -/
theorem greedy_of_mem_wildcardSigns {wildcard : Char} {sign : Sign}
    (among : sign ∈ wildcardSigns wildcard) : sign ≠ .plain '?' ∧ sign ≠ .plain '+' := by
  unfold wildcardSigns at among
  split at among
  · simp only [List.mem_cons, List.not_mem_nil, or_false] at among
    rcases among with rfl | rfl <;> decide
  · split at among
    · rw [List.mem_singleton.mp among]
      decide
    · split at among
      · rw [List.mem_singleton.mp among]
        exact ⟨nofun, nofun⟩
      · next plain =>
          rw [List.mem_singleton.mp among]
          constructor
          all_goals
            intro same
            cases same
            exact plain (by decide)

/-! ### Items -/

section Items

variable {fuel : Nat} {flags : Flags} {atStart : Bool} {done : List (Kind × Pattern)}
  {progress : Progress} {rest : List Sign}

/-- A character that is escaped is no digit and no letter, so the escape has no other
meaning. -/
theorem escape_special {character : Char} (special : character ∈ specials) :
    escape character flags = pure (.char character flags) := by
  have meanings : specials.all (fun mark => decide (
      ([('A', Anchor.start), ('b', .boundary), ('B', .nonBoundary), ('Z', .finish)].lookup
        mark = none ∧ classEscape? mark = none) ∧
      (commonEscape? mark = some mark ∨ commonEscape? mark = none ∧
        mark ≠ '0' ∧ isAsciiDigit mark = false ∧ mark ≠ 'x' ∧ mark ≠ 'u' ∧ mark ≠ 'U' ∧
          mark.isAlpha = false))) = true := by decide +kernel
  obtain ⟨⟨noAnchor, noClass⟩, itself | ⟨noCommon, zero, digit, x, u, U, letter⟩⟩ :=
    of_decide_eq_true (List.all_eq_true.mp meanings character special)
  · simp [escape, noAnchor, noClass, itself]
  · simp [escape, otherEscape, noAnchor, noClass, noCommon, zero, digit, x, u, U, letter]

theorem items_any (verbose : flags.verbose = false) (shape : progress.rest = .plain '.' :: rest) :
    (items (fuel + 1) flags atStart done).run progress =
      (items fuel flags atStart ((.item, .any flags) :: done)).run { progress with rest } := by
  -- Unfolding `items` by its name would unfold the items that come later too.
  rw [items.eq_2]
  simp [next?, skip, shape, verbose]

theorem items_escaped {character : Char} (special : character ∈ specials)
    (shape : progress.rest = .escaped character :: rest) :
    (items (fuel + 1) flags atStart done).run progress =
      (items fuel flags atStart ((.item, .char character flags) :: done)).run
        { progress with rest } := by
  rw [items.eq_2]
  simp [next?, skip, shape, escape_special special]

theorem items_plain {character : Char} (plain : character ∉ specials)
    (verbose : flags.verbose = false) (shape : progress.rest = .plain character :: rest) :
    (items (fuel + 1) flags atStart done).run progress =
      (items fuel flags atStart ((.item, .char character flags) :: done)).run
        { progress with rest } := by
  rw [items.eq_2]
  simp only [specials, List.mem_cons, not_or] at plain
  simp [next?, skip, shape, verbose, plain]

theorem items_star {body : Pattern} (verbose : flags.verbose = false)
    (shape : progress.rest = .plain '*' :: rest)
    (greedy : ∀ sign ∈ rest, sign ≠ .plain '?' ∧ sign ≠ .plain '+') :
    (items (fuel + 1) flags atStart ((.item, body) :: done)).run progress =
      (items fuel flags atStart ((.repetition, .repeated 0 none .greedy body) :: done)).run
        { progress with rest } := by
  rw [items.eq_2]
  rcases rest with _ | ⟨sign, rest⟩
  · simp [next?, skip, shape, verbose, repeatLast]
  · simp [next?, skip, shape, verbose, repeatLast, greedy]

/-- A character of a wildcard pattern is read as its item. -/
theorem items_wildcard {wildcard : Char}
    (shape : progress.rest = wildcardSigns wildcard ++ rest)
    (greedy : ∀ sign ∈ rest, sign ≠ .plain '?' ∧ sign ≠ .plain '+') :
    (items (fuel + (wildcardSigns wildcard).length) startFlags atStart done).run progress =
      (items fuel startFlags atStart (wildcardItem wildcard :: done)).run
        { progress with rest } := by
  by_cases any : wildcard = '%'
  · subst any
    exact (items_any rfl shape).trans (items_star rfl rfl greedy)
  by_cases one : wildcard = '_'
  · subst one
    exact items_any rfl shape
  have item : wildcardItem wildcard = (.item, .char wildcard startFlags) := by
    simp [wildcardItem, any, one]
  rw [item]
  by_cases special : wildcard ∈ specials
  · have signs : wildcardSigns wildcard = [.escaped wildcard] := by
      simp [wildcardSigns, any, one, special]
    rw [signs] at shape ⊢
    exact items_escaped special shape
  · have signs : wildcardSigns wildcard = [.plain wildcard] := by
      simp [wildcardSigns, any, one, special]
    rw [signs] at shape ⊢
    exact items_plain special rfl shape

theorem greedy_of_mem_flatMap {wildcards : List Char} {sign : Sign}
    (among : sign ∈ wildcards.flatMap wildcardSigns) :
    sign ≠ .plain '?' ∧ sign ≠ .plain '+' := by
  obtain ⟨wildcard, -, there⟩ := List.mem_flatMap.mp among
  exact greedy_of_mem_wildcardSigns there

theorem items_wildcards {wildcards : List Char} (atStart : Bool) (done : List (Kind × Pattern))
    (shape : progress.rest = wildcards.flatMap wildcardSigns)
    (enough : (wildcards.flatMap wildcardSigns).length < fuel) :
    (items fuel startFlags atStart done).run progress =
      .ok (Reader.sequence ((wildcards.map wildcardItem).reverse ++ done),
        { progress with rest := [] }) := by
  induction wildcards generalizing fuel done progress with
  | nil =>
      obtain ⟨fuel, rfl⟩ := Nat.exists_eq_add_of_lt enough
      have nothing : progress.rest = [] := shape
      have unchanged : { progress with rest := [] } = progress := by rw [← nothing]
      rw [items.eq_2, unchanged]
      simp [next?, shape]
      rfl
  | cons wildcard wildcards inductionHypothesis =>
      rw [List.flatMap_cons] at shape
      rw [List.flatMap_cons, List.length_append] at enough
      obtain ⟨fuel, rfl⟩ := Nat.exists_eq_add_of_le'
        (show (wildcardSigns wildcard).length ≤ fuel by omega)
      rw [items_wildcard shape fun _ => greedy_of_mem_flatMap, inductionHypothesis _ rfl (by omega)]
      simp

theorem alternatives_wildcards {wildcards : List Char}
    (shape : progress.rest = wildcards.flatMap wildcardSigns)
    (enough : (wildcards.flatMap wildcardSigns).length < fuel) :
    (alternatives (fuel + 1) startFlags true).run progress =
      .ok (Reader.sequence (wildcards.map wildcardItem).reverse, { progress with rest := [] }) := by
  rw [alternatives.eq_2]
  have first := items_wildcards true [] shape enough
  rw [List.append_nil] at first
  rw [StateT.run_bind, first]
  rfl

end Items

theorem read_wildcardExpression (wildcards : String) :
    read (wildcardExpression wildcards) = .ok (ofWildcards wildcards) := by
  have signs : signs? (wildcardExpression wildcards).toList =
      some (wildcards.toList.flatMap wildcardSigns) := by
    rw [wildcardExpression, String.toList_ofList, signs?_wildcards]
  unfold read
  rw [signs]
  dsimp only
  rw [alternatives_wildcards rfl (by omega)]
  rfl

example : wildcardExpression "5_%." = "5..*\\." := by decide +kernel

end GridQuery.Pattern

import GridQuery.Proofs.Pattern.Language
import GridQuery.Proofs.Pattern.Wildcards
import GridQuery.Text.Like

/-!
# Texts of the form of a wildcard pattern

A text has the form of a wildcard pattern if it can be cut into pieces, one for each character
of the pattern: any piece for `%`, one character for `_`, and for another character just that
character. Searching the ends of a text finds these texts, and so does matching the expression
of the pattern.
-/

namespace GridQuery.Text

open Computability Pattern

/-- The pieces that a character of a wildcard pattern takes. -/
def Takes (wildcard : Char) (piece : List Char) : Prop :=
  if wildcard = '%' then True
  else if wildcard = '_' then ∃ character, piece = [character]
  else piece = [wildcard]

/-- A text can be cut into consecutive pieces, one for each character of a pattern. -/
def IsCut (wildcards text : List Char) : Prop :=
  ∃ pieces, List.Forall₂ Takes wildcards pieces ∧ pieces.flatten = text

theorem takes_any (piece : List Char) : Takes '%' piece := by
  unfold Takes
  rw [if_pos rfl]
  trivial

/-- A character other than `%` takes one character. -/
theorem takes_iff {wildcard : Char} (single : wildcard ≠ '%') {piece : List Char} :
    Takes wildcard piece ↔
      ∃ character, (wildcard == '_' || wildcard == character) = true ∧ piece = [character] := by
  unfold Takes
  rw [if_neg single]
  by_cases one : wildcard = '_' <;> simp [one]

/-- The language of one character of a wildcard pattern. -/
def pieces (wildcard : Char) : Language Char := { piece | Takes wildcard piece }

/-- The language of a wildcard pattern. -/
def cuts (wildcards : List Char) : Language Char := { text | IsCut wildcards text }

theorem isCut_nil {text : List Char} : IsCut [] text ↔ text = [] := by
  unfold IsCut
  simp [List.forall₂_nil_left_iff, eq_comm]

theorem isCut_cons {wildcard : Char} {wildcards text : List Char} :
    IsCut (wildcard :: wildcards) text ↔
      ∃ piece, Takes wildcard piece ∧ ∃ rest, IsCut wildcards rest ∧ piece ++ rest = text := by
  unfold IsCut
  constructor
  · rintro ⟨_, cut, rfl⟩
    obtain ⟨piece, later, takes, cutLater, rfl⟩ := List.forall₂_cons_left_iff.mp cut
    exact ⟨piece, takes, later.flatten, ⟨later, cutLater, rfl⟩, List.flatten_cons.symm⟩
  · rintro ⟨piece, takes, _, ⟨later, cutLater, rfl⟩, rfl⟩
    exact ⟨piece :: later, .cons takes cutLater, List.flatten_cons⟩

/-! ### Searching the ends of a text -/

theorem anyEnd_iff {test : List Char → Bool} {text : List Char} :
    anyEnd test text = true ↔ ∃ piece rest, test rest = true ∧ piece ++ rest = text := by
  induction text with
  | nil => simp [anyEnd]
  | cons character text inductionHypothesis =>
      unfold anyEnd
      rw [Bool.or_eq_true, inductionHypothesis]
      constructor
      · rintro (whole | ⟨piece, rest, passes, rfl⟩)
        · exact ⟨[], _, whole, rfl⟩
        · exact ⟨character :: piece, rest, passes, rfl⟩
      · rintro ⟨_ | ⟨first, piece⟩, rest, passes, split⟩
        · cases split
          exact .inl passes
        · cases split
          exact .inr ⟨piece, rest, passes, rfl⟩

theorem matchesLike_iff_isCut {wildcards text : List Char} :
    matchesLike (· == ·) wildcards text = true ↔ IsCut wildcards text := by
  induction wildcards generalizing text with
  | nil => rw [matchesLike, isCut_nil, List.isEmpty_iff]
  | cons wildcard wildcards inductionHypothesis =>
      rw [isCut_cons]
      by_cases any : wildcard = '%'
      · subst any
        simp [matchesLike, anyEnd_iff, inductionHypothesis, takes_any]
      · cases text with
        | nil => simp [matchesLike, any, takes_iff any]
        | cons character text =>
            simp only [matchesLike, beq_false_of_ne any, takes_iff any, Bool.false_eq_true,
              if_false]
            rw [Bool.and_eq_true, inductionHypothesis]
            constructor
            · rintro ⟨same, later⟩
              exact ⟨[character], ⟨character, same, rfl⟩, text, later, rfl⟩
            · rintro ⟨_, ⟨_, same, rfl⟩, rest, later, split⟩
              cases split
              exact ⟨same, later⟩

/-! ### Matching the expression of the pattern -/

theorem reads_wildcardItem (wildcard : Char) :
    Reads (wildcardItem wildcard).2 (pieces wildcard) := by
  unfold wildcardItem pieces Takes
  split
  · have every : oneCharacter∗ = { _piece | True } :=
      Set.eq_univ_of_forall mem_kstar_oneCharacter
    rw [← every]
    exact (reads_any rfl).repeated nofun
  · split
    · exact reads_any rfl
    · exact reads_char rfl wildcard

theorem cuts_nil : cuts [] = 1 := by
  ext text
  exact isCut_nil

theorem cuts_cons (wildcard : Char) (wildcards : List Char) :
    cuts (wildcard :: wildcards) = pieces wildcard * cuts wildcards := by
  ext text
  exact isCut_cons

theorem reads_wildcards (wildcards : List Char) :
    Reads (Reader.sequence (wildcards.map wildcardItem).reverse) (cuts wildcards) := by
  induction wildcards with
  | nil =>
      rw [cuts_nil]
      exact reads_empty
  | cons wildcard wildcards inductionHypothesis =>
      rw [cuts_cons, List.map_cons, sequence_reverse_cons]
      split
      · next empty =>
          rw [empty] at inductionHypothesis
          rw [eq_one_of_reads_empty inductionHypothesis, mul_one]
          exact reads_wildcardItem wildcard
      · exact (reads_wildcardItem wildcard).seq inductionHypothesis

/-- A text has the form of a wildcard pattern, and the expression of the pattern, which can
always be read, matches it, if and only if the text can be cut into pieces for the characters
of the pattern. -/
theorem like_iff_isCut (wildcards text : String) :
    (like true wildcards text = true ↔ IsCut wildcards.toList text.toList) ∧
    ∃ pattern, Pattern.read (wildcardExpression wildcards) = .ok pattern ∧
      (pattern.matchesWhole text = true ↔ IsCut wildcards.toList text.toList) := by
  refine ⟨matchesLike_iff_isCut, ofWildcards wildcards, read_wildcardExpression wildcards, ?_⟩
  exact (reads_wildcards wildcards.toList).matchesWhole_iff text

end GridQuery.Text

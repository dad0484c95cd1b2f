import GridQuery.Text.Basic
import Mathlib

/-!
# Characters up to a stop

How far a scan of characters that pass a test goes, and what trimming leaves alone.
-/

namespace GridQuery

/-- The characters do not go on with one that passes the test. -/
def Stops (test : Char → Bool) (characters : List Char) : Prop :=
  ∀ character ∈ characters.head?, test character = false

@[simp]
theorem stops_nil (test : Char → Bool) : Stops test [] := by simp [Stops]

@[simp]
theorem stops_cons (test : Char → Bool) (character : Char) (rest : List Char) :
    Stops test (character :: rest) ↔ test character = false := by simp [Stops]

theorem takeWhile_of_stops {test : Char → Bool} {rest : List Char} (stops : Stops test rest) :
    rest.takeWhile test = [] := by
  cases rest with
  | nil => rfl
  | cons character rest =>
      have failed : test character = false := by simpa using stops
      simp [failed]

theorem takeWhile_append_stops {test : Char → Bool} {taken rest : List Char}
    (all : ∀ character ∈ taken, test character = true) (stops : Stops test rest) :
    (taken ++ rest).takeWhile test = taken := by
  rw [List.takeWhile_append_of_pos all, takeWhile_of_stops stops, List.append_nil]

theorem dropWhile_of_stops {test : Char → Bool} {rest : List Char} (stops : Stops test rest) :
    rest.dropWhile test = rest := by
  cases rest with
  | nil => rfl
  | cons character rest =>
      have failed : test character = false := by simpa using stops
      simp [failed]

theorem dropWhile_append_stops {test : Char → Bool} {taken rest : List Char}
    (all : ∀ character ∈ taken, test character = true) (stops : Stops test rest) :
    (taken ++ rest).dropWhile test = rest := by
  rw [List.dropWhile_append_of_pos all, dropWhile_of_stops stops]

theorem dropWhile_append_of_stops {test : Char → Bool} {rest : List Char}
    (stops : Stops test rest) (front : List Char) :
    (front ++ rest).dropWhile test = front.dropWhile test ++ rest := by
  rw [List.dropWhile_append]
  split
  · next empty => rw [dropWhile_of_stops stops, List.isEmpty_iff.mp empty, List.nil_append]
  · rfl

theorem Stops.mono {test other : Char → Bool} {characters : List Char}
    (stops : Stops other characters)
    (weaker : ∀ character, test character = true → other character = true) :
    Stops test characters := by
  intro character head
  cases passed : test character with
  | false => rfl
  | true =>
      have stopped := stops character head
      rw [weaker character passed] at stopped
      cases stopped

theorem stops_append {test : Char → Bool} {characters rest : List Char}
    (stops : Stops test characters) (nonempty : characters ≠ []) :
    Stops test (characters ++ rest) := by
  cases characters with
  | nil => exact absurd rfl nonempty
  | cons character characters => simpa using stops

/-- What is left stops the test. -/
theorem stops_dropWhile (test : Char → Bool) (characters : List Char) :
    Stops test (characters.dropWhile test) := by
  intro character head
  have failed := List.head?_dropWhile_not test characters
  rwa [Option.mem_def.mp head] at failed

theorem not_mem_takeWhile_ne (mark : Char) (characters : List Char) :
    mark ∉ characters.takeWhile (· != mark) := by
  intro among
  have other := List.all_eq_true.mp List.all_takeWhile mark among
  simp at other

theorem drop_length_takeWhile (test : Char → Bool) (characters : List Char) :
    characters.drop (characters.takeWhile test).length = characters.dropWhile test := by
  induction characters with
  | nil => rfl
  | cons character characters inductionHypothesis =>
      cases passed : test character <;> simp [passed, inductionHypothesis]

/-- Trimming leaves characters alone that neither begin nor end with a blank. -/
theorem trimList_of_stops {characters : List Char} (front : Stops Text.isBlank characters)
    (back : Stops Text.isBlank characters.reverse) : Text.trimList characters = characters := by
  rw [Text.trimList, dropWhile_of_stops front, dropWhile_of_stops back, List.reverse_reverse]

/-- Trimming goes into the characters in front, and up to the last one that is not blank. -/
theorem trimList_append {middle blanks : List Char} (before : List Char) (nonempty : middle ≠ [])
    (front : Stops Text.isBlank middle) (back : Stops Text.isBlank middle.reverse)
    (blank : ∀ character ∈ blanks, Text.isBlank character = true) :
    Text.trimList (before ++ (middle ++ blanks)) = before.dropWhile Text.isBlank ++ middle := by
  have turned : middle.reverse ≠ [] := by simpa using nonempty
  rw [Text.trimList, dropWhile_append_of_stops (stops_append front nonempty), List.reverse_append,
    List.reverse_append, List.append_assoc,
    dropWhile_append_stops (by simpa using blank) (stops_append back turned),
    List.reverse_append, List.reverse_reverse, List.reverse_reverse]

/-- Trimmed characters are what comes after the blanks in front, up to blanks at the end. -/
theorem dropWhile_isBlank_eq (characters : List Char) :
    ∃ back, characters.dropWhile Text.isBlank = Text.trimList characters ++ back := by
  refine ⟨((characters.dropWhile Text.isBlank).reverse.takeWhile Text.isBlank).reverse, ?_⟩
  rw [Text.trimList, ← List.reverse_append, List.takeWhile_append_dropWhile, List.reverse_reverse]

theorem isBlank_eq_false_of_toNat {character : Char} (above : 33 ≤ character.toNat)
    (below : character.toNat ≤ 132) : Text.isBlank character = false := by
  have first : ¬ character.toNat < 9 := by omega
  have second : ¬ character.toNat ≤ 13 := by omega
  have third : ¬ character.toNat < 28 := by omega
  have fourth : ¬ character.toNat ≤ 32 := by omega
  have fifth : character.toNat < 133 := by omega
  simp [Text.isBlank, Text.blankRanges, Text.inRanges, first, second, third, fourth, fifth]

theorem toNat_of_isAlphanum {character : Char} (alphanumeric : character.isAlphanum = true) :
    48 ≤ character.toNat ∧ character.toNat ≤ 122 := by
  simp [Char.isAlphanum, Char.isAlpha, Char.isUpper, Char.isLower, Char.isDigit,
    UInt32.le_iff_toNat_le] at alphanumeric
  omega

theorem isBlank_of_isAlphanum {character : Char} (alphanumeric : character.isAlphanum = true) :
    Text.isBlank character = false := by
  have bounds := toNat_of_isAlphanum alphanumeric
  exact isBlank_eq_false_of_toNat (by omega) (by omega)

end GridQuery

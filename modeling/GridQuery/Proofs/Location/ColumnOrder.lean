import GridQuery.Proofs.Location.ColumnCode

/-!
# The order of column codes

Column codes count with digits from 1 to 26 and without a zero, so that every word of capital
letters is the code of one place. A shorter code comes before a longer one, and codes of one
length come in the order of the alphabet.
-/

namespace GridQuery

/-- A word of capital letters from A to Z. -/
structure IsColumnCode (code : String) : Prop where
  nonempty : code.toList ≠ []
  capital : ∀ letter ∈ code.toList, letter.isUpper = true

/-- A code is shorter than another one, or as long and before it in the alphabet. -/
def CodeBefore (code other : String) : Prop :=
  code.toList.length < other.toList.length ∨
    code.toList.length = other.toList.length ∧ code.toList < other.toList

/-! ### Values of letters -/

/-- The value of letters that follow on digits of the value `start`. -/
def lettersValue (start : Int) (letters : List Char) : Int :=
  letters.foldl (fun (index : Int) letter =>
    index * 26 + ((letter.toNat : Int) - 'A'.toNat + 1)) start

theorem lettersValue_cons (start : Int) (letter : Char) (letters : List Char) :
    lettersValue start (letter :: letters) =
      lettersValue (start * 26 + ((letter.toNat : Int) - 'A'.toNat + 1)) letters := rfl

theorem lettersValue_append (start : Int) (front back : List Char) :
    lettersValue start (front ++ back) = lettersValue (lettersValue start front) back :=
  List.foldl_append

/-- A letter is worth 1 to 26. -/
theorem digit_bounds {letter : Char} (capital : letter.isUpper = true) :
    1 ≤ (letter.toNat : Int) - 'A'.toNat + 1 ∧ (letter.toNat : Int) - 'A'.toNat + 1 ≤ 26 := by
  obtain ⟨offset, bound, rfl⟩ := exists_of_isUpper capital
  have code := (capital_facts offset bound).2.1
  have letterA : 'A'.toNat = 65 := rfl
  rw [code, letterA]
  omega

variable {letters others : List Char}

/-- No digits that follow make up for a difference in front of them: the greatest digit after
the lesser value is still below the least one after the greater. -/
theorem lettersValue_lt_of_start_lt {start other : Int} (less : start < other)
    (same : letters.length = others.length)
    (capital : ∀ letter ∈ letters, letter.isUpper = true)
    (otherCapital : ∀ letter ∈ others, letter.isUpper = true) :
    lettersValue start letters < lettersValue other others := by
  induction letters generalizing start other others with
  | nil =>
      rw [List.eq_nil_of_length_eq_zero same.symm]
      exact less
  | cons letter letters inductionHypothesis =>
      cases others with
      | nil => cases same
      | cons second others =>
          have bounds := digit_bounds (capital letter List.mem_cons_self)
          have otherBounds := digit_bounds (otherCapital second List.mem_cons_self)
          rw [lettersValue_cons, lettersValue_cons]
          apply inductionHypothesis
          · omega
          · exact Nat.succ.inj same
          · intro next among
            exact capital next (List.mem_cons_of_mem letter among)
          · intro next among
            exact otherCapital next (List.mem_cons_of_mem second among)

theorem lettersValue_lt_of_lt (start : Int) (before : letters < others)
    (same : letters.length = others.length)
    (capital : ∀ letter ∈ letters, letter.isUpper = true)
    (otherCapital : ∀ letter ∈ others, letter.isUpper = true) :
    lettersValue start letters < lettersValue start others := by
  induction letters generalizing start others with
  | nil =>
      rw [List.eq_nil_of_length_eq_zero same.symm] at before
      exact absurd before (List.not_lt_nil [])
  | cons letter letters inductionHypothesis =>
      cases others with
      | nil => cases same
      | cons second others =>
          have tail : letters.length = others.length := Nat.succ.inj same
          have tailCapital : ∀ next ∈ letters, next.isUpper = true := fun next among =>
            capital next (List.mem_cons_of_mem letter among)
          have tailOtherCapital : ∀ next ∈ others, next.isUpper = true := fun next among =>
            otherCapital next (List.mem_cons_of_mem second among)
          rw [lettersValue_cons, lettersValue_cons]
          rcases List.cons_lt_cons_iff.mp before with less | ⟨rfl, later⟩
          · have code : letter.toNat < second.toNat := less
            exact lettersValue_lt_of_start_lt (by omega) tail tailCapital tailOtherCapital
          · exact inductionHypothesis _ later tail tailCapital tailOtherCapital

/-- Letters in front are worth more than none. -/
theorem lettersValue_pos (some : letters ≠ [])
    (capital : ∀ letter ∈ letters, letter.isUpper = true) {start : Int} (known : 0 ≤ start) :
    0 < lettersValue start letters := by
  induction letters generalizing start with
  | nil => exact absurd rfl some
  | cons letter letters inductionHypothesis =>
      have bounds := digit_bounds (capital letter List.mem_cons_self)
      rw [lettersValue_cons]
      by_cases last : letters = []
      · subst last
        change 0 < start * 26 + ((letter.toNat : Int) - 'A'.toNat + 1)
        omega
      · apply inductionHypothesis last
        · intro next among
          exact capital next (List.mem_cons_of_mem letter among)
        · omega

theorem lettersValue_lt_of_length_lt (shorter : letters.length < others.length)
    (capital : ∀ letter ∈ letters, letter.isUpper = true)
    (otherCapital : ∀ letter ∈ others, letter.isUpper = true) :
    lettersValue 0 letters < lettersValue 0 others := by
  have split := List.take_append_drop (others.length - letters.length) others
  have front : others.take (others.length - letters.length) ≠ [] := by
    intro none
    have length := congrArg List.length none
    simp at length
    omega
  have positive : 0 < lettersValue 0 (others.take (others.length - letters.length)) :=
    lettersValue_pos front (fun letter among => otherCapital letter (List.mem_of_mem_take among))
      (Int.le_refl 0)
  rw [← split, lettersValue_append]
  apply lettersValue_lt_of_start_lt positive
  · simp
    omega
  · exact capital
  · intro letter among
    exact otherCapital letter (List.mem_of_mem_drop among)

/-! ### Places of codes -/

variable {code other : String}

theorem isColumnCode_columnLetters (index : Nat) : IsColumnCode (columnLetters index) :=
  ⟨columnLetters_ne_nil index, fun _ => isUpper_of_mem_columnLetters⟩

theorem IsColumnCode.columnIndex_eq (isCode : IsColumnCode code) :
    columnIndex code = lettersValue 0 code.toList - 1 := by
  have same : Text.upper code = code := by
    simpa using upper_of_isUpper isCode.capital
  rw [columnIndex, same]
  rfl

theorem columnIndex_lt_of_codeBefore (isCode : IsColumnCode code) (otherCode : IsColumnCode other)
    (before : CodeBefore code other) : columnIndex code < columnIndex other := by
  rw [isCode.columnIndex_eq, otherCode.columnIndex_eq]
  apply Int.sub_lt_sub_right
  cases before with
  | inl shorter => exact lettersValue_lt_of_length_lt shorter isCode.capital otherCode.capital
  | inr sameLength =>
      exact lettersValue_lt_of_lt 0 sameLength.2 sameLength.1 isCode.capital otherCode.capital

theorem codeBefore_total (code other : String) :
    CodeBefore code other ∨ code = other ∨ CodeBefore other code := by
  rcases Nat.lt_trichotomy code.toList.length other.toList.length with shorter | same | longer
  · exact .inl (.inl shorter)
  · rcases lt_trichotomy code.toList other.toList with before | equal | after
    · exact .inl (.inr ⟨same, before⟩)
    · exact .inr (.inl (String.toList_inj.mp equal))
    · exact .inr (.inr (.inr ⟨same.symm, after⟩))
  · exact .inr (.inr (.inl longer))

theorem lt_of_codeBefore_columnLetters {index next : Nat}
    (before : CodeBefore (columnLetters index) (columnLetters next)) : index < next := by
  have less := columnIndex_lt_of_codeBefore (isColumnCode_columnLetters index)
    (isColumnCode_columnLetters next) before
  rw [columnIndex_columnLetters, columnIndex_columnLetters] at less
  exact Int.ofNat_lt.mp less

/-- Places have codes that name them, codes have places whose codes they are, and places come
in the order of their codes. -/
theorem columnCodes_numbered :
    (∀ index : Nat, IsColumnCode (columnLetters index) ∧
      columnIndex (columnLetters index) = index) ∧
    (∀ code, IsColumnCode code →
      ∃ index : Nat, columnIndex code = index ∧ columnLetters index = code) ∧
    ∀ index next : Nat, index < next ↔ CodeBefore (columnLetters index) (columnLetters next) := by
  refine ⟨?_, ?_, ?_⟩
  · intro index
    exact ⟨isColumnCode_columnLetters index, columnIndex_columnLetters index⟩
  · intro code isCode
    have named := columnLetters_columnIndex isCode.capital isCode.nonempty
    exact ⟨(columnIndex code).toNat, (Int.toNat_of_nonneg named.1).symm, named.2⟩
  · intro index next
    refine ⟨?_, lt_of_codeBefore_columnLetters⟩
    intro less
    rcases codeBefore_total (columnLetters index) (columnLetters next) with before | same | after
    · exact before
    · have places := congrArg columnIndex same
      rw [columnIndex_columnLetters, columnIndex_columnLetters] at places
      omega
    · have greater := lt_of_codeBefore_columnLetters after
      omega

/-- The last code of two letters and the first of three. -/
theorem columnCodes_carry :
    (∃ index : Nat, columnIndex "ZZ" = index ∧ columnLetters index = "ZZ") ∧
      (∃ index : Nat, columnIndex "AAA" = index ∧ columnLetters index = "AAA") ∧
      CodeBefore (columnLetters 701) (columnLetters 702) := by
  obtain ⟨-, places, order⟩ := columnCodes_numbered
  refine ⟨places "ZZ" ⟨by decide, ?_⟩, places "AAA" ⟨by decide, ?_⟩, (order 701 702).mp (by decide)⟩
  · exact List.all_eq_true.mp (by decide)
  · exact List.all_eq_true.mp (by decide)

end GridQuery

import GridQuery.Location
import Mathlib

/-!
# Column codes and places

The code of a place is made of capital letters and names that place again.
-/

namespace GridQuery

theorem exists_of_isUpper {letter : Char} (upper : letter.isUpper = true) :
    ∃ offset < 26, letter = Char.ofNat (65 + offset) := by
  have bounds : 65 ≤ letter.toNat ∧ letter.toNat ≤ 90 := by
    simpa [Char.isUpper, UInt32.le_iff_toNat_le] using upper
  refine ⟨letter.toNat - 65, by omega, ?_⟩
  rw [Nat.add_sub_cancel' bounds.1, Char.ofNat_toNat]

theorem capital_facts : ∀ offset < 26,
    (Char.ofNat (65 + offset)).isUpper = true ∧
      (Char.ofNat (65 + offset)).toNat = 65 + offset ∧
      Text.upperChar (Char.ofNat (65 + offset)) = [Char.ofNat (65 + offset)] := by
  decide +kernel

theorem upperChar_of_isUpper {letter : Char} (upper : letter.isUpper = true) :
    Text.upperChar letter = [letter] := by
  obtain ⟨offset, bound, rfl⟩ := exists_of_isUpper upper
  exact (capital_facts offset bound).2.2

theorem flatMap_upperChar {letters : List Char}
    (upper : ∀ letter ∈ letters, letter.isUpper = true) :
    letters.flatMap Text.upperChar = letters := by
  induction letters with
  | nil => rfl
  | cons letter letters inductionHypothesis =>
      have later := inductionHypothesis fun other membership =>
        upper other (List.mem_cons_of_mem letter membership)
      simp [upperChar_of_isUpper (upper letter List.mem_cons_self), later]

theorem upper_of_isUpper {letters : List Char}
    (upper : ∀ letter ∈ letters, letter.isUpper = true) :
    Text.upper (String.ofList letters) = String.ofList letters := by
  simp [Text.upper, flatMap_upperChar upper]

theorem isUpper_of_mem_columnDigits {value : Nat} {letter : Char}
    (membership : letter ∈ columnDigits value) : letter.isUpper = true := by
  fun_induction columnDigits value with
  | case1 value positive inductionHypothesis =>
      rcases List.mem_cons.mp membership with rfl | later
      · exact (capital_facts ((value - 1) % 26) (Nat.mod_lt _ (by decide))).1
      · exact inductionHypothesis later
  | case2 value zero => simp at membership

/-- The digits of a value, the last of them first, add up to it. -/
theorem foldr_columnDigits (value : Nat) :
    (columnDigits value).foldr
      (fun letter (index : Int) => index * 26 + ((letter.toNat : Int) - 'A'.toNat + 1)) 0 =
        value := by
  fun_induction columnDigits value with
  | case1 value positive inductionHypothesis =>
      have digit := (capital_facts ((value - 1) % 26) (Nat.mod_lt _ (by decide))).2.1
      have letter : 'A'.toNat = 65 := rfl
      rw [List.foldr_cons, inductionHypothesis, letter, digit]
      omega
  | case2 value zero =>
      have none : value = 0 := by omega
      simp [none]

theorem columnDigits_ne_nil {value : Nat} (positive : 0 < value) : columnDigits value ≠ [] := by
  rw [columnDigits, if_pos positive]
  exact List.cons_ne_nil _ _

@[simp]
theorem toList_columnLetters (index : Nat) :
    (columnLetters index).toList = (columnDigits (index + 1)).reverse := by
  simp [columnLetters]

theorem isUpper_of_mem_columnLetters {index : Nat} {letter : Char}
    (membership : letter ∈ (columnLetters index).toList) : letter.isUpper = true := by
  rw [toList_columnLetters, List.mem_reverse] at membership
  exact isUpper_of_mem_columnDigits membership

theorem columnLetters_ne_nil (index : Nat) : (columnLetters index).toList ≠ [] := by
  rw [toList_columnLetters, List.reverse_ne_nil_iff]
  exact columnDigits_ne_nil (Nat.succ_pos index)

/-- The code of a place names the place. -/
@[simp]
theorem columnIndex_columnLetters (index : Nat) : columnIndex (columnLetters index) = index := by
  have upper : ∀ letter ∈ (columnDigits (index + 1)).reverse, letter.isUpper = true :=
    fun letter membership => isUpper_of_mem_columnDigits (List.mem_reverse.mp membership)
  rw [columnIndex, columnLetters, upper_of_isUpper upper, String.toList_ofList, columnIndexOf,
    List.foldl_reverse, foldr_columnDigits]
  omega

/-- Capital letters, the last of them first, are the digits of a value. -/
theorem exists_columnDigits {letters : List Char}
    (upper : ∀ letter ∈ letters, letter.isUpper = true) :
    ∃ value : Nat, columnDigits value = letters ∧
      letters.foldr
        (fun letter (index : Int) => index * 26 + ((letter.toNat : Int) - 'A'.toNat + 1)) 0 =
          value := by
  induction letters with
  | nil => exact ⟨0, by rw [columnDigits]; rfl, rfl⟩
  | cons letter letters inductionHypothesis =>
      obtain ⟨value, digits, valued⟩ := inductionHypothesis fun other membership =>
        upper other (List.mem_cons_of_mem letter membership)
      obtain ⟨offset, bound, rfl⟩ := exists_of_isUpper (upper letter List.mem_cons_self)
      have code : (Char.ofNat (65 + offset)).toNat = 65 + offset := (capital_facts offset bound).2.1
      have letterA : 'A'.toNat = 65 := rfl
      refine ⟨value * 26 + offset + 1, ?_, ?_⟩
      · have digit : (value * 26 + offset + 1 - 1) % 26 = offset := by omega
        have rest : (value * 26 + offset + 1 - 1) / 26 = value := by omega
        rw [columnDigits, if_pos (Nat.succ_pos _), digit, rest, digits, letterA]
      · rw [List.foldr_cons, valued, code, letterA]
        omega

/-- A column code is the code of the place that it names. -/
theorem columnLetters_columnIndex {name : String}
    (upper : ∀ letter ∈ name.toList, letter.isUpper = true) (some : name.toList ≠ []) :
    0 ≤ columnIndex name ∧ columnLetters (columnIndex name).toNat = name := by
  obtain ⟨value, digits, valued⟩ := exists_columnDigits (fun letter membership =>
    upper letter (List.mem_reverse.mp membership) : ∀ letter ∈ name.toList.reverse, _)
  have positive : 0 < value := by
    refine Nat.pos_of_ne_zero fun zero => some ?_
    rw [zero, columnDigits] at digits
    exact List.reverse_eq_nil_iff.mp digits.symm
  have index : columnIndex name = value - 1 := by
    have same : Text.upper name = name := by
      simpa using upper_of_isUpper upper
    rw [columnIndex, same, columnIndexOf, ← valued, List.foldr_reverse]
  refine ⟨by omega, ?_⟩
  have place : (columnIndex name).toNat + 1 = value := by omega
  rw [columnLetters, place, digits, List.reverse_reverse, String.ofList_toList]

end GridQuery

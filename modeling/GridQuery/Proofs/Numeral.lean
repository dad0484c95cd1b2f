import GridQuery.Number.Decimal
import GridQuery.Proofs.Characters

/-!
# Decimal numerals read back

The digits of a natural number, also with zeros in front of them, are scanned as the digits
of that number and nothing after them.
-/

namespace GridQuery

theorem Text.digitValue?_of_isDigit {character : Char} (digit : character.isDigit = true) :
    Text.digitValue? character = some (character.toNat - 48) := by
  have bounds := Char.isDigit_iff_toNat.mp digit
  simp only [Char.reduceToNat] at bounds
  have upper : character.toNat < 58 := by omega
  simp [Text.digitValue?, Text.zeroDigits, bounds.1, upper]

theorem Text.digitValue?_eq_none {character : Char}
    (bounds : character.toNat < 48 ∨ 58 ≤ character.toNat ∧ character.toNat < 1632) :
    Text.digitValue? character = none := by
  have zeros : ∀ first ∈ Text.zeroDigits, first = 48 ∨ 1632 ≤ first := by decide
  rw [Text.digitValue?, Option.map_eq_none_iff, List.find?_eq_none]
  intro first membership inside
  have cases := zeros first membership
  simp only [Bool.and_eq_true, decide_eq_true_eq] at inside
  omega

/-- The values of digits that are written in ASCII. -/
def digitValues (digits : List Char) : List Nat :=
  digits.map fun digit => digit.toNat - 48

@[simp]
theorem length_digitValues (digits : List Char) :
    (digitValues digits).length = digits.length := by
  simp [digitValues]

theorem ofDigits_digitValues (digits : List Char) :
    ofDigits (digitValues digits) = Nat.ofDigitChars 10 digits 0 := by
  simp [ofDigits, digitValues, Nat.ofDigitChars, List.foldl_map]

theorem scanDigits_of_stops {rest : List Char} (stops : Stops Text.isDigit rest) :
    Numeral.scanDigits rest = ([], rest) := by
  cases rest with
  | nil => rfl
  | cons character rest =>
      have none : Text.digitValue? character = none := by simpa [Text.isDigit] using stops
      simp [Numeral.scanDigits, none]

/-- The characters of a scan are the digits that it has taken and what it leaves. -/
theorem scanDigits_split (characters : List Char) :
    ∃ digits, characters = digits ++ (Numeral.scanDigits characters).2 ∧
      (∀ digit ∈ digits, Text.isDigit digit = true) ∧
      digits.length = (Numeral.scanDigits characters).1.length := by
  induction characters with
  | nil => exact ⟨[], rfl, by simp, rfl⟩
  | cons character rest inductionHypothesis =>
      obtain ⟨digits, whole, all, length⟩ := inductionHypothesis
      cases value : Text.digitValue? character with
      | none => exact ⟨[], by simp [Numeral.scanDigits, value], by simp,
          by simp [Numeral.scanDigits, value]⟩
      | some digit =>
          refine ⟨character :: digits, ?_, ?_, by simp [Numeral.scanDigits, value, length]⟩
          · simpa [Numeral.scanDigits, value] using whole
          · simpa [Text.isDigit, value] using all

/-- A scan of digits that has stopped at a character stops there whatever comes later. -/
theorem scanDigits_append_of_stopped {characters rest : List Char} {values : List Nat}
    {mark : Char} (scanned : Numeral.scanDigits characters = (values, mark :: rest))
    (more : List Char) :
    Numeral.scanDigits (characters ++ more) = (values, mark :: (rest ++ more)) := by
  induction characters generalizing values with
  | nil => simp [Numeral.scanDigits] at scanned
  | cons character characters inductionHypothesis =>
      cases value : Text.digitValue? character with
      | none =>
          simp only [Numeral.scanDigits, value, Prod.mk.injEq, List.cons.injEq] at scanned
          obtain ⟨rfl, rfl, rfl⟩ := scanned
          simp [Numeral.scanDigits, value]
      | some digit =>
          simp only [Numeral.scanDigits, value, Prod.mk.injEq] at scanned
          obtain ⟨rfl, left⟩ := scanned
          have later := inductionHypothesis (Prod.ext rfl left)
          simp [Numeral.scanDigits, value, later]

/-- No numeral begins where there is neither a digit nor a point. -/
theorem scan_eq_none {first : Char} {rest : List Char}
    (digit : Text.digitValue? first = none) (point : first ≠ '.') :
    Numeral.scan (first :: rest) = none := by
  simp only [Numeral.scan, Numeral.scanDigits, digit]
  split
  · next shape => simp_all
  · rfl
  · simp_all
  · simp_all

theorem scanDigits_append {digits rest : List Char}
    (all : ∀ digit ∈ digits, digit.isDigit = true) (stops : Stops Text.isDigit rest) :
    Numeral.scanDigits (digits ++ rest) = (digitValues digits, rest) := by
  induction digits with
  | nil => simpa [digitValues] using scanDigits_of_stops stops
  | cons digit digits inductionHypothesis =>
      have first := Text.digitValue?_of_isDigit (all digit List.mem_cons_self)
      have later := inductionHypothesis fun other membership =>
        all other (List.mem_cons_of_mem digit membership)
      simp [Numeral.scanDigits, first, later, digitValues]

theorem filterMap_digitValue? {digits : List Char}
    (all : ∀ digit ∈ digits, digit.isDigit = true) :
    digits.filterMap Text.digitValue? = digitValues digits := by
  induction digits with
  | nil => rfl
  | cons digit digits inductionHypothesis =>
      have first := Text.digitValue?_of_isDigit (all digit List.mem_cons_self)
      have later := inductionHypothesis fun other membership =>
        all other (List.mem_cons_of_mem digit membership)
      simp [first, later, digitValues]

@[simp]
theorem toList_ofNat (value : Nat) : (Text.ofNat value).toList = Nat.toDigits 10 value := by
  simp [Text.ofNat]

theorem isDigit_of_mem_toDigits {value : Nat} {digit : Char}
    (membership : digit ∈ Nat.toDigits 10 value) : digit.isDigit = true :=
  Nat.isDigit_of_mem_toDigits (by decide) (by decide) membership

/-- A numeral begins with a digit. -/
theorem toDigits_shape (value : Nat) :
    ∃ first later, Nat.toDigits 10 value = first :: later ∧ first.isDigit = true := by
  obtain ⟨first, later, shape⟩ : ∃ first later, Nat.toDigits 10 value = first :: later :=
    List.exists_cons_of_ne_nil Nat.toDigits_ne_nil
  have membership : first ∈ Nat.toDigits 10 value := by
    simp [shape]
  exact ⟨first, later, shape, isDigit_of_mem_toDigits membership⟩

@[simp]
theorem ofDigits_toDigits (value : Nat) :
    ofDigits (digitValues (Nat.toDigits 10 value)) = value := by
  rw [ofDigits_digitValues, Nat.ofDigitChars_ten_toDigits]

/-- The characters of a numeral of at least a given width. -/
theorem toList_zeroPadded (width value : Nat) :
    (Text.zeroPadded width value).toList =
      List.replicate (width - digitCount value) '0' ++ Nat.toDigits 10 value := by
  simp [Text.zeroPadded, Text.padLeft, digitCount, Text.ofNat]

theorem isDigit_of_mem_zeroPadded {width value : Nat} {digit : Char}
    (membership : digit ∈ (Text.zeroPadded width value).toList) : digit.isDigit = true := by
  rw [toList_zeroPadded, List.mem_append] at membership
  rcases membership with zero | digits
  · rw [List.eq_of_mem_replicate zero]
    decide
  · exact isDigit_of_mem_toDigits digits

@[simp]
theorem ofDigits_zeroPadded (width value : Nat) :
    ofDigits (digitValues (Text.zeroPadded width value).toList) = value := by
  rw [toList_zeroPadded, ofDigits_digitValues, Nat.ofDigitChars_append]
  simp

/-- A number of no more digits than the width takes just the width. -/
theorem length_zeroPadded {width value : Nat} (positive : 0 < width)
    (fits : value < 10 ^ width) : (Text.zeroPadded width value).toList.length = width := by
  have bound := (Nat.length_toDigits_le_iff (by decide : 1 < 10) positive).mpr fits
  rw [toList_zeroPadded, List.length_append, List.length_replicate, digitCount]
  omega

end GridQuery

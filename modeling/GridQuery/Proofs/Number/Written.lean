import GridQuery.Proofs.Number.Decimal

/-!
# Written numbers are read back

The text of a finite number is a numeral with a point or an exponent, behind a minus if the
number is negative, and the numeral is read as the number without its sign.
-/

namespace GridQuery

/-! ### Digits and zeros -/

@[simp]
theorem digitValues_append (left right : List Char) :
    digitValues (left ++ right) = digitValues left ++ digitValues right := by
  simp [digitValues]

@[simp]
theorem digitValues_zeros (count : Nat) :
    digitValues (List.replicate count '0') = List.replicate count 0 := by
  simp [digitValues]

theorem ofDigits_zeros_append (count : Nat) (values : List Nat) :
    ofDigits (List.replicate count 0 ++ values) = ofDigits values := by
  induction count with
  | zero => rfl
  | succ count inductionHypothesis => exact inductionHypothesis

theorem ofDigits_append_zeros (values : List Nat) (count : Nat) :
    ofDigits (values ++ List.replicate count 0) = ofDigits values * 10 ^ count := by
  induction count with
  | zero => simp
  | succ count inductionHypothesis =>
      have step : ofDigits (values ++ List.replicate count 0 ++ [0]) =
          10 * ofDigits (values ++ List.replicate count 0) := by
        simp [ofDigits, List.foldl_append]
      rw [List.replicate_succ', ← List.append_assoc, step, inductionHypothesis, Nat.pow_succ]
      ring

/-- Digits are those that are left without the zeros at their end, and these zeros. -/
theorem exists_zeros (digits : List Char) :
    ∃ count, digits =
      (digits.reverse.dropWhile (· == '0')).reverse ++ List.replicate count '0' := by
  have zeros : ∀ digit ∈ digits.reverse.takeWhile (· == '0'), digit = '0' := by
    intro digit among
    exact beq_iff_eq.mp (List.all_eq_true.mp List.all_takeWhile digit among)
  refine ⟨(digits.reverse.takeWhile (· == '0')).length, ?_⟩
  have split := List.takeWhile_append_dropWhile (p := (· == '0')) (l := digits.reverse)
  rw [List.eq_replicate_of_mem zeros] at split
  have back := congrArg List.reverse split
  rw [List.reverse_append, List.reverse_replicate, List.reverse_reverse] at back
  exact back.symm

/-! ### Scans -/

namespace Numeral

def isMark (character : Char) : Bool :=
  character == 'e' || character == 'E'

theorem scanExponent_of_stops {rest : List Char} (stops : Stops isMark rest) :
    scanExponent rest = (none, rest) := by
  cases rest with
  | nil => rfl
  | cons mark rest =>
      have other : (mark == 'e' || mark == 'E') = false := by simpa [isMark] using stops
      simp [scanExponent, other]

variable {digits whole fraction rest : List Char}

theorem digitValues_cons (nonempty : digits ≠ []) :
    ∃ value values, digitValues digits = value :: values :=
  List.exists_cons_of_ne_nil (by simpa [digitValues] using nonempty)

theorem scanExponent_append (negative : Bool) (nonempty : digits ≠ [])
    (all : ∀ digit ∈ digits, digit.isDigit = true) (stops : Stops Text.isDigit rest) :
    scanExponent ('e' :: (if negative then '-' else '+') :: (digits ++ rest)) =
      (some (negative, digitValues digits), rest) := by
  have scanned := scanDigits_append all stops
  obtain ⟨value, values, shape⟩ := digitValues_cons nonempty
  cases negative <;> simp [scanExponent, scanSign, scanned, shape]

theorem scan_point (nonempty : whole ≠ []) (allWhole : ∀ digit ∈ whole, digit.isDigit = true)
    (allFraction : ∀ digit ∈ fraction, digit.isDigit = true) (stops : Stops Text.isDigit rest) :
    scan (whole ++ '.' :: (fraction ++ rest)) =
      some (⟨digitValues whole, some (digitValues fraction), (scanExponent rest).1⟩,
        (scanExponent rest).2) := by
  have before := scanDigits_append allWhole
    (show Stops Text.isDigit ('.' :: (fraction ++ rest)) by simp; decide)
  have after := scanDigits_append allFraction stops
  obtain ⟨value, values, shape⟩ := digitValues_cons nonempty
  rw [shape] at before
  simp [scan, before, after, shape]

theorem scan_whole_exponent (nonempty : whole ≠ [])
    (all : ∀ digit ∈ whole, digit.isDigit = true) (rest : List Char) :
    scan (whole ++ 'e' :: rest) =
      some (⟨digitValues whole, none, (scanExponent ('e' :: rest)).1⟩,
        (scanExponent ('e' :: rest)).2) := by
  have before := scanDigits_append all (show Stops Text.isDigit ('e' :: rest) by simp; decide)
  obtain ⟨value, values, shape⟩ := digitValues_cons nonempty
  rw [shape] at before
  simp [scan, before, shape]

end Numeral

namespace Double

/-- Whether characters are a numeral that is scanned as a number, not as an integer, before
any others that are no part of a numeral. -/
def Writes (characters : List Char) (number : Double) : Prop :=
  ∀ rest, Stops Text.isDigit rest → Stops Numeral.isMark rest →
    ∃ numeral, Numeral.scan (characters ++ rest) = some (numeral, rest) ∧
      numeral.isInteger = false ∧ numeral.toDouble false = number

/-- The number of digits behind a point that stands before them at a given place. -/
def ofPoint (digits : List Char) (point : Int) : Double :=
  ofDecimal false (ofDigits (digitValues digits)) (point - digits.length)

variable {digits : List Char}

theorem writes_point {whole fraction : List Char} {number : Double} (nonempty : whole ≠ [])
    (allWhole : ∀ digit ∈ whole, digit.isDigit = true)
    (allFraction : ∀ digit ∈ fraction, digit.isDigit = true)
    (reads : ofDecimal false (ofDigits (digitValues whole ++ digitValues fraction))
      (-fraction.length) = number) : Writes (whole ++ '.' :: fraction) number := by
  intro rest stops unmarked
  have scanned := Numeral.scan_point nonempty allWhole allFraction stops
  rw [Numeral.scanExponent_of_stops unmarked] at scanned
  refine ⟨_, by simpa using scanned, rfl, ?_⟩
  simpa [Numeral.toDouble] using reads

theorem isDigit_of_mem_zeros {count : Nat} {digit : Char}
    (among : digit ∈ List.replicate count '0') : digit.isDigit = true := by
  rw [List.eq_of_mem_replicate among]
  decide

theorem isDigit_of_mem_zero : ∀ digit ∈ ['0'], digit.isDigit = true :=
  List.all_eq_true.mp rfl

theorem writes_positional (nonempty : digits ≠ [])
    (all : ∀ digit ∈ digits, digit.isDigit = true) (point : Int) :
    Writes (positional digits point) (ofPoint digits point) := by
  unfold positional ofPoint
  by_cases before : point ≤ 0
  · rw [if_pos before]
    have zero : digitValues ['0'] = List.replicate 1 0 := rfl
    apply writes_point (List.cons_ne_nil '0' []) isDigit_of_mem_zero
    · intro digit among
      rcases List.mem_append.mp among with front | later
      · exact isDigit_of_mem_zeros front
      · exact all digit later
    · rw [zero, digitValues_append, digitValues_zeros, ofDigits_zeros_append,
        ofDigits_zeros_append, List.length_append, List.length_replicate]
      congr 1
      omega
  · rw [if_neg before]
    dsimp only
    by_cases inside : point.toNat < digits.length
    · -- The point stands between two of the digits.
      have fraction : digits.drop point.toNat ≠ [] := by
        rw [ne_eq, List.drop_eq_nil_iff]
        omega
      have none : point.toNat - digits.length = 0 := by omega
      rw [none, List.replicate_zero, List.append_nil, if_neg (by simpa using fraction)]
      apply writes_point
      · rw [ne_eq, List.take_eq_nil_iff]
        rintro (zero | empty)
        · omega
        · exact nonempty empty
      · exact fun digit among => all digit (List.mem_of_mem_take among)
      · exact fun digit among => all digit (List.mem_of_mem_drop among)
      · rw [← digitValues_append, List.take_append_drop, List.length_drop]
        congr 1
        omega
    · -- Zeros fill the places up to the point, and one stands behind it.
      have whole := Nat.le_of_not_lt inside
      have zero : digitValues ['0'] = List.replicate 1 0 := rfl
      rw [List.take_of_length_le whole, List.drop_eq_nil_iff.mpr whole, List.isEmpty_nil,
        if_pos rfl]
      apply writes_point
      · exact List.append_ne_nil_of_left_ne_nil nonempty _
      · intro digit among
        rcases List.mem_append.mp among with front | later
        · exact all digit front
        · exact isDigit_of_mem_zeros later
      · exact isDigit_of_mem_zero
      · have place : (point - digits.length : Int) = (point.toNat - digits.length : Nat) := by
          omega
        rw [zero, digitValues_append, digitValues_zeros, List.append_assoc,
          List.replicate_append_replicate, ofDigits_append_zeros, place]
        have shifted := ofDecimal_mul_pow false (ofDigits (digitValues digits))
          (point.toNat - digits.length + 1) (point.toNat - digits.length : Nat)
        rw [← shifted]
        congr 1
        simp

theorem writes_scientific (nonempty : digits ≠ [])
    (all : ∀ digit ∈ digits, digit.isDigit = true) (exponent : Int) :
    Writes (scientific digits exponent) (ofPoint digits (exponent + 1)) := by
  intro rest stops unmarked
  have power : (Text.zeroPadded 2 exponent.natAbs).toList ≠ [] := by
    simp [toList_zeroPadded, Nat.toDigits_ne_nil]
  obtain ⟨tail, written⟩ : ∃ tail, (if exponent < 0 then '-' else '+') ::
      ((Text.zeroPadded 2 exponent.natAbs).toList ++ rest) = tail := ⟨_, rfl⟩
  have marked : Numeral.scanExponent ('e' :: tail) =
      (some (decide (exponent < 0),
        digitValues (Text.zeroPadded 2 exponent.natAbs).toList), rest) := by
    have scanned := Numeral.scanExponent_append (decide (exponent < 0)) power
      (fun digit among => isDigit_of_mem_zeroPadded among) stops
    rw [← written]
    simpa only [decide_eq_true_eq] using scanned
  have size : (if decide (exponent < 0) then -(exponent.natAbs : Int) else exponent.natAbs) =
      exponent := by
    by_cases below : exponent < 0
    · rw [decide_eq_true below, if_pos rfl]
      omega
    · rw [decide_eq_false below, if_neg Bool.false_ne_true]
      omega
  obtain ⟨first, later, rfl⟩ := List.exists_cons_of_ne_nil nonempty
  have single : ∀ digit ∈ [first], digit.isDigit = true := by
    intro digit among
    exact all digit (List.mem_cons.mpr (.inl (List.mem_singleton.mp among)))
  cases later with
  | nil =>
      have scanned := Numeral.scan_whole_exponent (List.cons_ne_nil first []) single tail
      rw [marked, ← written] at scanned
      refine ⟨_, by simpa [scientific] using scanned, rfl, ?_⟩
      simp only [Numeral.toDouble, ofDigits_zeroPadded, size, ofPoint]
      simp
  | cons second later =>
      have others : ∀ digit ∈ second :: later, digit.isDigit = true := by
        intro digit among
        exact all digit (List.mem_cons_of_mem first among)
      have noDigit : Stops Text.isDigit ('e' :: tail) := by
        rw [stops_cons]
        decide
      have scanned := Numeral.scan_point (List.cons_ne_nil first []) single others noDigit
      rw [marked, ← written] at scanned
      refine ⟨_, by simpa [scientific] using scanned, rfl, ?_⟩
      simp only [Numeral.toDouble, ofDigits_zeroPadded, size, ofPoint, Option.getD_some,
        ← digitValues_append, length_digitValues]
      congr 1
      simp

/-! ### The text of a number -/

/-- The text of a finite number without its sign. -/
def magnitudeText (code : Nat) : List Char :=
  if code == 0 then ['0', '.', '0']
  else
    let (digits, point) := shortestDigits code
    if -4 < point && point ≤ 16 then positional digits point
    else scientific digits (point - 1)

theorem toList_text (negative : Bool) (code : Fin codeLimit) :
    (finite negative code).text.toList =
      if negative then '-' :: magnitudeText code else magnitudeText code := by
  rw [text, String.toList_ofList, magnitudeText]

theorem isNegative_ofCode (negative : Bool) (code : Nat) :
    (ofCode negative code).isNegative = negative := by
  unfold ofCode
  split <;> rfl

theorem isNegative_ofDecimal (negative : Bool) (coefficient : Nat) (exponent : Int) :
    (ofDecimal negative coefficient exponent).isNegative = negative := by
  unfold ofDecimal
  dsimp only
  split
  · exact isNegative_ofCode negative 0
  · split
    · rfl
    · split <;> exact isNegative_ofCode negative _

/-- A decimal that is read back gives the positive number. -/
theorem ofDecimal_of_readsBack {code : Fin codeLimit} {coefficient : Nat} {exponent : Int}
    (back : readsBack code coefficient exponent = true) :
    ofDecimal false coefficient exponent = finite false code := by
  have sign := isNegative_ofDecimal false coefficient exponent
  unfold readsBack at back
  split at back
  · next negative found made =>
      rw [made] at sign ⊢
      obtain rfl : negative = false := sign
      rw [Fin.ext (beq_iff_eq.mp back)]
  · cases back

/-- The shortest digits of a positive number are digits, and behind their point they are
read as the number. -/
theorem shortestDigits_eq {code : Fin codeLimit} (positive : 0 < code.val) :
    ∃ digits point, shortestDigits code = (digits, point) ∧ digits ≠ [] ∧
      (∀ digit ∈ digits, digit.isDigit = true) ∧ ofPoint digits point = finite false code := by
  obtain ⟨coefficient, exponent, back, shape⟩ := exists_shortest positive code.isLt
  obtain ⟨count, split⟩ := exists_zeros (Nat.toDigits 10 coefficient)
  have reads := ofDecimal_of_readsBack back
  generalize ((Nat.toDigits 10 coefficient).reverse.dropWhile (· == '0')).reverse = digits
    at shape split
  have number : coefficient = ofDigits (digitValues digits) * 10 ^ count := by
    rw [← ofDigits_append_zeros, ← digitValues_zeros, ← digitValues_append, ← split,
      ofDigits_toDigits]
  have length : digitCount coefficient = digits.length + count := by
    rw [digitCount, split, List.length_append, List.length_replicate]
  refine ⟨digits, _, shape, ?_, ?_, ?_⟩
  · rintro rfl
    have none : coefficient = 0 := by
      rw [number]
      exact Nat.zero_mul _
    rw [none] at reads
    have zero : ofDecimal false 0 exponent = ofCode false 0 := by simp [ofDecimal, Double.zero]
    rw [zero, ofCode, dif_pos (by decide)] at reads
    cases reads
    exact Nat.lt_irrefl 0 positive
  · intro digit among
    have inWhole : digit ∈ Nat.toDigits 10 coefficient := by
      rw [split]
      exact List.mem_append_left _ among
    exact isDigit_of_mem_toDigits inWhole
  · have shifted := ofDecimal_mul_pow false (ofDigits (digitValues digits)) count
      (exponent + count)
    rw [← number, Int.add_sub_cancel, reads] at shifted
    have place : ((digits.length + count : Nat) + exponent - digits.length : Int) =
        exponent + count := by omega
    rw [ofPoint, length, place, shifted]

theorem writes_magnitudeText (code : Fin codeLimit) :
    Writes (magnitudeText code) (finite false code) := by
  unfold magnitudeText
  by_cases zero : code.val = 0
  · rw [if_pos (by simpa using zero)]
    apply writes_point (List.cons_ne_nil '0' []) isDigit_of_mem_zero isDigit_of_mem_zero
    have none : ofDigits (digitValues ['0'] ++ digitValues ['0']) = 0 := rfl
    have same : code = ⟨0, by decide⟩ := Fin.ext zero
    rw [none, same]
    simp [ofDecimal, Double.zero, ofCode]
  · obtain ⟨digits, point, shape, nonempty, all, reads⟩ :=
      shortestDigits_eq (Nat.pos_of_ne_zero zero)
    rw [shape, if_neg (by simpa using zero)]
    dsimp only
    rw [← reads]
    split
    · exact writes_positional nonempty all point
    · have written := writes_scientific nonempty all (point - 1)
      rwa [Int.sub_add_cancel] at written

/-! The characters of the text. -/

/-- What a numeral consists of besides its digits. -/
def marks : List Char := ['.', 'e', '+', '-']

theorem mem_positional (all : ∀ digit ∈ digits, digit.isDigit = true) (point : Int)
    {character : Char} (among : character ∈ positional digits point) :
    character.isDigit = true ∨ character ∈ marks := by
  unfold positional at among
  split at among
  · simp only [List.mem_cons, List.mem_append] at among
    rcases among with rfl | rfl | zero | digit
    · exact .inl rfl
    · exact .inr (by decide)
    · exact .inl (isDigit_of_mem_zeros zero)
    · exact .inl (all character digit)
  · simp only [List.mem_cons, List.mem_append] at among
    rcases among with (digit | zero) | rfl | fraction
    · exact .inl (all character (List.mem_of_mem_take digit))
    · exact .inl (isDigit_of_mem_zeros zero)
    · exact .inr (by decide)
    · split at fraction
      · exact .inl (isDigit_of_mem_zero character fraction)
      · exact .inl (all character (List.mem_of_mem_drop fraction))

theorem mem_scientific (all : ∀ digit ∈ digits, digit.isDigit = true) (exponent : Int)
    {character : Char} (among : character ∈ scientific digits exponent) :
    character.isDigit = true ∨ character ∈ marks := by
  simp only [scientific, List.mem_append, List.mem_cons] at among
  rcases among with coefficient | rfl | rfl | power
  · split at coefficient
    · cases coefficient
    · exact .inl (all character coefficient)
    · simp only [List.mem_cons] at coefficient
      rcases coefficient with rfl | rfl | later
      · exact .inl (all character List.mem_cons_self)
      · exact .inr (by decide)
      · exact .inl (all character (List.mem_cons_of_mem _ later))
  · exact .inr (by decide)
  · refine .inr ?_
    split <;> decide
  · exact .inl (isDigit_of_mem_zeroPadded power)

theorem mem_magnitudeText {code : Fin codeLimit} {character : Char}
    (among : character ∈ magnitudeText code) : character.isDigit = true ∨ character ∈ marks := by
  unfold magnitudeText at among
  by_cases zero : code.val = 0
  · rw [if_pos (by simpa using zero)] at among
    simp only [List.mem_cons, List.not_mem_nil, or_false] at among
    rcases among with rfl | rfl | rfl
    · exact .inl rfl
    · exact .inr (by decide)
    · exact .inl rfl
  · obtain ⟨digits, point, shape, -, all, -⟩ := shortestDigits_eq (Nat.pos_of_ne_zero zero)
    rw [shape, if_neg (by simpa using zero)] at among
    dsimp only at among
    split at among
    · exact mem_positional all point among
    · exact mem_scientific all (point - 1) among

theorem magnitudeText_shape (code : Fin codeLimit) :
    ∃ first later, magnitudeText code = first :: later ∧ first.isDigit = true := by
  unfold magnitudeText
  by_cases zero : code.val = 0
  · rw [if_pos (by simpa using zero)]
    exact ⟨'0', ['.', '0'], rfl, rfl⟩
  · obtain ⟨digits, point, shape, nonempty, all, -⟩ :=
      shortestDigits_eq (Nat.pos_of_ne_zero zero)
    obtain ⟨first, later, rfl⟩ := List.exists_cons_of_ne_nil nonempty
    have digit := all first List.mem_cons_self
    rw [shape, if_neg (by simpa using zero)]
    dsimp only
    split
    · unfold positional
      by_cases before : point ≤ 0
      · rw [if_pos before]
        exact ⟨'0', _, rfl, rfl⟩
      · obtain ⟨width, size⟩ := Nat.exists_eq_add_of_le' (show 1 ≤ point.toNat by omega)
        rw [if_neg before]
        dsimp only
        rw [size]
        exact ⟨first, _, rfl, digit⟩
    · cases later with
      | nil => exact ⟨first, _, rfl, digit⟩
      | cons second later => exact ⟨first, _, rfl, digit⟩

end Double

end GridQuery

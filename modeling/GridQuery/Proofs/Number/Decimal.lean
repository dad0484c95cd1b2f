import GridQuery.Proofs.Number.Double
import GridQuery.Proofs.Numeral
import Mathlib.Algebra.Order.Field.Power
import Mathlib.Data.Nat.Cast.Order.Field
import Mathlib.Data.Rat.Cast.Order
import Mathlib.Tactic.FieldSimp

/-!
# Seventeen digits suffice

Of two decimals that are read as a positive number, those with enough digits are as close to
it as to no other: seventeen digits leave less than one part in `2 ^ 54` open. So a number
has a shortest decimal, and its digits are those of a numeral that is read as the number.
-/

namespace GridQuery

theorem pow_digitCount_le {value : Nat} (positive : 0 < value) :
    10 ^ (digitCount value - 1) ≤ value := by
  by_contra less
  by_cases single : digitCount value - 1 = 0
  · rw [single, Nat.pow_zero] at less
    omega
  · have fewer := (Nat.length_toDigits_le_iff (by decide : 1 < 10)
      (Nat.pos_of_ne_zero single)).mpr (Nat.lt_of_not_le less)
    rw [digitCount] at fewer single
    omega

theorem digitCount_pos (value : Nat) : 0 < digitCount value :=
  List.length_pos_iff.mpr Nat.toDigits_ne_nil

theorem lt_pow_digitCount (value : Nat) : value < 10 ^ digitCount value :=
  (Nat.length_toDigits_le_iff (by decide) (digitCount_pos value)).mp (Nat.le_refl _)

namespace Double

/-- The magnitude with a given code, in ones. -/
def value (code : Nat) : ℚ := magnitude code / unitsPerOne

variable {code : Nat}

theorem magnitude_pos (positive : 0 < code) : 0 < magnitude code := by
  rcases magnitude_cases code with ⟨-, units⟩ | ⟨shift, steps, least, -, units, -⟩
  · rw [units]
    exact positive
  · rw [units]
    exact Nat.mul_pos (Nat.lt_of_lt_of_le (by decide) least) (Nat.two_pow_pos shift)

/-- All magnitudes of the rows up to one are below the end of its row. -/
theorem magnitude_lt_of_row {top : Nat} (bounded : code < (top + 2) * rowLength) :
    magnitude code < 2 ^ 53 * 2 ^ top := by
  have some := Nat.two_pow_pos top
  rcases magnitude_cases code with ⟨small, units⟩ | ⟨shift, steps, least, most, units, shape⟩
  · rw [units]
    exact Nat.lt_of_lt_of_le (Nat.lt_trans small (by decide)) (Nat.le_mul_of_pos_right _ some)
  · rw [units]
    have within : shift ≤ top := by
      rw [rowLength_eq] at bounded shape
      omega
    exact Nat.mul_lt_mul_of_lt_of_le most (Nat.pow_le_pow_right (by decide) within) some

theorem magnitude_lt (bounded : code < codeLimit) : magnitude code < 2 ^ 1024 * unitsPerOne := by
  have whole : 2 ^ 1024 * unitsPerOne = 2 ^ 53 * 2 ^ 2045 := by decide +kernel
  rw [whole]
  exact magnitude_lt_of_row bounded

theorem inv_unitsPerOne_le_value (positive : 0 < code) : (unitsPerOne : ℚ)⁻¹ ≤ value code := by
  have units : (0 : ℚ) < unitsPerOne := by exact_mod_cast unitsPerOne_pos
  have one : (1 : ℚ) ≤ magnitude code := by exact_mod_cast magnitude_pos positive
  rw [value, inv_eq_one_div]
  exact div_le_div_of_nonneg_right one units.le

theorem value_lt (bounded : code < codeLimit) : value code < 2 ^ 1024 := by
  have units : (0 : ℚ) < unitsPerOne := by exact_mod_cast unitsPerOne_pos
  rw [value, div_lt_iff₀ units]
  exact_mod_cast magnitude_lt bounded

/-! ### Decimals close to a number -/

/-- Whether a rational number differs from a magnitude by less than one part in `2 ^ 54`. -/
def IsClose (number : ℚ) (code : Nat) : Prop :=
  2 ^ 54 * |number - value code| < value code

theorem IsClose.bounds {number : ℚ} (close : IsClose number code) :
    2 ^ 54 * (value code - number) < value code ∧
      2 ^ 54 * (number - value code) < value code := by
  have lower := neg_abs_le (number - value code)
  have upper := le_abs_self (number - value code)
  unfold IsClose at close
  constructor <;> linarith

theorem ofRatio_of_close (negative : Bool) {numerator denominator : Nat}
    (positive : 0 < denominator) (close : IsClose (numerator / denominator) code) :
    ofRatio negative numerator denominator = ofCode negative code := by
  have units : (0 : ℚ) < unitsPerOne := by exact_mod_cast unitsPerOne_pos
  have parts : (0 : ℚ) < denominator := by exact_mod_cast positive
  have scale : (0 : ℚ) < denominator * unitsPerOne := mul_pos parts units
  have quotient : (numerator / denominator : ℚ) * (denominator * unitsPerOne) =
      numerator * unitsPerOne := by
    field_simp
  have size : value code * (denominator * unitsPerOne) = magnitude code * denominator := by
    rw [value]
    field_simp
  have above := mul_lt_mul_of_pos_right close.bounds.1 scale
  have below := mul_lt_mul_of_pos_right close.bounds.2 scale
  rw [mul_assoc, sub_mul, quotient, size] at above below
  have found : nearestCode (numerator * unitsPerOne) denominator = code := by
    apply nearestCode_of_close
    · have whole : (2 ^ 54 * (magnitude code * denominator) : ℚ) <
          2 ^ 54 * (numerator * unitsPerOne) + magnitude code * denominator := by
        linarith
      exact_mod_cast whole
    · have whole : (2 ^ 54 * (numerator * unitsPerOne) : ℚ) <
          2 ^ 54 * (magnitude code * denominator) + magnitude code * denominator := by
        linarith
      exact_mod_cast whole
  rw [ofRatio, found]

theorem pow_digitCount_le_zpow {coefficient : Nat} (positive : 0 < coefficient) (exponent : Int) :
    (10 : ℚ) ^ (digitCount coefficient + exponent - 1) ≤ coefficient * 10 ^ exponent ∧
      coefficient * 10 ^ exponent < (10 : ℚ) ^ (digitCount coefficient + exponent) := by
  have scale : (0 : ℚ) < 10 ^ exponent := zpow_pos (by norm_num) exponent
  have least : (10 : ℚ) ^ (digitCount coefficient - 1) ≤ coefficient := by
    exact_mod_cast pow_digitCount_le positive
  have most : (coefficient : ℚ) < 10 ^ digitCount coefficient := by
    exact_mod_cast lt_pow_digitCount coefficient
  have some := digitCount_pos coefficient
  constructor
  · have split : (digitCount coefficient + exponent - 1 : Int) =
        (digitCount coefficient - 1 : Nat) + exponent := by omega
    rw [split, zpow_add₀ (by norm_num), zpow_natCast]
    exact mul_le_mul_of_nonneg_right least scale.le
  · rw [zpow_add₀ (by norm_num), zpow_natCast]
    exact mul_lt_mul_of_pos_right most scale

theorem two_mul_inv_lt_inv {small large : ℚ} (positive : 0 < small) (less : 2 * small < large) :
    2 * large⁻¹ < small⁻¹ := by
  rw [← div_eq_mul_inv, ← one_div, div_lt_div_iff₀ (by linarith) positive]
  linarith

/-- A decimal close to a positive number is neither too small nor too large to be read. -/
theorem IsClose.size_bounds {coefficient : Nat} {exponent : Int} (positive : 0 < code)
    (bounded : code < codeLimit) (close : IsClose (coefficient * 10 ^ exponent) code) :
    0 < coefficient ∧ -400 ≤ (digitCount coefficient + exponent : Int) ∧
      (digitCount coefficient + exponent : Int) ≤ 400 := by
  have units : (0 : ℚ) < unitsPerOne := by exact_mod_cast unitsPerOne_pos
  have least := inv_unitsPerOne_le_value positive
  have tenfold := inv_pos.mpr units
  obtain ⟨above, below⟩ := close.bounds
  have half : value code < 2 * (coefficient * 10 ^ exponent) := by linarith
  have twice : coefficient * 10 ^ exponent < 2 * value code := by linarith
  have nonzero : 0 < coefficient := by
    by_contra zero
    rw [Nat.eq_zero_of_not_pos zero, Nat.cast_zero, zero_mul, mul_zero] at half
    linarith
  obtain ⟨first, last⟩ := pow_digitCount_le_zpow nonzero exponent
  refine ⟨nonzero, ?_, ?_⟩
  · by_contra small
    have step : (10 : ℚ) ^ (digitCount coefficient + exponent : Int) ≤
        10 ^ (-(401 : Nat) : Int) :=
      zpow_le_zpow_right₀ (by norm_num) (by omega)
    have whole : 2 * unitsPerOne < 10 ^ 401 := by decide +kernel
    have tiny : 2 * ((10 : ℚ) ^ 401)⁻¹ < (unitsPerOne : ℚ)⁻¹ :=
      two_mul_inv_lt_inv units (by exact_mod_cast whole)
    rw [zpow_neg, zpow_natCast] at step
    generalize ((10 : ℚ) ^ 401)⁻¹ = bound at step tiny
    linarith
  · by_contra large
    have step : (10 : ℚ) ^ ((400 : Nat) : Int) ≤
        10 ^ (digitCount coefficient + exponent - 1 : Int) :=
      zpow_le_zpow_right₀ (by norm_num) (by omega)
    have whole : 2 * 2 ^ 1024 < 10 ^ 400 := by decide +kernel
    have huge : 2 * (2 : ℚ) ^ 1024 < 10 ^ 400 := by exact_mod_cast whole
    have most := value_lt bounded
    rw [zpow_natCast] at step
    generalize (2 : ℚ) ^ 1024 = bound at most huge
    generalize (10 : ℚ) ^ 400 = limit at step huge
    linarith

/-- A decimal close to a positive number is read as it. -/
theorem ofDecimal_of_close (negative : Bool) {coefficient : Nat} {exponent : Int}
    (positive : 0 < code) (bounded : code < codeLimit)
    (close : IsClose (coefficient * 10 ^ exponent) code) :
    ofDecimal negative coefficient exponent = ofCode negative code := by
  obtain ⟨nonzero, least, most⟩ := close.size_bounds positive bounded
  unfold ofDecimal
  dsimp only
  rw [if_neg (by simp [Nat.ne_of_gt nonzero, Int.not_lt.mpr least]), if_neg (Int.not_lt.mpr most)]
  by_cases whole : 0 ≤ exponent
  · rw [if_pos whole]
    obtain ⟨power, rfl⟩ := Int.eq_ofNat_of_zero_le whole
    apply ofRatio_of_close negative Nat.one_pos
    simpa using close
  · rw [if_neg whole]
    obtain ⟨power, rfl⟩ := Int.eq_negSucc_of_lt_zero (Int.not_le.mp whole)
    apply ofRatio_of_close negative (Nat.pow_pos (by decide))
    simpa [div_eq_mul_inv] using close

/-! ### The shortest decimal -/

/-- The power of ten of a quotient is not above it. -/
theorem zpow_decimalExponent_le {numerator denominator : Nat} (positive : 0 < numerator)
    (parts : 0 < denominator) :
    (10 : ℚ) ^ decimalExponent numerator denominator ≤ numerator / denominator := by
  have whole : (0 : ℚ) < denominator := by exact_mod_cast parts
  unfold decimalExponent
  by_cases one : denominator ≤ numerator
  · rw [if_pos one]
    have least := pow_digitCount_le (Nat.div_pos one parts)
    have count := digitCount_pos (numerator / denominator)
    have split : (digitCount (numerator / denominator) - 1 : Int) =
        (digitCount (numerator / denominator) - 1 : Nat) := by omega
    rw [split, zpow_natCast]
    calc (10 : ℚ) ^ (digitCount (numerator / denominator) - 1)
        ≤ (numerator / denominator : Nat) := by exact_mod_cast least
      _ ≤ numerator / denominator := Nat.cast_div_le
  · rw [if_neg one, zpow_neg, zpow_natCast, inv_eq_one_div,
      div_le_div_iff₀ (pow_pos (by norm_num) _) whole, one_mul, mul_comm]
    have most := lt_pow_digitCount ((denominator - 1) / numerator)
    rw [Nat.div_lt_iff_lt_mul positive] at most
    have reached : denominator ≤ 10 ^ digitCount ((denominator - 1) / numerator) * numerator := by
      omega
    exact_mod_cast reached

/-- A quotient of a number and a power of ten, rounded to seventeen digits, is close. -/
theorem isClose_roundDiv {numerator denominator : Nat} {exponent : Int}
    (parts : 0 < denominator)
    (ratio : (numerator / denominator : ℚ) * 10 ^ exponent = value code)
    (digits : (10 : ℚ) ^ 16 * 10 ^ exponent ≤ value code) :
    IsClose (roundDiv numerator denominator * 10 ^ exponent) code := by
  have whole : (0 : ℚ) < denominator := by exact_mod_cast parts
  have scale : (0 : ℚ) < 10 ^ exponent := zpow_pos (by norm_num) exponent
  obtain ⟨most, least⟩ := roundDiv_bounds numerator parts
  have most : (2 * (roundDiv numerator denominator * denominator) : ℚ) ≤
      2 * numerator + denominator := by exact_mod_cast most
  have least : (2 * numerator : ℚ) ≤
      2 * (roundDiv numerator denominator * denominator) + denominator := by exact_mod_cast least
  have half : |(roundDiv numerator denominator - numerator / denominator : ℚ)| ≤ 1 / 2 := by
    rw [abs_le]
    constructor
    · rw [neg_le_sub_iff_le_add, div_le_iff₀ whole]
      linarith
    · rw [sub_le_iff_le_add, ← mul_le_mul_iff_left₀ whole, add_mul,
        div_mul_cancel₀ _ whole.ne']
      linarith
  rw [IsClose, ← ratio, ← sub_mul, abs_mul, abs_of_pos scale, ratio]
  have near := mul_le_mul_of_nonneg_right half scale.le
  linarith

theorem readsBack_of_close {coefficient : Nat} {exponent : Int} (positive : 0 < code)
    (bounded : code < codeLimit) (close : IsClose (coefficient * 10 ^ exponent) code) :
    readsBack code coefficient exponent = true := by
  rw [readsBack, ofDecimal_of_close false positive bounded close, ofCode, dif_pos bounded]
  exact beq_self_eq_true code

/-- The quotient of whole numbers that a decimal of given exponent is rounded from. -/
theorem ratio_mul_zpow (units scale : Nat) (positive : 0 < scale) (exponent : Int) :
    ((if exponent < 0 then units * Nat.pow 10 (-exponent).toNat else units : Nat) /
        (if exponent < 0 then scale else scale * Nat.pow 10 exponent.toNat : Nat) : ℚ) *
      10 ^ exponent = units / scale := by
  have whole : (scale : ℚ) ≠ 0 := by exact_mod_cast Nat.ne_of_gt positive
  by_cases below : exponent < 0
  · obtain ⟨power, rfl⟩ := Int.eq_negSucc_of_lt_zero below
    have size : (-Int.negSucc power).toNat = power + 1 := rfl
    rw [if_pos below, if_pos below, size, zpow_negSucc, Nat.pow_eq]
    push_cast
    field_simp
  · obtain ⟨power, rfl⟩ := Int.eq_ofNat_of_zero_le (Int.not_lt.mp below)
    rw [if_neg below, if_neg below, Int.toNat_natCast, zpow_natCast, Nat.pow_eq]
    push_cast
    field_simp

/-- Seventeen digits suffice for any positive number. -/
theorem isSome_decimalOfDigits? (positive : 0 < code) (bounded : code < codeLimit) :
    (decimalOfDigits? code 17).isSome = true := by
  have first := zpow_decimalExponent_le (magnitude_pos positive) unitsPerOne_pos
  simp only [decimalOfDigits?]
  generalize shape : decimalExponent (magnitude code) unitsPerOne - (17 : Nat) + 1 = exponent
  have digits : (10 : ℚ) ^ 16 * 10 ^ exponent ≤ value code := by
    have split : decimalExponent (magnitude code) unitsPerOne = (16 : Nat) + exponent := by omega
    rw [split, zpow_add₀ (by norm_num), zpow_natCast] at first
    exact first
  have parts :
      0 < if exponent < 0 then unitsPerOne else unitsPerOne * Nat.pow 10 exponent.toNat := by
    split
    · exact unitsPerOne_pos
    · exact Nat.mul_pos unitsPerOne_pos (Nat.pow_pos (by decide))
  have ratio := ratio_mul_zpow (magnitude code) unitsPerOne unitsPerOne_pos exponent
  rw [← value] at ratio
  have close := isClose_roundDiv parts ratio digits
  rw [if_pos (readsBack_of_close positive bounded close)]
  exact Option.isSome_some

/-- Of two decimals to choose from, the one that is chosen is read as the number. -/
theorem readsBack_of_choice {nearest other coefficient : Nat} {exponent power : Int}
    (chosen : (if readsBack code nearest exponent then some (nearest, exponent)
      else if readsBack code other exponent then some (other, exponent)
      else none) = some (coefficient, power)) : readsBack code coefficient power = true := by
  split at chosen
  · next back =>
      cases chosen
      exact back
  · split at chosen
    · next back =>
        cases chosen
        exact back
    · cases chosen

theorem readsBack_of_decimalOfDigits? {count coefficient : Nat} {exponent : Int}
    (found : decimalOfDigits? code count = some (coefficient, exponent)) :
    readsBack code coefficient exponent = true := by
  unfold decimalOfDigits? at found
  exact readsBack_of_choice found

/-- A positive number has a shortest decimal, which is read as it. -/
theorem exists_shortest (positive : 0 < code) (bounded : code < codeLimit) :
    ∃ coefficient exponent, readsBack code coefficient exponent = true ∧
      shortestDigits code =
        (((Nat.toDigits 10 coefficient).reverse.dropWhile (· == '0')).reverse,
          digitCount coefficient + exponent) := by
  unfold shortestDigits
  dsimp only
  cases found : ((List.range 17).map (· + 1)).findSome? (decimalOfDigits? code) with
  | none =>
      have refused := List.findSome?_eq_none_iff.mp found 17 (by decide)
      have accepted := isSome_decimalOfDigits? positive bounded
      rw [refused] at accepted
      cases accepted
  | some decimal =>
      obtain ⟨count, -, made⟩ := List.exists_of_findSome?_eq_some found
      exact ⟨decimal.1, decimal.2, readsBack_of_decimalOfDigits? made, rfl⟩

/-! ### Zeros at the end -/

theorem digitCount_mul_ten {value : Nat} (positive : 0 < value) :
    digitCount (value * 10) = digitCount value + 1 := by
  have longer := Nat.toDigits_append_toDigits (by decide : 1 < 10) positive (by decide : 0 < 10)
  rw [digitCount, Nat.mul_comm, ← Nat.add_zero (10 * value), ← longer, List.length_append,
    digitCount]
  rfl

theorem ofRatio_mul_right (negative : Bool) (numerator denominator : Nat) {factor : Nat}
    (positive : 0 < factor) :
    ofRatio negative (numerator * factor) (denominator * factor) =
      ofRatio negative numerator denominator := by
  rw [ofRatio, ofRatio, Nat.mul_right_comm, nearestCode_mul_right _ _ positive]

theorem ofDecimal_mul_ten (negative : Bool) (coefficient : Nat) (exponent : Int) :
    ofDecimal negative (coefficient * 10) (exponent - 1) =
      ofDecimal negative coefficient exponent := by
  rcases Nat.eq_zero_or_pos coefficient with rfl | positive
  · simp [ofDecimal]
  have size : (digitCount (coefficient * 10) + (exponent - 1) : Int) =
      digitCount coefficient + exponent := by
    rw [digitCount_mul_ten positive]
    omega
  have nonzero : (coefficient * 10 == 0) = (coefficient == 0) := by
    simp [Nat.ne_of_gt positive]
  have ratio :
      (if 0 ≤ exponent - 1 then
          ofRatio negative (coefficient * 10 * Nat.pow 10 (exponent - 1).toNat) 1
        else ofRatio negative (coefficient * 10) (Nat.pow 10 (-(exponent - 1)).toNat)) =
        if 0 ≤ exponent then ofRatio negative (coefficient * Nat.pow 10 exponent.toNat) 1
        else ofRatio negative coefficient (Nat.pow 10 (-exponent).toNat) := by
    simp only [Nat.pow_eq]
    by_cases later : 0 ≤ exponent - 1
    · have more : exponent.toNat = (exponent - 1).toNat + 1 := by omega
      rw [if_pos later, if_pos (by omega), more, Nat.pow_succ', Nat.mul_assoc]
    · have more : (-(exponent - 1)).toNat = (-exponent).toNat + 1 := by omega
      rw [if_neg later, more, Nat.pow_succ, ofRatio_mul_right _ _ _ (by decide)]
      split
      · have zero : exponent = 0 := by omega
        rw [zero]
        simp
      · rfl
  simp only [ofDecimal, size, nonzero, ratio]

theorem ofDecimal_mul_pow (negative : Bool) (coefficient count : Nat) (exponent : Int) :
    ofDecimal negative (coefficient * 10 ^ count) (exponent - count) =
      ofDecimal negative coefficient exponent := by
  induction count with
  | zero => simp
  | succ count inductionHypothesis =>
      have step := ofDecimal_mul_ten negative (coefficient * 10 ^ count) (exponent - count)
      rw [Nat.pow_succ, ← Nat.mul_assoc, ← inductionHypothesis, ← step]
      congr 1
      omega

end Double

end GridQuery

import GridQuery.Number.Double
import Mathlib.Tactic.Linarith
import Mathlib.Tactic.Ring

/-!
# The line of floating-point numbers

The finite magnitudes stand in rows, and a quotient of units that differs from a magnitude
by less than one part in `2 ^ 54` of it is rounded to its code: half a step of the row is no
less than that, also below the first magnitude of a row, where the steps are half as long.
-/

namespace GridQuery.Double

theorem unitsPerOne_pos : 0 < unitsPerOne := by decide +kernel

theorem rowLength_eq : rowLength = 2 ^ 52 := rfl

/-! ### Rounding a quotient -/

/-- A quotient is rounded to the whole number that is less than one half away from it. -/
theorem roundDiv_eq {numerator denominator nearest : Nat}
    (above : 2 * (nearest * denominator) < 2 * numerator + denominator)
    (below : 2 * numerator < 2 * (nearest * denominator) + denominator) :
    roundDiv numerator denominator = nearest := by
  have positive : 0 < denominator := by omega
  have split := Nat.div_add_mod' numerator denominator
  have inside := Nat.mod_lt numerator positive
  have least : numerator / denominator ≤ nearest := by
    by_contra less
    have further := Nat.mul_le_mul_right denominator (Nat.lt_of_not_le less)
    rw [Nat.succ_mul] at further
    omega
  have most : nearest ≤ numerator / denominator + 1 := by
    by_contra more
    have further := Nat.mul_le_mul_right denominator (Nat.lt_of_not_le more)
    rw [Nat.succ_mul, Nat.add_one_mul (numerator / denominator)] at further
    omega
  unfold roundDiv
  dsimp only
  obtain same | next : nearest = numerator / denominator ∨
      nearest = numerator / denominator + 1 := by omega
  · rw [same] at below
    have fraction : 2 * (numerator % denominator) < denominator := by omega
    rw [if_pos fraction, same]
  · rw [next, Nat.add_one_mul (numerator / denominator)] at above
    have fraction : denominator < 2 * (numerator % denominator) := by omega
    rw [if_neg (Nat.lt_asymm fraction), if_pos fraction, next]

/-- A quotient and the whole number that it is rounded to are at most one half apart. -/
theorem roundDiv_bounds (numerator : Nat) {denominator : Nat} (positive : 0 < denominator) :
    2 * (roundDiv numerator denominator * denominator) ≤ 2 * numerator + denominator ∧
      2 * numerator ≤ 2 * (roundDiv numerator denominator * denominator) + denominator := by
  have split := Nat.div_add_mod' numerator denominator
  have inside := Nat.mod_lt numerator positive
  unfold roundDiv
  dsimp only
  by_cases less : 2 * (numerator % denominator) < denominator
  · rw [if_pos less]
    omega
  · rw [if_neg less]
    by_cases more : denominator < 2 * (numerator % denominator)
    · rw [if_pos more, Nat.add_one_mul (numerator / denominator)]
      omega
    · rw [if_neg more]
      -- On a tie the even neighbour is one half away, whichever it is.
      rcases Nat.mod_two_eq_zero_or_one (numerator / denominator) with even | odd
      · rw [even, Nat.add_zero]
        omega
      · rw [odd, Nat.add_one_mul (numerator / denominator)]
        omega

theorem roundDiv_mul_right (numerator denominator : Nat) {factor : Nat} (positive : 0 < factor) :
    roundDiv (numerator * factor) (denominator * factor) = roundDiv numerator denominator := by
  have scaled (value : Nat) :
      2 * (value * factor) < denominator * factor ↔ 2 * value < denominator := by
    rw [← Nat.mul_assoc, Nat.mul_lt_mul_right positive]
  have scaled' (value : Nat) :
      denominator * factor < 2 * (value * factor) ↔ denominator < 2 * value := by
    rw [← Nat.mul_assoc, Nat.mul_lt_mul_right positive]
  simp only [roundDiv, Nat.mul_div_mul_right _ _ positive, Nat.mul_mod_mul_right, scaled, scaled']

/-- Only the quotient counts, not the numbers that it is given by. -/
theorem nearestCode_mul_right (numerator denominator : Nat) {factor : Nat}
    (positive : 0 < factor) :
    nearestCode (numerator * factor) (denominator * factor) =
      nearestCode numerator denominator := by
  simp only [nearestCode, Nat.mul_div_mul_right _ _ positive, Nat.mul_right_comm denominator factor,
    roundDiv_mul_right _ _ positive]

/-! ### Rows -/

/-- In the row with the given shift, steps are `2 ^ shift` units long. -/
theorem nearestCode_of_row {numerator denominator shift : Nat}
    (first : shift = 0 ∨ 2 ^ 52 * (denominator * 2 ^ shift) ≤ numerator)
    (last : numerator < 2 ^ 53 * (denominator * 2 ^ shift)) :
    nearestCode numerator denominator =
      shift * rowLength + roundDiv numerator (denominator * 2 ^ shift) := by
  have positive : 0 < denominator := by
    rcases Nat.eq_zero_or_pos denominator with rfl | positive
    · simp at last
    · exact positive
  have upper : numerator / denominator < 2 ^ (53 + shift) := by
    rw [Nat.div_lt_iff_lt_mul positive, Nat.pow_add]
    linarith
  have size : (numerator / denominator).log2 - 52 = shift := by
    have most : (numerator / denominator).log2 ≤ 52 + shift := by
      by_cases zero : numerator / denominator = 0
      · rw [zero]
        exact Nat.zero_le _
      · have within := (Nat.log2_lt zero).mpr upper
        omega
    rcases first with none | first
    · omega
    · have lower : 2 ^ (52 + shift) ≤ numerator / denominator := by
        rw [Nat.le_div_iff_mul_le positive, Nat.pow_add]
        linarith
      have nonzero : numerator / denominator ≠ 0 := by
        have some := Nat.two_pow_pos (52 + shift)
        omega
      have least := (Nat.le_log2 nonzero).mpr lower
      omega
  simp only [nearestCode, size, Nat.pow_eq]

/-- A code of the first row is its magnitude; in any other row a magnitude is a number of
steps, between one row length and two. -/
theorem magnitude_cases (code : Nat) :
    code < 2 ^ 52 ∧ magnitude code = code ∨
      ∃ shift steps, 2 ^ 52 ≤ steps ∧ steps < 2 ^ 53 ∧ magnitude code = steps * 2 ^ shift ∧
        code = shift * rowLength + steps := by
  by_cases small : code < rowLength
  · left
    exact ⟨small, by rw [magnitude, if_pos small]⟩
  · right
    have split := Nat.div_add_mod' code rowLength
    have inside := Nat.mod_lt code (show 0 < rowLength by decide)
    have later : 1 ≤ code / rowLength := by
      rw [Nat.le_div_iff_mul_le (by decide)]
      omega
    refine ⟨code / rowLength - 1, rowLength + code % rowLength, ?_, ?_, ?_, ?_⟩
    · exact Nat.le_add_right _ _
    · rw [rowLength_eq] at inside ⊢
      omega
    · rw [magnitude, if_neg small, Nat.pow_eq]
    · obtain ⟨row, shape⟩ := Nat.exists_eq_add_of_le' later
      rw [shape, Nat.succ_mul] at split
      rw [shape, Nat.add_sub_cancel]
      omega

/-- A quotient that differs from a magnitude by less than one part in `2 ^ 54` of it is
rounded to its code. -/
theorem nearestCode_of_close {numerator denominator code : Nat}
    (above : 2 ^ 54 * (magnitude code * denominator) <
      2 ^ 54 * numerator + magnitude code * denominator)
    (below : 2 ^ 54 * numerator <
      2 ^ 54 * (magnitude code * denominator) + magnitude code * denominator) :
    nearestCode numerator denominator = code := by
  rcases magnitude_cases code with ⟨small, units⟩ | ⟨shift, steps, least, most, units, shape⟩
  · rw [units] at above below
    have room := Nat.mul_le_mul_right denominator (Nat.le_of_lt small)
    rw [nearestCode_of_row (.inl rfl) (by rw [Nat.pow_zero]; omega), Nat.pow_zero, Nat.mul_one,
      Nat.zero_mul, Nat.zero_add]
    exact roundDiv_eq (by omega) (by omega)
  · have regroup : magnitude code * denominator = steps * (denominator * 2 ^ shift) := by
      rw [units]
      ring
    rw [regroup] at above below
    have room := Nat.mul_le_mul_right (denominator * 2 ^ shift) (Nat.le_sub_one_of_lt most)
    have base := Nat.mul_le_mul_right (denominator * 2 ^ shift) least
    by_cases inRow : shift = 0 ∨ 2 ^ 52 * (denominator * 2 ^ shift) ≤ numerator
    · rw [nearestCode_of_row inRow (by omega), shape]
      congr 1
      exact roundDiv_eq (by omega) (by omega)
    · -- Below the first magnitude of a row, the quotient is in the row before.
      obtain ⟨later, beneath⟩ := not_or.mp inRow
      obtain ⟨before, rfl⟩ := Nat.exists_eq_add_one_of_ne_zero later
      have first : steps = 2 ^ 52 := by
        by_contra other
        have further := Nat.mul_le_mul_right (denominator * 2 ^ (before + 1))
          (Nat.lt_of_le_of_ne least (Ne.symm other))
        omega
      have halved : denominator * 2 ^ (before + 1) = 2 * (denominator * 2 ^ before) := by
        rw [Nat.pow_succ]
        ring
      rw [first, halved] at above below
      rw [halved] at beneath
      have rounded : roundDiv numerator (denominator * 2 ^ before) = 2 ^ 53 :=
        roundDiv_eq (by omega) (by omega)
      have inRow : nearestCode numerator denominator =
          before * rowLength + roundDiv numerator (denominator * 2 ^ before) :=
        nearestCode_of_row (.inr (by omega)) (by omega)
      rw [inRow, rounded, shape, first, rowLength_eq]
      omega

end GridQuery.Double

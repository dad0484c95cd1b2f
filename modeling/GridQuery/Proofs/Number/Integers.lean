import GridQuery.Proofs.Number.Decimal

/-!
# The integers among the floating-point numbers

An integer is a floating-point number if 53 binary digits hold it but for zeros at its end,
and if it is not too large. Any other is rounded, and what it is rounded to is an integer too,
since from `2 ^ 53` on all floating-point numbers are.
-/

namespace GridQuery.Double

theorem unitsPerOne_eq : unitsPerOne = 2 ^ 1074 := by
  unfold unitsPerOne
  -- Nothing is to compute the power.
  generalize 1074 = exponent
  rfl

/-- Whether an integer is a floating-point number. -/
def Holds (value : Int) : Prop :=
  value.natAbs < 2 ^ 1024 ∧
    ∃ steps shift, steps < 2 ^ 53 ∧ value.natAbs = steps * 2 ^ shift

/-- All integers of up to 53 binary digits are floating-point numbers. -/
theorem holds_of_lt {value : Int} (small : value.natAbs < 2 ^ 53) : Holds value :=
  ⟨small.trans_le (pow_le_pow_right₀ (by decide) (by decide)),
    value.natAbs, 0, small, by rw [Nat.pow_zero, Nat.mul_one]⟩

/-! ### Integers that have a code -/

theorem magnitude_of_row {shift steps : Nat} (least : 2 ^ 52 ≤ steps) (most : steps < 2 ^ 53) :
    magnitude (shift * rowLength + steps) = steps * 2 ^ shift := by
  obtain ⟨more, rfl⟩ := Nat.exists_eq_add_of_le least
  have inside : more < rowLength := by
    rw [rowLength_eq]
    omega
  have split : shift * rowLength + (2 ^ 52 + more) = more + rowLength * (shift + 1) := by
    rw [rowLength_eq]
    ring
  have late : ¬ shift * rowLength + (2 ^ 52 + more) < rowLength := by
    rw [rowLength_eq]
    omega
  rw [magnitude, if_neg late, split, Nat.add_mul_mod_self_left, Nat.mod_eq_of_lt inside,
    Nat.add_mul_div_left _ _ (by decide), Nat.div_eq_of_lt inside, Nat.zero_add,
    Nat.add_sub_cancel, rowLength_eq, Nat.pow_eq]

/-- A number of up to 53 binary digits can be brought to just 53 of them. -/
theorem exists_normal {steps scale : Nat} (positive : 0 < steps) (short : steps < 2 ^ 53)
    (wide : 52 ≤ scale) :
    ∃ normal row, 2 ^ 52 ≤ normal ∧ normal < 2 ^ 53 ∧
      normal * 2 ^ row = steps * 2 ^ scale := by
  have nonzero : steps ≠ 0 := Nat.ne_of_gt positive
  have bounded : steps.log2 < 53 := (Nat.log2_lt nonzero).mpr short
  obtain ⟨count, whole⟩ := Nat.exists_eq_add_of_le (Nat.le_of_lt_succ bounded)
  obtain ⟨row, rfl⟩ := Nat.exists_eq_add_of_le (show count ≤ scale by omega)
  refine ⟨steps * 2 ^ count, row, ?_, ?_, ?_⟩
  · calc 2 ^ 52 = 2 ^ steps.log2 * 2 ^ count := by rw [whole, Nat.pow_add]
      _ ≤ steps * 2 ^ count := Nat.mul_le_mul_right _ (Nat.log2_self_le nonzero)
  · calc steps * 2 ^ count
        < 2 ^ (steps.log2 + 1) * 2 ^ count :=
          Nat.mul_lt_mul_of_pos_right Nat.lt_log2_self (Nat.two_pow_pos _)
      _ = 2 * 2 ^ (steps.log2 + count) := by
          rw [Nat.pow_succ, Nat.pow_add]
          ring
      _ = 2 ^ 53 := by rw [← whole, ← Nat.pow_succ']
  · rw [Nat.pow_add]
    ring

theorem row_le {normal row top : Nat} (least : 2 ^ 52 ≤ normal)
    (below : normal * 2 ^ row < 2 ^ 53 * 2 ^ top) : row ≤ top := by
  have size : 2 ^ (52 + row) < 2 ^ (53 + top) := by
    rw [Nat.pow_add, Nat.pow_add]
    exact Nat.lt_of_le_of_lt (Nat.mul_le_mul_right _ least) below
  rw [Nat.pow_lt_pow_iff_right (by decide)] at size
  omega

theorem exists_code_of_holds {value : Int} (holds : Holds value) :
    ∃ code, code < codeLimit ∧ magnitude code = value.natAbs * unitsPerOne := by
  obtain ⟨bounded, steps, shift, short, shape⟩ := holds
  rcases Nat.eq_zero_or_pos steps with rfl | positive
  · exact ⟨0, by decide, by rw [shape, Nat.zero_mul, Nat.zero_mul]; rfl⟩
  · obtain ⟨normal, row, least, most, units⟩ :=
      exists_normal positive short (show 52 ≤ 1074 + shift by omega)
    have size : normal * 2 ^ row = value.natAbs * unitsPerOne := by
      rw [units, shape, unitsPerOne_eq, pow_add, mul_assoc, mul_comm (2 ^ shift)]
    refine ⟨row * rowLength + normal, ?_, ?_⟩
    · -- The size of the integer bounds the row.
      have whole : 2 ^ 1024 * unitsPerOne = 2 ^ 53 * 2 ^ 2045 := by decide +kernel
      have below := Nat.mul_lt_mul_of_pos_right bounded unitsPerOne_pos
      rw [whole, ← size] at below
      have within := row_le least below
      rw [codeLimit, rowLength_eq]
      omega
    · rw [magnitude_of_row least most, size]

theorem late_of_large {steps shift size scale : Nat} (short : steps < 2 ^ 53)
    (large : 2 ^ 53 ≤ size) (same : steps * 2 ^ shift = size * 2 ^ scale) : scale ≤ shift := by
  by_contra early
  have fewer : 2 ^ shift ≤ 2 ^ scale := Nat.pow_le_pow_right (by decide) (by omega)
  have below := Nat.mul_lt_mul_of_lt_of_le short fewer (Nat.two_pow_pos _)
  rw [same] at below
  have small := Nat.lt_of_mul_lt_mul_right below
  omega

theorem holds_of_code {value : Int} {code : Nat} (bounded : code < codeLimit)
    (units : magnitude code = value.natAbs * unitsPerOne) : Holds value := by
  have below := magnitude_lt bounded
  rw [units] at below
  by_cases small : value.natAbs < 2 ^ 53
  · exact holds_of_lt small
  · refine ⟨Nat.lt_of_mul_lt_mul_right below, ?_⟩
    rcases magnitude_cases code with ⟨first, same⟩ | ⟨shift, steps, -, most, same, -⟩
    · exfalso
      rw [same] at units
      have large := Nat.le_mul_of_pos_right value.natAbs unitsPerOne_pos
      omega
    · rw [same, unitsPerOne_eq] at units
      obtain ⟨more, rfl⟩ :=
        Nat.exists_eq_add_of_le (late_of_large most (Nat.le_of_not_lt small) units)
      refine ⟨steps, more, most, ?_⟩
      rw [pow_add, mul_left_comm, mul_comm value.natAbs] at units
      exact (Nat.eq_of_mul_eq_mul_left (pow_pos (by decide) _) units).symm

/-! ### Rounding an integer -/

/-- The code that the magnitude of an integer is rounded to. -/
def codeOf (value : Int) : Nat :=
  nearestCode (value.natAbs * unitsPerOne) 1

theorem ofInt_eq (value : Int) : ofInt value = ofCode (value < 0) (codeOf value) := rfl

/-- An integer is rounded to the code that it has, and to infinity if that is none of the
finite magnitudes. -/
theorem ofInt_cases (value : Int) :
    (∃ code : Fin codeLimit, code.val = codeOf value ∧
      ofInt value = .finite (value < 0) code) ∨
    codeLimit ≤ codeOf value ∧ ofInt value = .infinite (value < 0) := by
  rw [ofInt_eq]
  generalize codeOf value = code
  unfold ofCode
  by_cases bounded : code < codeLimit
  · exact .inl ⟨⟨code, bounded⟩, rfl, dif_pos bounded⟩
  · exact .inr ⟨Nat.le_of_not_lt bounded, dif_neg bounded⟩

/-- An integer that has a code is rounded to it. -/
theorem codeOf_eq {value : Int} {code : Nat}
    (units : magnitude code = value.natAbs * unitsPerOne) : codeOf value = code := by
  rcases Nat.eq_zero_or_pos code with rfl | positive
  · have zero : value.natAbs * unitsPerOne = 0 := units.symm
    rw [codeOf, zero]
    decide
  · have some := magnitude_pos positive
    rw [codeOf, ← units]
    apply nearestCode_of_close <;> omega

/-- From the magnitude `2 ^ 53` on, all floating-point numbers are integers. -/
theorem unitsPerOne_dvd_magnitude {code : Nat} (late : 1075 * rowLength ≤ code) :
    unitsPerOne ∣ magnitude code := by
  rw [rowLength_eq] at late
  rcases magnitude_cases code with ⟨first, -⟩ | ⟨shift, steps, -, most, same, shape⟩
  · omega
  · rw [rowLength_eq] at shape
    rw [same, unitsPerOne_eq]
    exact Dvd.dvd.mul_left (pow_dvd_pow 2 (by omega)) steps

theorem le_codeOf {value : Int} (large : 2 ^ 53 ≤ value.natAbs) :
    1075 * rowLength ≤ codeOf value := by
  have size : 2 ^ (53 + 1074) ≤ value.natAbs * unitsPerOne := by
    rw [pow_add, unitsPerOne_eq]
    exact Nat.mul_le_mul_right _ large
  have nonzero : value.natAbs * unitsPerOne ≠ 0 := by
    have some := Nat.mul_pos (show 0 < value.natAbs by omega) unitsPerOne_pos
    omega
  have least := (Nat.le_log2 nonzero).mpr size
  rw [codeOf, nearestCode, Nat.div_one]
  apply Nat.le_add_right_of_le
  exact Nat.mul_le_mul_right _ (by omega)

/-- What an integer is rounded to is an integer. -/
theorem exists_magnitude_codeOf (value : Int) :
    ∃ nearest, magnitude (codeOf value) = nearest * unitsPerOne ∧
      (value ≠ 0 → 0 < nearest) := by
  by_cases small : value.natAbs < 2 ^ 53
  · obtain ⟨code, -, units⟩ := exists_code_of_holds (holds_of_lt small)
    refine ⟨value.natAbs, by rw [codeOf_eq units, units], ?_⟩
    omega
  · have late := le_codeOf (Nat.le_of_not_lt small)
    obtain ⟨nearest, shape⟩ := unitsPerOne_dvd_magnitude late
    refine ⟨nearest, by rw [shape, mul_comm], fun _ => ?_⟩
    have some := magnitude_pos (Nat.lt_of_lt_of_le (by decide) late)
    rw [shape] at some
    exact Nat.pos_of_mul_pos_left some

end GridQuery.Double

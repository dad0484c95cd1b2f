import GridQuery.Proofs.Cell.NumberPattern
import GridQuery.Proofs.Fallible
import GridQuery.Proofs.Number.Integers
import GridQuery.Proofs.Number.Written

/-!
# Integers in number patterns

A pattern without a fraction shows an integer as the floating-point number nearest to it: a
minus if it is negative, what comes before the positions, the digits, and what comes after
the positions. So the integers that are shown with all their digits are those that are
floating-point numbers.
-/

namespace GridQuery

theorem Number.order_int_zero (value : Int) :
    ((Number.int value).order (.int 0) == .lt) = decide (value < 0) := by
  have some : (0 : Int) < Double.unitsPerOne := by exact_mod_cast Double.unitsPerOne_pos
  have places : (Number.int value).order (.int 0) =
      compare (value * (Double.unitsPerOne : Int)) (0 * (Double.unitsPerOne : Int)) := rfl
  rw [places, Bool.eq_iff_iff, beq_iff_eq, compare_lt_iff_lt, decide_eq_true_iff]
  exact Int.mul_lt_mul_right some

theorem Number.toDouble?_int {value : Int} {double : Double} (rounded : Double.ofInt value = double) :
    (Number.int value).toDouble? = if double.isInfinite then none else some double := by
  rw [← rounded]
  rfl

namespace NumberPattern

variable {pattern : NumberPattern}

/-! ### Digits as a pattern shows them -/

/-- Digits are shown in groups if the pattern has a comma among its positions, and as they are
otherwise. -/
def Spells (pattern : NumberPattern) (digits shown : List Char) : Prop :=
  if ',' ∈ pattern.whole then IsGrouped digits shown else shown = digits

def spelled (pattern : NumberPattern) (digits : List Char) : List Char :=
  if pattern.whole.contains ',' then grouped digits else digits

theorem spells_spelled (pattern : NumberPattern) {digits : List Char} (nonempty : digits ≠ []) :
    pattern.Spells digits (pattern.spelled digits) := by
  by_cases commas : ',' ∈ pattern.whole
  · simpa [Spells, spelled, commas] using isGrouped_grouped nonempty
  · simp [Spells, spelled, commas]

theorem Spells.filter_eq {digits shown : List Char} (spells : pattern.Spells digits shown)
    (none : ',' ∉ digits) : shown.filter (· != ',') = digits := by
  unfold Spells at spells
  split at spells
  · exact spells.filter_eq none
  · rw [spells, filter_of_notMem none]

theorem comma_notMem_toDigits (value : Nat) : ',' ∉ Nat.toDigits 10 value :=
  comma_notMem fun _ => isDigit_of_mem_toDigits

/-- A number other than zero has a digit other than zero. -/
theorem exists_digit_ne_zero {value : Nat} (positive : 0 < value) :
    ∃ digit ∈ Nat.toDigits 10 value, digit ≠ '0' := by
  by_contra none
  push Not at none
  have zeros : Nat.toDigits 10 value = List.replicate (digitCount value) '0' :=
    List.eq_replicate_iff.mpr ⟨rfl, none⟩
  have back := ofDigits_toDigits value
  rw [zeros, digitValues_zeros, ← List.append_nil (List.replicate _ _),
    ofDigits_zeros_append] at back
  have zero : ofDigits [] = 0 := rfl
  omega

/-! ### What is shown of an integer -/

/-- A text shows an integer: a minus if it is negative, what comes before the positions, all
its digits, and what comes after the positions. -/
def ShowsInt (pattern : NumberPattern) (value : Int) (text : String) : Prop :=
  ∃ shown, pattern.Spells (Nat.toDigits 10 value.natAbs) shown ∧
    text.toList =
      (if value < 0 then ['-'] else []) ++ pattern.before ++ shown ++ pattern.after

theorem fixedPlaces_zero {code nearest : Nat}
    (units : Double.magnitude code = nearest * Double.unitsPerOne) :
    Double.fixedPlaces 0 code = (Nat.toDigits 10 nearest, []) := by
  have some := Double.unitsPerOne_pos
  have rounded : Double.roundDiv (Double.magnitude code * Nat.pow 10 0) Double.unitsPerOne =
      nearest := by
    rw [units, Nat.pow_eq, Nat.pow_zero, Nat.mul_one]
    exact Double.roundDiv_eq (by omega) (by omega)
  have wide := digitCount_pos nearest
  have padding : 0 + 1 - digitCount nearest = 0 := by omega
  unfold Double.fixedPlaces
  rw [rounded]
  simp [toList_zeroPadded, padding]

theorem digits_finite (integral : pattern.fraction = []) (negative : Bool)
    {code : Fin Double.codeLimit} {nearest : Nat}
    (units : Double.magnitude code = nearest * Double.unitsPerOne) :
    pattern.digits (.finite negative code) = (pattern.spelled (Nat.toDigits 10 nearest), []) := by
  have fixed := fixedPlaces_zero units
  simp [digits, integral, fixed, trimmedFraction, leastPlaces, spelled]

/-- Whether digits show that a number is not zero. -/
def isVisible (text : List Char) : Bool :=
  text.any fun character => character != '0' && character != '.' && character != ','

theorem isVisible_spelled (pattern : NumberPattern) {nearest : Nat} (positive : 0 < nearest) :
    isVisible (pattern.spelled (Nat.toDigits 10 nearest)) = true := by
  obtain ⟨digit, among, nonzero⟩ := exists_digit_ne_zero positive
  have decimal := isDigit_of_mem_toDigits among
  have point : digit ≠ '.' := by
    rintro rfl
    exact absurd decimal (by decide)
  have comma : digit ≠ ',' := by
    rintro rfl
    exact absurd decimal (by decide)
  have shown : digit ∈ pattern.spelled (Nat.toDigits 10 nearest) := by
    have spells := spells_spelled pattern
      (Nat.toDigits_ne_nil (b := 10) (n := nearest))
    rw [← spells.filter_eq (comma_notMem_toDigits nearest)] at among
    exact List.mem_of_mem_filter among
  exact List.any_eq_true.mpr ⟨digit, shown, by simp [nonzero, point, comma]⟩

theorem contains_percent_eq_false (before : '%' ∉ pattern.before) (after : '%' ∉ pattern.after) :
    (pattern.before.contains '%' || pattern.after.contains '%') = false := by
  simpa using ⟨before, after⟩

theorem scaled?_of_notMem (before : '%' ∉ pattern.before) (after : '%' ∉ pattern.after)
    (number : Number) : pattern.scaled? number = some number := by
  rw [scaled?, contains_percent_eq_false before after]
  rfl

/-- A minus is shown only before digits that are not all zeros. -/
theorem render_of_digits {number scaled : Number} {double : Double} {whole fraction : List Char}
    (scales : pattern.scaled? number = some scaled) (converts : scaled.toDouble? = some double)
    (shown : pattern.digits double = (whole, fraction)) :
    pattern.render number =
      .ok (String.ofList ((if scaled.order (.int 0) == .lt &&
          isVisible (whole ++ pointed fraction) then ['-'] else []) ++
        pattern.before ++ (whole ++ pointed fraction) ++ pattern.after)) := by
  unfold scaled? at scales
  unfold render
  simp only [scales, converts, shown]
  rfl

/-- What is shown of a number that has no digits of a fraction. -/
theorem render_of_whole {number : Number} {double : Double} {whole : List Char}
    (before : '%' ∉ pattern.before) (after : '%' ∉ pattern.after)
    (converted : number.toDouble? = some double) (shown : pattern.digits double = (whole, [])) :
    pattern.render number =
      .ok (String.ofList ((if number.order (.int 0) == .lt && isVisible whole then ['-'] else []) ++
        pattern.before ++ whole ++ pattern.after)) := by
  have rendered := render_of_digits (scaled?_of_notMem before after number) converted shown
  rwa [show pointed [] = [] from rfl, List.append_nil] at rendered

theorem render_of_none {number : Number} (before : '%' ∉ pattern.before)
    (after : '%' ∉ pattern.after) (large : number.toDouble? = none) :
    pattern.render number = .error .outOfRange := by
  unfold render
  simp only [contains_percent_eq_false before after, Bool.false_eq_true, if_false, large]

/-- An integer is shown as the floating-point number nearest to it. -/
theorem render_int (integral : pattern.fraction = []) (before : '%' ∉ pattern.before)
    (after : '%' ∉ pattern.after) {value : Int} {code : Fin Double.codeLimit} {nearest : Nat}
    (rounded : Double.ofInt value = .finite (value < 0) code)
    (units : Double.magnitude code = nearest * Double.unitsPerOne)
    (given : value ≠ 0 → 0 < nearest) :
    pattern.render (.int value) =
      .ok (String.ofList ((if value < 0 then ['-'] else []) ++ pattern.before ++
        pattern.spelled (Nat.toDigits 10 nearest) ++ pattern.after)) := by
  have converted : (Number.int value).toDouble? = some (.finite (value < 0) code) :=
    Number.toDouble?_int rounded
  rw [render_of_whole before after converted (digits_finite integral (value < 0) units),
    Number.order_int_zero]
  by_cases negative : value < 0
  · have visible := isVisible_spelled pattern (given (Int.ne_of_lt negative))
    rw [visible, Bool.and_true, decide_eq_true negative, if_pos rfl, if_pos negative]
  · rw [decide_eq_false negative, Bool.false_and, if_neg Bool.false_ne_true, if_neg negative]

/-! ### Integers that are shown with all their digits -/

/-- What a pattern shows of an integer tells its digits. -/
theorem ShowsInt.natAbs_eq {value : Int} {text : String} (shows : pattern.ShowsInt value text)
    (nearest : Nat)
    (written : text.toList = (if value < 0 then ['-'] else []) ++ pattern.before ++
      pattern.spelled (Nat.toDigits 10 nearest) ++ pattern.after) : value.natAbs = nearest := by
  obtain ⟨shown, spells, shape⟩ := shows
  rw [written, List.append_cancel_right_eq, List.append_cancel_left_eq] at shape
  have other := spells_spelled pattern (Nat.toDigits_ne_nil (b := 10) (n := nearest))
  have digits : Nat.toDigits 10 value.natAbs = Nat.toDigits 10 nearest := by
    rw [← spells.filter_eq (comma_notMem_toDigits _), ← shape,
      other.filter_eq (comma_notMem_toDigits _)]
  rw [← ofDigits_toDigits value.natAbs, digits, ofDigits_toDigits]

/-- A pattern shows an integer with all its digits if and only if the integer is a
floating-point number. -/
theorem render_int_showsInt_iff (integral : pattern.fraction = []) (before : '%' ∉ pattern.before)
    (after : '%' ∉ pattern.after) (value : Int) :
    (∃ text, pattern.render (.int value) = .ok text ∧ pattern.ShowsInt value text) ↔
      Double.Holds value := by
  rcases Double.ofInt_cases value with ⟨code, same, rounded⟩ | ⟨large, rounded⟩
  · obtain ⟨nearest, units, given⟩ := Double.exists_magnitude_codeOf value
    rw [← same] at units
    rw [render_int integral before after rounded units given]
    constructor
    · rintro ⟨text, written, shows⟩
      cases written
      have exact := shows.natAbs_eq nearest (String.toList_ofList ..)
      apply Double.holds_of_code code.isLt
      rw [units, exact]
    · intro holds
      obtain ⟨other, -, whole⟩ := Double.exists_code_of_holds holds
      rw [← Double.codeOf_eq whole, ← same, units] at whole
      have exact := Nat.eq_of_mul_eq_mul_right Double.unitsPerOne_pos whole
      refine ⟨_, rfl, pattern.spelled (Nat.toDigits 10 value.natAbs),
        spells_spelled pattern Nat.toDigits_ne_nil, ?_⟩
      rw [String.toList_ofList, exact]
  · rw [render_of_none before after (Number.toDouble?_int rounded)]
    constructor
    · rintro ⟨text, written, -⟩
      cases written
    · intro holds
      obtain ⟨code, bounded, units⟩ := Double.exists_code_of_holds holds
      rw [Double.codeOf_eq units] at large
      exact absurd bounded (Nat.not_lt_of_le large)

end NumberPattern

theorem Cell.format?_int {value : Int} {pattern : String} {found : NumberPattern}
    (finds : NumberPattern.find? pattern.toList = some found) :
    (Cell.int value).format? pattern = (found.render (.int value)).map some :=
  format?_of_asNumber? rfl finds

/-- A pattern that is not for percents and has no fraction shows an integer with all its digits
if and only if the integer is a floating-point number. -/
theorem Cell.format?_int_showsInt_iff (value : Int) {pattern : String} {found : NumberPattern}
    (finds : NumberPattern.find? pattern.toList = some found) (integral : found.fraction = [])
    (percent : '%' ∉ pattern.toList) :
    (∃ text, (Cell.int value).format? pattern = .ok (some text) ∧ found.ShowsInt value text) ↔
      Double.Holds value := by
  obtain ⟨core, -, parts⟩ := NumberPattern.find?_split finds
  rw [parts, List.mem_append, List.mem_append, not_or, not_or] at percent
  rw [← NumberPattern.render_int_showsInt_iff integral percent.1.1 percent.2, format?_int finds]
  constructor
  · rintro ⟨text, written, shows⟩
    obtain ⟨_, rendered, same⟩ := (map_eq_ok_iff ..).mp written
    cases same
    exact ⟨text, rendered, shows⟩
  · rintro ⟨text, rendered, shows⟩
    exact ⟨text, by rw [rendered]; rfl, shows⟩

/-- Whole dollars in groups of three digits. -/
def dollars : NumberPattern := ⟨['$'], "#,##0".toList, [], []⟩

/-- A debt of 1234567 dollars is shown with all its digits. -/
theorem Cell.debt_showsInt :
    NumberPattern.find? "$#,##0".toList = some dollars ∧ dollars.fraction = [] ∧
    '%' ∉ "$#,##0".toList ∧ Double.Holds (-1234567) ∧
    ∃ text, (Cell.int (-1234567)).format? "$#,##0" = .ok (some text) ∧
      dollars.ShowsInt (-1234567) text := by
  have finds : NumberPattern.find? "$#,##0".toList = some dollars := by rfl
  have integral : dollars.fraction = [] := rfl
  have percent : '%' ∉ "$#,##0".toList := by decide
  have holds : Double.Holds (-1234567) := Double.holds_of_lt (by decide)
  exact ⟨finds, integral, percent, holds,
    (format?_int_showsInt_iff (-1234567) finds integral percent).mpr holds⟩

def onlyDigits : NumberPattern := ⟨[], ['0'], [], []⟩

/-- The least positive integer that is no floating-point number is shown as the one before
it. -/
theorem Cell.large_not_showsInt :
    NumberPattern.find? "0".toList = some onlyDigits ∧ onlyDigits.fraction = [] ∧
    onlyDigits.whole.count '0' ≤ 1 ∧ '%' ∉ "0".toList ∧
    (Cell.int 9007199254740993).format? "0" = .ok (some "9007199254740992") ∧
    ¬ onlyDigits.ShowsInt 9007199254740993 "9007199254740992" := by
  refine ⟨by rfl, rfl, by decide, by decide, ?_, ?_⟩
  · decide +kernel
  · intro shows
    have exact := shows.natAbs_eq 9007199254740992 (by decide +kernel)
    omega

end GridQuery

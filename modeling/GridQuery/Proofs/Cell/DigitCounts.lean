import GridQuery.Proofs.Cell.IntegerFormat

/-!
# Counts of digits

A number pattern shows the digits of a number that is rounded to as many places as the pattern
has positions after the point, and its zeros ask for digits. After the point there are never
fewer than up to the last zero, and never more than there are positions. Before the point there
are as many as the rounded number has, and no zeros are put in front of them: a pattern that
asks for two or more gets them just if the rounded number is large enough.
-/

namespace GridQuery

namespace Double

/-- A magnitude as a whole number of units of a decimal place. -/
def rounded (places code : Nat) : Nat :=
  roundDiv (magnitude code * Nat.pow 10 places) unitsPerOne

theorem isDigit_fixedPlaces (places code : Nat) :
    (∀ digit ∈ (fixedPlaces places code).1, digit.isDigit = true) ∧
      ∀ digit ∈ (fixedPlaces places code).2, digit.isDigit = true :=
  ⟨fun _ among => isDigit_of_mem_zeroPadded (List.mem_of_mem_take among),
    fun _ among => isDigit_of_mem_zeroPadded (List.mem_of_mem_drop among)⟩

/-- There is one digit before the point at least. -/
theorem length_fixedPlaces (places code : Nat) :
    (fixedPlaces places code).1.length = max 1 (digitCount (rounded places code) - places) ∧
      (fixedPlaces places code).2.length = places := by
  have width : (Text.zeroPadded (places + 1) (rounded places code)).toList.length =
      max (places + 1) (digitCount (rounded places code)) := by
    rw [toList_zeroPadded, List.length_append, List.length_replicate, digitCount]
    omega
  unfold fixedPlaces
  rw [← rounded, List.length_take, List.length_drop, width]
  omega

/-- The digits before the point and those after it are those of the rounded number. -/
theorem ofDigits_fixedPlaces (places code : Nat) :
    ofDigits (digitValues ((fixedPlaces places code).1 ++ (fixedPlaces places code).2)) =
      rounded places code := by
  unfold fixedPlaces
  rw [List.take_append_drop, ofDigits_zeroPadded, rounded]

theorem fixedPlaces_ne_nil (places code : Nat) : (fixedPlaces places code).1 ≠ [] := by
  have width := (length_fixedPlaces places code).1
  apply List.ne_nil_of_length_pos
  omega

/-- A number has more digits than a power of ten before it has zeros, if it is no less. -/
theorem lt_digitCount_iff {value width : Nat} (positive : 0 < width) :
    width < digitCount value ↔ 10 ^ width ≤ value := by
  have fewer : digitCount value ≤ width ↔ value < 10 ^ width :=
    Nat.length_toDigits_le_iff (by decide) positive
  rw [← Nat.not_le, fewer, Nat.not_lt]

/-- So many digits stand before the point, if there are to be more than one. -/
theorem le_length_fixedPlaces_iff (wanted places code : Nat) :
    wanted ≤ (fixedPlaces places code).1.length ↔
      wanted ≤ 1 ∨ 10 ^ (wanted - 1) * 10 ^ places ≤ rounded places code := by
  rw [(length_fixedPlaces places code).1]
  by_cases few : wanted ≤ 1
  · simp [few]
  · rw [← Nat.pow_add, ← lt_digitCount_iff (by omega)]
    omega

end Double

namespace NumberPattern

variable {pattern : NumberPattern}

/-! ### What a pattern asks for -/

/-- The digits before the point that a pattern asks for. -/
def leastDigits (pattern : NumberPattern) : Nat :=
  pattern.whole.count '0'

/-- A text shows digits before a point and digits after it where a pattern has its positions;
there may be commas among the former, and a minus in front of all. -/
structure Shows (pattern : NumberPattern) (text : String) (whole fraction : List Char) : Prop
    where
  isWhole : ∀ digit ∈ whole, digit.isDigit = true ∨ digit = ','
  isFraction : ∀ digit ∈ fraction, digit.isDigit = true
  layout : ∃ sign, (sign = [] ∨ sign = ['-']) ∧
    text.toList = sign ++ pattern.before ++ (whole ++ pointed fraction) ++ pattern.after

theorem pointed_injective {fraction other : List Char} (same : pointed fraction = pointed other) :
    fraction = other := by
  cases fraction <;> cases other <;> simp_all [pointed]

/-- Where digits stop, a point follows or nothing. -/
theorem stops_pointed (fraction : List Char) : Stops (· != '.') (pointed fraction) := by
  cases fraction <;> simp [pointed, Stops]

namespace Shows

variable {text : String} {whole fraction : List Char}

theorem notMem (shows : pattern.Shows text whole fraction) {mark : Char}
    (other : mark.isDigit = false) (comma : mark ≠ ',') : mark ∉ whole := by
  intro among
  rcases shows.isWhole mark among with digit | same
  · rw [digit] at other
    cases other
  · exact comma same

/-- There is no minus among digits. -/
theorem minus_notMem (shows : pattern.Shows text whole fraction) :
    '-' ∉ whole ++ pointed fraction := by
  have before : '-' ∉ whole := shows.notMem (by decide) (by decide)
  have after : '-' ∉ fraction := fun among => absurd (shows.isFraction '-' among) (by decide)
  rw [List.mem_append, not_or]
  refine ⟨before, ?_⟩
  cases fraction <;> simp_all [pointed]

theorem count_minus (shows : pattern.Shows text whole fraction) (sign : List Char) :
    (sign ++ pattern.before ++ (whole ++ pointed fraction) ++ pattern.after).count '-' =
      sign.count '-' + pattern.before.count '-' + pattern.after.count '-' := by
  rw [List.count_append, List.count_append, List.count_eq_zero.mpr shows.minus_notMem,
    Nat.add_zero, List.count_append]

/-- What a text shows is all that it shows. -/
theorem unique (shows : pattern.Shows text whole fraction) {otherWhole otherFraction : List Char}
    (again : pattern.Shows text otherWhole otherFraction) :
    whole = otherWhole ∧ fraction = otherFraction := by
  obtain ⟨sign, isSign, layout⟩ := shows.layout
  obtain ⟨otherSign, isOther, otherLayout⟩ := again.layout
  have same := layout.symm.trans otherLayout
  -- The digits hold no minus, so both have one in front or none has.
  have counts := congrArg (List.count '-') same
  rw [shows.count_minus, again.count_minus] at counts
  have signs : sign = otherSign := by
    rcases isSign with rfl | rfl <;> rcases isOther with rfl | rfl <;> simp_all
  rw [signs, List.append_cancel_right_eq, List.append_cancel_left_eq] at same
  have upToPoint {digits : List Char} (point : '.' ∉ digits) :
      ∀ digit ∈ digits, (digit != '.') = true := by
    intro digit among
    have other : digit ≠ '.' := by
      rintro rfl
      exact point among
    simpa using other
  have wholes := congrArg (List.takeWhile (· != '.')) same
  rw [takeWhile_append_stops (upToPoint (shows.notMem (by decide) (by decide)))
      (stops_pointed fraction),
    takeWhile_append_stops (upToPoint (again.notMem (by decide) (by decide)))
      (stops_pointed otherFraction)] at wholes
  rw [wholes, List.append_cancel_left_eq] at same
  exact ⟨wholes, pointed_injective same⟩

end Shows

/-! ### Digits as a pattern shows them -/

theorem isDigit_of_mem_spelled {digits : List Char} (nonempty : digits ≠ [])
    (all : ∀ digit ∈ digits, digit.isDigit = true) {mark : Char}
    (among : mark ∈ pattern.spelled digits) : mark.isDigit = true ∨ mark = ',' := by
  by_cases comma : mark = ','
  · exact .inr comma
  · left
    have spells := spells_spelled pattern nonempty
    apply all
    rw [← spells.filter_eq (comma_notMem all)]
    exact List.mem_filter.mpr ⟨among, by simpa using comma⟩

theorem leastPlaces_le (pattern : NumberPattern) :
    pattern.leastPlaces ≤ pattern.fraction.length := by
  have shorter := (List.dropWhile_sublist (· == '#') (l := pattern.fraction.reverse)).length_le
  rwa [List.length_reverse] at shorter

/-- Only zeros are cut off from the digits after the point, and none that a pattern asks for. -/
theorem trimmedFraction_split {digits : List Char}
    (width : digits.length = pattern.fraction.length) :
    ∃ count, digits = pattern.trimmedFraction digits ++ List.replicate count '0' ∧
      pattern.leastPlaces ≤ (pattern.trimmedFraction digits).length := by
  have least := leastPlaces_le pattern
  unfold trimmedFraction
  dsimp only
  split
  · obtain ⟨zeros, split⟩ := exists_zeros digits
    generalize (digits.reverse.dropWhile (· == '0')).reverse = kept at split ⊢
    have total : kept.length + zeros = digits.length := by
      rw [split, List.length_append, List.length_replicate]
    obtain ⟨count, rest⟩ : ∃ count, zeros = (pattern.leastPlaces - kept.length) + count :=
      Nat.exists_eq_add_of_le (by omega)
    refine ⟨count, ?_, ?_⟩
    · rw [List.append_assoc, List.replicate_append_replicate, ← rest]
      exact split
    · rw [List.length_append, List.length_replicate]
      omega
  · exact ⟨0, by simp, by omega⟩

/-- Digits before the point are spelled. A lone zero may be left out where a pattern asks for
none. -/
def IsWhole (pattern : NumberPattern) (digits whole : List Char) : Prop :=
  whole = pattern.spelled digits ∨
    whole = [] ∧ pattern.spelled digits = ['0'] ∧ pattern.leastDigits = 0

theorem digits_eq (pattern : NumberPattern) (negative : Bool) (code : Fin Double.codeLimit) :
    ∃ whole, pattern.digits (.finite negative code) =
        (whole, pattern.trimmedFraction (Double.fixedPlaces pattern.fraction.length code).2) ∧
      pattern.IsWhole (Double.fixedPlaces pattern.fraction.length code).1 whole := by
  generalize parts : Double.fixedPlaces pattern.fraction.length code = digits
  have shape : pattern.digits (.finite negative code) =
      if pattern.spelled digits.1 == ['0'] && !pattern.whole.contains '0' &&
          !(pattern.trimmedFraction digits.2).isEmpty then ([], pattern.trimmedFraction digits.2)
      else (pattern.spelled digits.1, pattern.trimmedFraction digits.2) := by
    rw [← parts]
    rfl
  rw [shape]
  split
  · next lone =>
      simp only [Bool.and_eq_true, Bool.not_eq_true', beq_iff_eq] at lone
      have unasked : '0' ∉ pattern.whole := by
        intro among
        simp [among] at lone
      exact ⟨[], rfl, .inr ⟨rfl, lone.1.1, List.count_eq_zero.mpr unasked⟩⟩
  · exact ⟨_, rfl, .inl rfl⟩

namespace IsWhole

variable {digits whole : List Char}

theorem isDigit_or_comma (shown : pattern.IsWhole digits whole) (nonempty : digits ≠ [])
    (all : ∀ digit ∈ digits, digit.isDigit = true) :
    ∀ mark ∈ whole, mark.isDigit = true ∨ mark = ',' := by
  intro mark among
  rcases shown with rfl | ⟨rfl, -⟩
  · exact isDigit_of_mem_spelled nonempty all among
  · cases among

/-- A pattern gets the digits that it asks for if and only if they are there. -/
theorem leastDigits_le_iff (shown : pattern.IsWhole digits whole) (nonempty : digits ≠ [])
    (all : ∀ digit ∈ digits, digit.isDigit = true) :
    pattern.leastDigits ≤ (whole.filter (· != ',')).length ↔
      pattern.leastDigits ≤ digits.length := by
  rcases shown with rfl | ⟨rfl, -, none⟩
  · rw [(spells_spelled pattern nonempty).filter_eq (comma_notMem all)]
  · simp [none]

/-- A zero that is left out changes nothing. -/
theorem ofDigits_eq (shown : pattern.IsWhole digits whole) (nonempty : digits ≠ [])
    (all : ∀ digit ∈ digits, digit.isDigit = true) (rest : List Char) :
    ofDigits (digitValues (whole.filter (· != ',') ++ rest)) =
      ofDigits (digitValues (digits ++ rest)) := by
  have filtered := (spells_spelled pattern nonempty).filter_eq (comma_notMem all)
  rcases shown with rfl | ⟨rfl, lone, -⟩
  · rw [filtered]
  · rw [lone] at filtered
    rw [← filtered]
    exact (ofDigits_zeros_append 1 (digitValues rest)).symm

end IsWhole

/-! ### What is shown of a number -/

/-- What a pattern shows of a number: none if it is too large. -/
def shown? (pattern : NumberPattern) (number : Number) : Option Double :=
  (pattern.scaled? number).bind Number.toDouble?

theorem render_of_shown {number : Number} {double : Double} {whole fraction : List Char}
    (fits : pattern.shown? number = some double)
    (shown : pattern.digits double = (whole, fraction)) :
    ∃ sign, (sign = [] ∨ sign = ['-']) ∧ pattern.render number =
      .ok (String.ofList (sign ++ pattern.before ++ (whole ++ pointed fraction) ++
        pattern.after)) := by
  obtain ⟨scaled, scales, converts⟩ := Option.bind_eq_some_iff.mp fits
  rw [render_of_digits scales converts shown]
  refine ⟨_, ?_, rfl⟩
  split
  · exact .inr rfl
  · exact .inl rfl

end NumberPattern

/-- A pattern shows the digits of the rounded number, with no fewer after the point than it asks
for and no more than it has positions. Before the point it shows as many as it asks for if and
only if it asks for one at most or the rounded number has as many. -/
theorem Cell.format?_keepsCounts {cell : Cell} {value : Number} {pattern : String}
    {found : NumberPattern} {negative : Bool} {code : Fin Double.codeLimit}
    (reads : cell.asNumber? = .ok (some value))
    (finds : NumberPattern.find? pattern.toList = some found)
    (fits : found.shown? value = some (.finite negative code)) :
    ∃ text whole fraction, cell.format? pattern = .ok (some text) ∧
      found.Shows text whole fraction ∧
      ofDigits (digitValues (whole.filter (· != ',') ++ fraction)) *
          10 ^ (found.fraction.length - fraction.length) =
        Double.rounded found.fraction.length code ∧
      found.leastPlaces ≤ fraction.length ∧ fraction.length ≤ found.fraction.length ∧
      (found.leastDigits ≤ (whole.filter (· != ',')).length ↔
        found.leastDigits ≤ 1 ∨ 10 ^ (found.leastDigits - 1) * 10 ^ found.fraction.length ≤
          Double.rounded found.fraction.length code) := by
  obtain ⟨whole, digits, isWhole⟩ := found.digits_eq negative code
  obtain ⟨sign, isSign, rendered⟩ := NumberPattern.render_of_shown fits digits
  have width := (Double.length_fixedPlaces found.fraction.length code).2
  obtain ⟨count, split, least⟩ := NumberPattern.trimmedFraction_split width
  have nonempty := Double.fixedPlaces_ne_nil found.fraction.length code
  obtain ⟨before, after⟩ := Double.isDigit_fixedPlaces found.fraction.length code
  generalize found.trimmedFraction (Double.fixedPlaces found.fraction.length code).2 = fraction
    at digits rendered split least
  rw [split, List.length_append, List.length_replicate] at width
  have dropped : found.fraction.length - fraction.length = count := by omega
  refine ⟨_, whole, fraction, ?_, ⟨isWhole.isDigit_or_comma nonempty before, ?_, sign, isSign,
    String.toList_ofList ..⟩, ?_, least, by omega, ?_⟩
  · rw [format?_of_asNumber? reads finds, rendered]
    rfl
  · intro digit among
    apply after
    rw [split]
    exact List.mem_append_left _ among
  · rw [dropped, isWhole.ofDigits_eq nonempty before, ← ofDigits_append_zeros,
      ← digitValues_zeros, ← digitValues_append, List.append_assoc, ← split,
      Double.ofDigits_fixedPlaces]
  · rw [isWhole.leastDigits_le_iff nonempty before, Double.le_length_fixedPlaces_iff]

/-- Three digits before the point, and one or two after it. -/
def threeDigits : NumberPattern := ⟨[], "000".toList, "0#".toList, []⟩

/-- The code of `99.996`. -/
def nearlyHundredCode : Fin Double.codeLimit := ⟨4636737009879659577, by decide⟩

/-- A text for a number just below one hundred is shown as one hundred. -/
theorem Cell.nearlyHundred_keepsCounts :
    (Cell.text "99.996").asNumber? = .ok (some (.float (.finite false nearlyHundredCode))) ∧
    NumberPattern.find? "000.0#".toList = some threeDigits ∧
    threeDigits.shown? (.float (.finite false nearlyHundredCode)) =
      some (.finite false nearlyHundredCode) ∧
    ∃ text whole fraction, (Cell.text "99.996").format? "000.0#" = .ok (some text) ∧
      threeDigits.Shows text whole fraction ∧
      ofDigits (digitValues (whole.filter (· != ',') ++ fraction)) * 10 ^ (2 - fraction.length) =
        10000 ∧
      1 ≤ fraction.length ∧ fraction.length ≤ 2 ∧ 3 ≤ (whole.filter (· != ',')).length := by
  have reads : (Cell.text "99.996").asNumber? =
      .ok (some (.float (.finite false nearlyHundredCode))) := by decide +kernel
  have finds : NumberPattern.find? "000.0#".toList = some threeDigits := by rfl
  have fits : threeDigits.shown? (.float (.finite false nearlyHundredCode)) =
      some (.finite false nearlyHundredCode) := by rfl
  obtain ⟨text, whole, fraction, written, shows, same, least, most, enough⟩ :=
    format?_keepsCounts reads finds fits
  have hundred : Double.rounded threeDigits.fraction.length nearlyHundredCode = 10000 := by
    decide +kernel
  rw [hundred] at same enough
  exact ⟨reads, finds, fits, text, whole, fraction, written, shows, same, least, most,
    enough.mpr (.inr (by decide))⟩

/-- Three digits before the point, and none after it. -/
def onlyThreeDigits : NumberPattern := ⟨[], "000".toList, [], []⟩

/-- The code of `5`. -/
def fiveCode : Fin Double.codeLimit := ⟨4617315517961601024, by decide⟩

/-- Five is shown with one digit, though the pattern asks for three. -/
theorem Cell.five_lacksDigits :
    NumberPattern.find? "000".toList = some onlyThreeDigits ∧
    onlyThreeDigits.shown? (.int 5) = some (.finite false fiveCode) ∧
    (Cell.int 5).format? "000" = .ok (some "5") ∧
    ¬ ∃ whole fraction, onlyThreeDigits.Shows "5" whole fraction ∧
      onlyThreeDigits.leastDigits ≤ (whole.filter (· != ',')).length := by
  refine ⟨by rfl, by decide +kernel, by decide +kernel, ?_⟩
  rintro ⟨whole, fraction, shows, enough⟩
  have one : onlyThreeDigits.Shows "5" ['5'] [] :=
    ⟨by simp, by simp, [], .inl rfl, rfl⟩
  obtain ⟨rfl, rfl⟩ := shows.unique one
  exact absurd enough (by decide)

end GridQuery

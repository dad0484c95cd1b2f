import GridQuery.Moment.Reader
import GridQuery.Proofs.Numeral

/-!
# Moments read back

The text of a moment to the second, a `T` between its day and its time of day, is read as
that moment.
-/

namespace GridQuery.Moment

open Numeral (scanDigits)

theorem daysInMonth_le (year month : Nat) : daysInMonth year month ≤ 31 := by
  unfold daysInMonth
  split
  · split <;> omega
  · split <;> omega

/-- A padded numeral is a field of just its width. -/
theorem scanField_zeroPadded {least most width value : Nat} {rest : List Char}
    (positive : 0 < width) (fits : value < 10 ^ width) (bounds : least ≤ width ∧ width ≤ most)
    (stops : Stops Text.isDigit rest) :
    scanField least most ((Text.zeroPadded width value).toList ++ rest) = some (value, rest) := by
  have scanned : scanDigits ((Text.zeroPadded width value).toList ++ rest) =
      (digitValues (Text.zeroPadded width value).toList, rest) :=
    scanDigits_append (fun _ membership => isDigit_of_mem_zeroPadded membership) stops
  have length := length_zeroPadded positive fits
  simp [scanField, scanned, length, bounds]

/-- The text of a moment to the second. -/
def secondText (moment : Moment) : String :=
  moment.date.isoText ++ "T" ++ moment.clockText

variable (moment : Moment)

theorem scanClock_clockText :
    scanClock ('T' :: moment.clockText.toList) =
      some ((moment.hour, moment.minute, moment.second, 0), []) := by
  obtain ⟨hours, minutes, seconds, -⟩ := moment.valid
  have shape : moment.clockText.toList =
      (Text.zeroPadded 2 moment.hour).toList ++ ':' ::
        ((Text.zeroPadded 2 moment.minute).toList ++ ':' ::
          (Text.zeroPadded 2 moment.second).toList) := by
    simp [clockText]
  have hour (rest : List Char) :
      scanField 1 2 ((Text.zeroPadded 2 moment.hour).toList ++ ':' :: rest) =
        some (moment.hour, ':' :: rest) :=
    scanField_zeroPadded (by decide) (by omega) (by decide) (by simp; decide)
  have minute (rest : List Char) :
      scanField 2 2 ((Text.zeroPadded 2 moment.minute).toList ++ ':' :: rest) =
        some (moment.minute, ':' :: rest) :=
    scanField_zeroPadded (by decide) (by omega) (by decide) (by simp; decide)
  have second : scanField 2 2 (Text.zeroPadded 2 moment.second).toList =
      some (moment.second, []) := by
    rw [← List.append_nil (Text.zeroPadded 2 moment.second).toList]
    exact scanField_zeroPadded (by decide) (by omega) (by decide) (by simp)
  rw [shape]
  simp [scanClock, hour, scanAfter, minute, second, scanFraction]

theorem ofFields?_eq :
    ofFields? moment.date moment.hour moment.minute moment.second moment.microsecond =
      some moment := by
  simp [ofFields?, moment.valid]

/-- A day is read before what is read as a time of day. -/
theorem ofIso?_isoText (date : Day) {clock : List Char} {hour minute second microsecond : Nat}
    (stops : Stops Text.isDigit clock)
    (scanned : scanClock clock = some ((hour, minute, second, microsecond), [])) :
    ofIso? (date.isoText.toList ++ clock) = ofFields? date hour minute second microsecond := by
  obtain ⟨⟨-, years⟩, ⟨-, months⟩, -, days⟩ := date.valid
  have month_days := daysInMonth_le date.year date.month
  have shape : date.isoText.toList ++ clock =
      (Text.zeroPadded 4 date.year).toList ++ '-' ::
        ((Text.zeroPadded 2 date.month).toList ++ '-' ::
          ((Text.zeroPadded 2 date.day).toList ++ clock)) := by
    simp [Day.isoText]
  have year (rest : List Char) :
      scanField 4 4 ((Text.zeroPadded 4 date.year).toList ++ '-' :: rest) =
        some (date.year, '-' :: rest) :=
    scanField_zeroPadded (by decide) (by omega) (by decide) (by simp; decide)
  have month (rest : List Char) :
      scanField 1 2 ((Text.zeroPadded 2 date.month).toList ++ '-' :: rest) =
        some (date.month, '-' :: rest) :=
    scanField_zeroPadded (by decide) (by omega) (by decide) (by simp; decide)
  have day : scanField 1 2 ((Text.zeroPadded 2 date.day).toList ++ clock) =
      some (date.day, clock) :=
    scanField_zeroPadded (by decide) (by omega) (by decide) stops
  have calendar : Day.ofFields? date.year date.month date.day = some date := by
    simp [Day.ofFields?, date.valid]
  rw [shape]
  simp [ofIso?, year, scanAfter, month, day, scanned, calendar]

theorem zeroPadded_shape (width value : Nat) :
    ∃ first later, (Text.zeroPadded width value).toList = first :: later ∧
      first.isDigit = true := by
  have nonempty : (Text.zeroPadded width value).toList ≠ [] := by
    simp [toList_zeroPadded, Nat.toDigits_ne_nil]
  obtain ⟨first, later, shape⟩ := List.exists_cons_of_ne_nil nonempty
  exact ⟨first, later, shape,
    isDigit_of_mem_zeroPadded (show first ∈ (Text.zeroPadded width value).toList by simp [shape])⟩

theorem isBlank_of_isDigit {character : Char} (digit : character.isDigit = true) :
    Text.isBlank character = false :=
  isBlank_of_isAlphanum (by simp [Char.isAlphanum, digit])

/-- What begins with a digit is no `Date(…)`. -/
theorem read_of_isDigit {content : String} {first : Char} {later : List Char}
    (shape : content.toList = first :: later) (digit : first.isDigit = true)
    (back : Stops Text.isBlank content.toList.reverse) :
    Moment.read content = .ok ((ofIso? content.toList).map wholeSecond) := by
  have front : Stops Text.isBlank content.toList := by
    rw [shape, stops_cons]
    exact isBlank_of_isDigit digit
  have dialect : dialectArguments? content.toList = none := by
    have unlike : 'D' ≠ first := by
      rintro rfl
      exact absurd digit (by decide)
    simp [dialectArguments?, shape, unlike]
  rw [Moment.read, trimList_of_stops front back, dialect]

/-- A day is read with what stands after it, if no blank does. -/
theorem read_isoText (date : Day) {clock : String}
    (back : Stops Text.isBlank (date.isoText ++ clock).toList.reverse) :
    Moment.read (date.isoText ++ clock) =
      .ok ((ofIso? (date.isoText.toList ++ clock.toList)).map wholeSecond) := by
  obtain ⟨first, later, shape, digit⟩ := zeroPadded_shape 4 date.year
  rw [← String.toList_append]
  exact read_of_isDigit (by rw [Day.isoText]; simp [shape]; rfl) digit back

theorem stops_isBlank_zeroPadded (width value : Nat) (rest : List Char) :
    Stops Text.isBlank ((Text.zeroPadded width value).toList.reverse ++ rest) := by
  have nonempty : (Text.zeroPadded width value).toList.reverse ≠ [] := by
    simp [toList_zeroPadded, Nat.toDigits_ne_nil]
  obtain ⟨last, before, shape⟩ := List.exists_cons_of_ne_nil nonempty
  have membership : last ∈ (Text.zeroPadded width value).toList :=
    List.mem_reverse.mp (by simp [shape])
  rw [shape, List.cons_append, stops_cons]
  exact isBlank_of_isDigit (isDigit_of_mem_zeroPadded membership)

theorem wholeSecond_eq (whole : moment.microsecond = 0) : wholeSecond moment = moment := by
  cases moment
  simp only at whole
  subst whole
  rfl

/-- A moment of a whole second is read back from its text. -/
theorem read_secondText (whole : moment.microsecond = 0) :
    Moment.read moment.secondText = .ok (some moment) := by
  have back : Stops Text.isBlank moment.secondText.toList.reverse := by
    simpa [secondText, clockText] using stops_isBlank_zeroPadded 2 moment.second _
  have clock : ofIso? (moment.date.isoText.toList ++ 'T' :: moment.clockText.toList) =
      ofFields? moment.date moment.hour moment.minute moment.second 0 :=
    ofIso?_isoText moment.date (by simp; decide) (scanClock_clockText moment)
  have made : ofFields? moment.date moment.hour moment.minute moment.second 0 =
      some moment := by
    simpa only [whole] using ofFields?_eq moment
  rw [secondText, String.append_assoc] at back ⊢
  rw [read_isoText moment.date back, String.toList_append]
  exact congrArg Except.ok (by simp [clock, made, wholeSecond_eq moment whole])

theorem digitCount_year_le_iff (year : Nat) : digitCount year ≤ 3 ↔ year < 1000 :=
  Nat.length_toDigits_le_iff (by decide) (by decide)

/-- A day of the years that have four digits without leading zeros is written with four. -/
theorem dayText_eq_isoText (late : 1000 ≤ moment.date.year) :
    moment.dayText = moment.date.isoText := by
  have count : ¬ digitCount moment.date.year ≤ 3 := by
    rw [digitCount_year_le_iff]
    omega
  have none : 4 - digitCount moment.date.year = 0 := by omega
  have year : Text.zeroPadded 4 moment.date.year = Text.ofNat moment.date.year := by
    apply String.toList_injective
    rw [toList_zeroPadded, none, List.replicate_zero, List.nil_append, toList_ofNat]
  rw [dayText, Day.isoText, year]

/-- A year of fewer than four digits is written with as many, and the day is not read. -/
theorem read_dayText_of_early (early : moment.date.year < 1000) :
    Moment.read moment.dayText = .ok none := by
  obtain ⟨first, later, shape, digit⟩ := toDigits_shape moment.date.year
  have characters : moment.dayText.toList = Nat.toDigits 10 moment.date.year ++ '-' ::
      ((Text.zeroPadded 2 moment.date.month).toList ++ '-' ::
        (Text.zeroPadded 2 moment.date.day).toList) := by
    simp [dayText, toList_ofNat]
  have back : Stops Text.isBlank moment.dayText.toList.reverse := by
    simpa [dayText] using stops_isBlank_zeroPadded 2 moment.date.day _
  have short : digitCount moment.date.year ≤ 3 := (digitCount_year_le_iff _).mpr early
  have year (rest : List Char) :
      scanField 4 4 (Nat.toDigits 10 moment.date.year ++ '-' :: rest) = none := by
    have scanned : scanDigits (Nat.toDigits 10 moment.date.year ++ '-' :: rest) =
        (digitValues (Nat.toDigits 10 moment.date.year), '-' :: rest) :=
      scanDigits_append (fun _ membership => isDigit_of_mem_toDigits membership)
        (by simp; decide)
    have few : ¬ 4 ≤ (Nat.toDigits 10 moment.date.year).length := Nat.not_le_of_lt
      (Nat.lt_succ_of_le short)
    simp [scanField, scanned, length_digitValues, few]
  rw [read_of_isDigit (by rw [characters, shape]; rfl) digit back, characters]
  simp [ofIso?, year]

/-- A midnight is read back from the text of its day. -/
theorem read_isoText_midnight (midnight : moment.isMidnight = true) :
    Moment.read moment.date.isoText = .ok (some moment) := by
  simp only [isMidnight, Bool.and_eq_true, beq_iff_eq] at midnight
  obtain ⟨⟨⟨hour, minute⟩, second⟩, whole⟩ := midnight
  have made : ofFields? moment.date 0 0 0 0 = some moment := by
    have fields := ofFields?_eq moment
    rwa [hour, minute, second, whole] at fields
  have back : Stops Text.isBlank (moment.date.isoText ++ "").toList.reverse := by
    simpa [Day.isoText] using stops_isBlank_zeroPadded 2 moment.date.day _
  have day : ofIso? (moment.date.isoText.toList ++ "".toList) = ofFields? moment.date 0 0 0 0 :=
    ofIso?_isoText moment.date (by simp) rfl
  have read := read_isoText moment.date back
  rw [day, made, String.append_empty] at read
  simpa [wholeSecond_eq moment whole] using read

/-! Moments that are read are of whole seconds. -/

variable {moment}

theorem microsecond_of_ofFields? {date : Day} {hour minute second microsecond : Nat}
    (made : ofFields? date hour minute second microsecond = some moment) :
    moment.microsecond = microsecond := by
  unfold ofFields? at made
  split at made
  · obtain rfl := Option.some.inj made
    rfl
  · simp at made

theorem microsecond_of_ofDialect {arguments : List (List Nat)}
    (read : ofDialect arguments = .ok (some moment)) : moment.microsecond = 0 := by
  unfold ofDialect at read
  split at read
  · simp at read
  · split at read
    · next year month day clock _ =>
        dsimp only at read
        split at read
        · simp at read
        · simp only [Except.ok.injEq, Option.bind_eq_bind, Option.bind_eq_some_iff] at read
          obtain ⟨date, -, made⟩ := read
          split at made
          · exact microsecond_of_ofFields? made
          · obtain rfl := Option.some.inj made
            rfl
    · simp at read

theorem microsecond_of_read {content : String} (read : Moment.read content = .ok (some moment)) :
    moment.microsecond = 0 := by
  simp only [Moment.read] at read
  split at read
  · exact microsecond_of_ofDialect read
  · simp only [Except.ok.injEq, Option.map_eq_some_iff] at read
    obtain ⟨found, -, rfl⟩ := read
    rfl

end GridQuery.Moment

import GridQuery.Proofs.Location.RoundTrip

/-!
# The rectangles that ranges are

The columns of a range that is read are in order. Its rows are those that are written, which
may begin with row zero, where there are no cells, or end above the first: then alone is the
range not a rectangle.
-/

namespace GridQuery.Location

/-- A rectangle with cells in it, counted from row one. -/
structure IsRectangle (location : Location) : Prop where
  counted : 1 ≤ location.firstRow
  columns : ∀ last ∈ location.lastColumn, columnIndex location.firstColumn ≤ columnIndex last
  rows : ∀ last ∈ location.lastRow, location.firstRow ≤ last

/-- The first row is not written with zeros alone, nor the last with a number below it. -/
structure RowsInOrder (first : Corner) (last : Option Corner) : Prop where
  counted : first.digits ≠ [] → ∃ digit ∈ first.digits, digit ≠ '0'
  ordered : ∀ corner ∈ last, corner.digits ≠ [] →
    first.row?.getD 1 ≤ Nat.ofDigitChars 10 corner.digits 0

/-- Digits are worth nothing just if they are zeros and follow on nothing. -/
theorem ofDigitChars_eq_zero_iff {digits : List Char}
    (decimal : ∀ digit ∈ digits, digit.isDigit = true) (start : Nat) :
    Nat.ofDigitChars 10 digits start = 0 ↔ start = 0 ∧ ∀ digit ∈ digits, digit = '0' := by
  induction digits generalizing start with
  | nil => simp
  | cons digit digits inductionHypothesis =>
      have later := inductionHypothesis fun other among =>
        decimal other (List.mem_cons_of_mem digit among)
      have bounds := Char.isDigit_iff_toNat.mp (decimal digit List.mem_cons_self)
      have zero : digit.toNat - '0'.toNat = 0 ↔ digit = '0' := by
        constructor
        · intro none
          apply Char.toNat_inj.mp
          simp only [Char.reduceToNat] at bounds none ⊢
          omega
        · rintro rfl
          rfl
      have shifted : 10 * start = 0 ↔ start = 0 := by omega
      simp only [Nat.ofDigitChars_cons, later, Nat.add_eq_zero_iff, zero, shifted,
        List.forall_mem_cons, and_assoc]

/-- A corner is on a row from one on unless it is written with zeros alone. -/
theorem Corner.row?_pos_iff (written : Corner) :
    1 ≤ written.row?.getD 1 ↔
      (written.digits ≠ [] → ∃ digit ∈ written.digits, digit ≠ '0') := by
  by_cases none : written.digits = []
  · simp [row?, none]
  · have zero := ofDigitChars_eq_zero_iff written.decimal 0
    simp only [true_and] at zero
    simp [row?, none, Nat.one_le_iff_ne_zero, zero]

theorem isRectangle_location {written : RangeText} (readable : written.IsReadable)
    (spreadsheet : String) :
    (written.location spreadsheet).IsRectangle ↔ RowsInOrder written.first written.last := by
  constructor
  · intro rectangle
    refine ⟨written.first.row?_pos_iff.mp rectangle.counted, ?_⟩
    intro last final some
    apply rectangle.rows
    simp [RangeText.location, Option.mem_def.mp final, Corner.row?, some]
  · intro inOrder
    refine ⟨written.first.row?_pos_iff.mpr inOrder.counted, ?_, ?_⟩
    · intro column final
      obtain ⟨last, placed, rfl⟩ := Option.map_eq_some_iff.mp (Option.mem_def.mp final)
      exact readable.columns last placed
    · intro row final
      obtain ⟨last, placed, found⟩ := Option.bind_eq_some_iff.mp (Option.mem_def.mp final)
      simp only [Corner.row?, Option.ite_none_left_eq_some, Option.some.injEq] at found
      obtain ⟨some, rfl⟩ := found
      exact inOrder.ordered last placed some

/-- The locations that are accepted: those of ranges of a spreadsheet, and those of further
ranges of a location. -/
def IsAccepted (range : String) (location : Location) : Prop :=
  (∃ text, parse text range = .ok location) ∨ ∃ base : Location, base.withRange range = .ok location

theorem exists_of_isAccepted {range : String} {location : Location}
    (accepted : IsAccepted range location) :
    ∃ given written : RangeText, (Text.trim range).toList = given.text ∧
      written.first = given.first ∧ written.last = given.last ∧ written.IsReadable ∧
      ∃ spreadsheet, location = written.location spreadsheet := by
  rcases accepted with ⟨text, read⟩ | ⟨base, read⟩
  · obtain ⟨identifier, -, owned⟩ := exists_of_parse read
    obtain ⟨written, shape, readable, rfl⟩ := ofRange_eq_ok_iff.mp owned
    exact ⟨written, written, shape, rfl, rfl, readable, identifier, rfl⟩
  · obtain ⟨given, written, shape, first, last, -, readable, rfl⟩ := exists_of_withRange read
    exact ⟨given, written, shape, first, last, readable, base.spreadsheet, rfl⟩

/-- An accepted range is written as one, with the columns in order, and is a rectangle just if
the rows are written in order too. -/
theorem isRectangle_iff_rowsInOrder {range : String} {location : Location}
    (accepted : IsAccepted range location) :
    ∃ written : RangeText, (Text.trim range).toList = written.text ∧
      (∀ last ∈ location.lastColumn,
        columnIndex location.firstColumn ≤ columnIndex last) ∧
      (location.IsRectangle ↔ RowsInOrder written.first written.last) := by
  obtain ⟨given, written, shape, first, last, readable, spreadsheet, rfl⟩ :=
    exists_of_isAccepted accepted
  refine ⟨given, shape, ?_, ?_⟩
  · intro column final
    obtain ⟨corner, placed, rfl⟩ := Option.map_eq_some_iff.mp (Option.mem_def.mp final)
    exact readable.columns corner placed
  · rw [← first, ← last]
    exact isRectangle_location readable spreadsheet

theorem ledgerRange_rows :
    parse ledgerId " B2:c9" = .ok ⟨ledgerId, "B2:c9", "", "B", some "C", 2, some 9⟩ ∧
      ∃ written : RangeText, (Text.trim " B2:c9").toList = written.text ∧
        (∀ last ∈ some "C", columnIndex "B" ≤ columnIndex last) ∧
        (IsRectangle ⟨ledgerId, "B2:c9", "", "B", some "C", 2, some 9⟩ ↔
          RowsInOrder written.first written.last) := by
  have read : parse ledgerId " B2:c9" =
      .ok ⟨ledgerId, "B2:c9", "", "B", some "C", 2, some 9⟩ := by rfl
  exact ⟨read, isRectangle_iff_rowsInOrder (.inl ⟨ledgerId, read⟩)⟩

/-- Rows that are written from below are accepted, and so is row zero. -/
theorem upsideDown_not_isRectangle :
    (parse ledgerId "A10:B2" = .ok ⟨ledgerId, "A10:B2", "", "A", some "B", 10, some 2⟩ ∧
      ¬ IsRectangle ⟨ledgerId, "A10:B2", "", "A", some "B", 10, some 2⟩) ∧
    (parse ledgerId "Sheet1!A0:B0" =
        .ok ⟨ledgerId, "Sheet1!A0:B0", "Sheet1", "A", some "B", 0, some 0⟩ ∧
      ¬ IsRectangle ⟨ledgerId, "Sheet1!A0:B0", "Sheet1", "A", some "B", 0, some 0⟩) := by
  refine ⟨⟨by rfl, fun rectangle => ?_⟩, ⟨by rfl, fun rectangle => ?_⟩⟩
  · have inOrder : 10 ≤ 2 := rectangle.rows 2 rfl
    omega
  · have counted : 1 ≤ 0 := rectangle.counted
    omega

end GridQuery.Location

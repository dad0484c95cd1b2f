import GridQuery.Proofs.Failures
import GridQuery.Proofs.Location.CellReference
import GridQuery.Proofs.Statement.DigitRuns

/-!
# Why a range is refused

A range that cannot be used is refused as such, but for one whose row has more digits than a
numeral may have: there the reading of the number stops with its own fault.
-/

namespace GridQuery.Location

variable {digits : List Char}

/-- The refusal of a range: it is not valid, or a run of its digits is too long. -/
def IsRefusal (range : String) (error : Error) : Prop :=
  (∃ cause, error = .invalid cause) ∨
    error = .data .notNumeral ∧ ¬ ShortRuns range.toList

theorem failsOnly_rowNumber {range : String} (inside : digits <:+: range.toList)
    (all : ∀ digit ∈ digits, Char.isDigit digit = true) :
    FailsOnly (IsRefusal range) (rowNumber digits) := by
  rw [rowNumber]
  split
  · exact FailsOnly.ok _
  · split
    · next long =>
        refine FailsOnly.error (.inr ⟨rfl, fun short => ?_⟩)
        have limited := short digits inside fun digit among => by
          rw [Text.isDigit, Text.digitValue?_of_isDigit (all digit among)]
          rfl
        omega
    · exact FailsOnly.ok _

theorem isInfix_first (written : RangeText) : written.first.digits <:+: written.text := by
  refine ⟨written.sheet.text ++ written.first.letters, lastText written.last, ?_⟩
  simp [RangeText.text, Corner.text]

theorem isInfix_last {written : RangeText} {last : Corner} (final : written.last = some last) :
    last.digits <:+: written.text := by
  refine ⟨written.sheet.text ++ (written.first.text ++ ':' :: last.letters), [], ?_⟩
  simp [RangeText.text, final, lastText, Corner.text]

/-- What a range is refused with. -/
theorem failsOnly_ofRange (spreadsheet range : String) :
    FailsOnly (IsRefusal range) (ofRange spreadsheet range) := by
  by_cases shaped : ∃ written : RangeText, (Text.trim range).toList = written.text
  · obtain ⟨written, shape⟩ := shaped
    have inside : written.text <:+: range.toList := by
      rw [← shape, Text.trim, String.toList_ofList]
      exact isInfix_trimList range.toList
    have onFirst : FailsOnly (IsRefusal range) (rowNumber written.first.digits) :=
      failsOnly_rowNumber ((isInfix_first written).trans inside) written.first.decimal
    have onLast : FailsOnly (IsRefusal range)
        (rowNumber ((written.last.map (·.digits)).getD [])) := by
      cases final : written.last with
      | none => exact FailsOnly.ok _
      | some last => exact failsOnly_rowNumber ((isInfix_last final).trans inside) last.decimal
    rw [ofRange_of_written shape]
    apply FailsOnly.ite
    · exact FailsOnly.error (.inl ⟨_, rfl⟩)
    · exact onFirst.bind fun _ _ => onLast.bind fun _ _ => FailsOnly.pure _
  · obtain ⟨cause, refused⟩ := ofRange_of_unwritten shaped
    rw [refused]
    exact FailsOnly.error (.inl ⟨cause, rfl⟩)

/-- The reference of a cell whose row has too many digits is refused for that. -/
theorem ofRange_cell_eq_error (location : Location) (spreadsheet : String) {column : String}
    {row : Nat} (upper : ∀ letter ∈ column.toList, letter.isUpper = true)
    (nonempty : column.toList ≠ []) (long : Numeral.digitLimit < digitCount row) :
    ofRange spreadsheet (location.cell column row) = .error (.data .notNumeral) := by
  have tooLong : rowNumber (Nat.toDigits 10 row) = .error (.data .notNumeral) := by
    have some : Nat.toDigits 10 row ≠ [] := by simp
    rw [digitCount] at long
    simp [rowNumber, some, long]
  obtain ⟨sheet, -, shape, -⟩ := exists_cellText nonempty upper location
  rw [ofRange_of_written shape, if_neg (by simp)]
  simp only [Corner.ofCell, tooLong]
  rfl

end GridQuery.Location

import GridQuery.Proofs.Location.Reading

/-!
# References to single cells

A cell's reference, written on the sheet of a location, is read back as that sheet, column
and row, whatever characters the sheet's name has.
-/

namespace GridQuery.Location

/-- A column and a row one after the other, as a cell's reference has them. -/
def cornerText (column : String) (row : Nat) : List Char :=
  column.toList ++ Nat.toDigits 10 row

variable {column : String} {row : Nat}

theorem isSheetChar_of_mem_cornerText
    (upper : ∀ letter ∈ column.toList, letter.isUpper = true) {character : Char}
    (membership : character ∈ cornerText column row) : isSheetChar character = true := by
  have alphanumeric : character.isAlphanum = true := by
    rcases List.mem_append.mp membership with letter | digit
    · exact isAlphanum_of_isUpper (upper character letter)
    · exact isAlphanum_of_isDigit (isDigit_of_mem_toDigits digit)
  simp [isSheetChar, alphanumeric]

/-- The corner that a column of capital letters and a row make. -/
def Corner.ofCell (column : String) (row : Nat) (nonempty : column.toList ≠ [])
    (upper : ∀ letter ∈ column.toList, letter.isUpper = true) : Corner where
  letters := column.toList
  digits := Nat.toDigits 10 row
  nonempty := nonempty
  alphabetic letter among := isAlpha_of_isUpper (upper letter among)
  decimal _ among := isDigit_of_mem_toDigits among

section Cell

variable (nonempty : column.toList ≠ [])
  (upper : ∀ letter ∈ column.toList, letter.isUpper = true)

theorem Corner.column_ofCell : (ofCell column row nonempty upper).column = column := by
  have capitals : column.toList.map Char.toUpper = column.toList :=
    (List.map_congr_left fun letter among =>
      toUpper_of_isUpper (upper letter among)).trans (List.map_id column.toList)
  rw [Corner.column, ofCell, capitals, String.ofList_toList]

theorem Corner.row?_ofCell : (ofCell column row nonempty upper).row? = some row := by
  have some : Nat.toDigits 10 row ≠ [] := by simp
  rw [row?, ofCell, if_neg some, Nat.ofDigitChars_ten_toDigits]

/-- The reference of a cell is written with the sheet in front, and without blanks around. -/
theorem exists_cellText (location : Location) :
    ∃ sheet : SheetPart, sheet.name = location.sheet.toList ∧
      (Text.trim (location.cell column row)).toList =
        RangeText.text ⟨sheet, Corner.ofCell column row nonempty upper, none⟩ ∧
      location.cell column row =
        String.ofList (RangeText.text ⟨sheet, Corner.ofCell column row nonempty upper, none⟩) := by
  obtain ⟨sheet, name, front, inFront⟩ := exists_onSheet location
  have text : (location.cell column row).toList =
      RangeText.text ⟨sheet, Corner.ofCell column row nonempty upper, none⟩ := by
    rw [cell, inFront]
    simp [RangeText.text, lastText, Corner.text, Corner.ofCell]
  refine ⟨sheet, name, ?_, ?_⟩
  · rw [Text.trim, String.toList_ofList, text]
    exact trimList_text front
  · rw [← text, String.ofList_toList]

end Cell

/-- A cell's reference is read as the cell on the location's sheet. -/
theorem ofRange_cell (location : Location) (spreadsheet : String)
    (upper : ∀ letter ∈ column.toList, letter.isUpper = true)
    (nonempty : column.toList ≠ []) (written : digitCount row ≤ Numeral.digitLimit) :
    ofRange spreadsheet (location.cell column row) =
      .ok ⟨spreadsheet, location.cell column row, location.sheet, column, none, row, none⟩ := by
  obtain ⟨sheet, name, shape, text⟩ := exists_cellText nonempty upper location
  refine (ofRange_text shape).mpr ⟨⟨by simp, written, by simp⟩, ?_⟩
  rw [RangeText.location, ← text]
  simp [name, Corner.column_ofCell, Corner.row?_ofCell]

end GridQuery.Location

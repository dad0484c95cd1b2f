import GridQuery.Proofs.Location.LongRow
import GridQuery.Proofs.Statement.Lexing

/-!
# Locations read again

The range of a location is a text that is read as that location. A location made from another
one has that one's sheet in front of its range, in quotes where the name needs them, and the
quotes are taken off again.
-/

namespace GridQuery.Location

/-! ### Spreadsheets -/

/-- A text that tells which spreadsheet is meant, by its identifier or its URL. -/
def Names (text identifier : String) : Prop :=
  text ≠ "" ∧ spreadsheetId (Text.trim text) = .ok identifier

theorem parse_of_names {text identifier : String} (names : Names text identifier)
    (range : String) : parse text range = ofRange identifier range := by
  obtain ⟨filled, found⟩ := names
  simp [parse, filled, found]

theorem exists_of_parse {text range : String} {location : Location}
    (read : parse text range = .ok location) :
    ∃ identifier, Names text identifier ∧ ofRange identifier range = .ok location := by
  by_cases empty : text = ""
  · simp [parse, empty] at read
  · cases found : spreadsheetId (Text.trim text) with
    | error cause => simp [parse, empty, found] at read
    | ok identifier =>
        have names : Names text identifier := ⟨empty, found⟩
        rw [parse_of_names names] at read
        exact ⟨identifier, names, read⟩

/-- The locations of a spreadsheet: that of a range, and those of further ranges, each made
from a location that there is. -/
inductive IsReached (text : String) : Location → Prop
  | parsed {range : String} {location : Location}
      (read : parse text range = .ok location) : IsReached text location
  | ranged {range : String} {location other : Location} (reached : IsReached text location)
      (read : location.withRange range = .ok other) : IsReached text other

/-! ### Reading again -/

theorem ofRange_withRange {location other : Location} {range : String}
    (read : location.withRange range = .ok other) :
    ofRange location.spreadsheet other.range = .ok other := by
  obtain ⟨given, written, -, -, -, trimmed, readable, rfl⟩ := exists_of_withRange read
  exact ofRange_ofList_text readable trimmed location.spreadsheet

theorem IsReached.names {text : String} {location : Location} (reached : IsReached text location) :
    Names text location.spreadsheet := by
  induction reached with
  | parsed read =>
      obtain ⟨identifier, names, owned⟩ := exists_of_parse read
      rwa [spreadsheet_of_ofRange owned]
  | ranged reached read inductionHypothesis =>
      obtain ⟨given, written, -, -, -, -, -, rfl⟩ := exists_of_withRange read
      exact inductionHypothesis

/-- A location of a spreadsheet is found again, by any text that tells the spreadsheet: further
ranges of it are read again as the locations that they are, and its cells, if their rows have
no more digits than a numeral may have, as the cells of its sheet. -/
theorem IsReached.parse_again {text : String} {location : Location}
    (reached : IsReached text location) :
    Names text location.spreadsheet ∧
      ∀ again, Names again location.spreadsheet →
        (∀ range other, location.withRange range = .ok other →
          parse again other.range = .ok other) ∧
        ∀ (column : String) (row : Nat), column ≠ "" →
          (∀ letter ∈ column.toList, letter.isUpper = true) →
          digitCount row ≤ Numeral.digitLimit →
          ∃ cell, parse again (location.cell column row) = .ok cell ∧
            cell.sheet = location.sheet ∧ cell.firstColumn = column ∧ cell.firstRow = row ∧
            cell.lastColumn = none := by
  refine ⟨reached.names, fun again names => ⟨?_, ?_⟩⟩
  · intro range other read
    rw [parse_of_names names]
    exact ofRange_withRange read
  · intro column row nonempty upper short
    have letters : column.toList ≠ [] := by simpa using nonempty
    have read := ofRange_cell location location.spreadsheet upper letters short
    rw [parse_of_names names]
    exact ⟨_, read, rfl, rfl, rfl, rfl⟩

def ledgerId : String := "1BxiMVs0XRA5nFMdKvBdBZjgmUUqptlbs74OgvE2upms"

/-- A sheet with quotes and an exclamation mark in its name. -/
def ledger : Location :=
  ⟨ledgerId, "'It''s A1!'!B2:C", "It's A1!", "B", some "C", 2, none⟩

theorem ledger_isReached : IsReached ledgerId ledger := by
  have read : parse ledgerId " 'It''s A1!'!b2:c\n" =
      .ok ⟨ledgerId, "'It''s A1!'!b2:c", "It's A1!", "B", some "C", 2, none⟩ := by rfl
  have further : withRange ⟨ledgerId, "'It''s A1!'!b2:c", "It's A1!", "B", some "C", 2, none⟩
      " B2:C" = .ok ledger := by rfl
  exact .ranged (.parsed read) further

theorem isUpper_F : ∀ letter ∈ "F".toList, letter.isUpper = true :=
  List.all_eq_true.mp (by decide)

theorem ledger_parse_again :
    ledger.withRange "d:e9" =
        .ok ⟨ledgerId, "'It''s A1!'!d:e9", "It's A1!", "D", some "E", 1, some 9⟩ ∧
      parse ledgerId "'It''s A1!'!d:e9" =
        .ok ⟨ledgerId, "'It''s A1!'!d:e9", "It's A1!", "D", some "E", 1, some 9⟩ ∧
      ∃ cell, parse ledgerId (ledger.cell "F" 12) = .ok cell ∧
        cell.sheet = "It's A1!" ∧ cell.firstColumn = "F" ∧ cell.firstRow = 12 ∧
        cell.lastColumn = none := by
  obtain ⟨names, again⟩ := ledger_isReached.parse_again
  obtain ⟨ranges, cells⟩ := again ledgerId names
  have two : digitCount 12 = 2 := by rfl
  have short : digitCount 12 ≤ Numeral.digitLimit := by
    rw [two]
    decide
  have further : ledger.withRange "d:e9" =
      .ok ⟨ledgerId, "'It''s A1!'!d:e9", "It's A1!", "D", some "E", 1, some 9⟩ := by rfl
  exact ⟨further, ranges _ _ further, cells "F" 12 (by decide) isUpper_F short⟩

/-- The cell of a row with more digits than a numeral may have is not read again. -/
theorem ledger_longRow_not_parsed :
    IsReached ledgerId ledger ∧ Names ledgerId ledger.spreadsheet ∧
      parse ledgerId (ledger.cell "F" (10 ^ Numeral.digitLimit)) = .error (.data .notNumeral) := by
  have names := ledger_isReached.names
  refine ⟨ledger_isReached, names, ?_⟩
  rw [parse_of_names names]
  exact ofRange_cell_eq_error ledger ledger.spreadsheet isUpper_F (by decide)
    Statement.digitLimit_lt_digitCount

end GridQuery.Location

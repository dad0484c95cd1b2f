import GridQuery.Proofs.Location.Written

/-!
# What is read as a range

A text is read as a range just if, between blanks, it is written as one whose columns are in
order and whose rows have not too many digits. A further range of a location is read likewise,
and has the location's sheet in front, in quotes where the name needs them.
-/

namespace GridQuery.Location

/-! ### Parts and places -/

variable {spreadsheet range : String} {written : RangeText} {location other : Location}

theorem ofRange_eq_of_parts? {sheet firstDigits : List Char} {firstColumn : String}
    {last : Option (String × List Char)} (filled : range ≠ "")
    (found : parts? (Text.trim range).toList = some (sheet, firstColumn, firstDigits, last)) :
    ofRange spreadsheet range =
      if ∃ corner ∈ last, columnIndex corner.1 < columnIndex firstColumn then
        .error (.invalid (.reversedColumns (Text.trim range)))
      else do
        let firstRow ← rowNumber firstDigits
        let lastRow ← rowNumber ((last.map (·.2)).getD [])
        return ⟨spreadsheet, Text.trim range, String.ofList sheet, firstColumn,
          last.map (·.1), firstRow.getD 1, lastRow⟩ := by
  have some : range.isEmpty = false := by simpa using filled
  simp only [parts?] at found
  unfold ofRange
  rw [some]
  simp only [Bool.false_eq_true, if_false]
  rw [found]
  cases last with
  | none => simp
  | some corner =>
      simp
      rfl

/-- What is not written as a range is not valid as one. -/
theorem ofRange_of_unwritten
    (unwritten : ¬ ∃ written : RangeText, (Text.trim range).toList = written.text) :
    ∃ cause, ofRange spreadsheet range = .error (.invalid cause) := by
  by_cases empty : range = ""
  · rw [empty]
    exact ⟨.missingRange, rfl⟩
  · have filled : range.isEmpty = false := by simpa using empty
    cases missing : parts? (Text.trim range).toList with
    | some parts => exact absurd (exists_of_parts? missing) unwritten
    | none =>
        refine ⟨.badRange (Text.trim range), ?_⟩
        simp only [parts?] at missing
        unfold ofRange
        rw [filled]
        simp only [Bool.false_eq_true, if_false]
        rw [missing]
        rfl

/-- How a range is read as it is written. -/
theorem ofRange_of_written (shape : (Text.trim range).toList = written.text) :
    ofRange spreadsheet range =
      if ∃ last ∈ written.last,
          columnIndex last.column < columnIndex written.first.column then
        .error (.invalid (.reversedColumns (Text.trim range)))
      else do
        let firstRow ← rowNumber written.first.digits
        let lastRow ← rowNumber ((written.last.map (·.digits)).getD [])
        return ⟨spreadsheet, String.ofList written.text, String.ofList written.sheet.name,
          written.first.column, written.last.map (·.column), firstRow.getD 1, lastRow⟩ := by
  have filled : range ≠ "" := by
    rintro rfl
    exact written.text_ne_nil shape.symm
  have parts := parts?_text written
  rw [← shape] at parts
  rw [ofRange_eq_of_parts? filled parts, ← shape, String.ofList_toList]
  have reversed : (∃ corner ∈ written.last.map fun last => (last.column, last.digits),
      columnIndex corner.1 < columnIndex written.first.column) ↔
        ∃ last ∈ written.last, columnIndex last.column < columnIndex written.first.column := by
    simp
  simp only [reversed, Option.map_map, Function.comp_def]

theorem rowNumber_lastDigits {last : Option Corner} {row : Option Nat} :
    rowNumber ((last.map (·.digits)).getD []) = .ok row ↔
      (∀ corner ∈ last, corner.digits.length ≤ Numeral.digitLimit) ∧
        last.bind (·.row?) = row := by
  cases last with
  | none => simp [rowNumber]
  | some corner => simp [rowNumber_digits]

/-- A range is read as the place that its parts stand for, if it can be read. -/
theorem ofRange_text (shape : (Text.trim range).toList = written.text) :
    ofRange spreadsheet range = .ok location ↔
      written.IsReadable ∧ location = written.location spreadsheet := by
  rw [ofRange_of_written shape]
  by_cases reversed : ∃ last ∈ written.last,
      columnIndex last.column < columnIndex written.first.column
  · have refused : ¬ written.IsReadable := by
      intro readable
      obtain ⟨last, final, before⟩ := reversed
      exact absurd (readable.columns last final) (Int.not_le.mpr before)
    simp only [if_pos reversed, refused, reduceCtorEq, false_and]
  · have ordered : ∀ last ∈ written.last,
        columnIndex written.first.column ≤ columnIndex last.column := by
      intro last final
      refine Int.not_lt.mp fun before => ?_
      exact reversed ⟨last, final, before⟩
    have inOrder : written.IsReadable ↔
        written.first.digits.length ≤ Numeral.digitLimit ∧
          ∀ last ∈ written.last, last.digits.length ≤ Numeral.digitLimit :=
      ⟨fun readable => ⟨readable.firstRow, readable.lastRow⟩,
        fun ⟨first, last⟩ => ⟨ordered, first, last⟩⟩
    simp only [if_neg reversed, bind_eq_ok_iff, rowNumber_digits, rowNumber_lastDigits, inOrder,
      pure_eq_ok, Except.ok.injEq]
    constructor
    · rintro ⟨_, ⟨first, rfl⟩, _, ⟨last, rfl⟩, rfl⟩
      exact ⟨⟨first, last⟩, rfl⟩
    · rintro ⟨⟨first, last⟩, rfl⟩
      exact ⟨_, ⟨first, rfl⟩, _, ⟨last, rfl⟩, rfl⟩

/-- A text is read as a range just if, between blanks, it is written as one that can be read,
and then as the place that its parts stand for. -/
theorem ofRange_eq_ok_iff :
    ofRange spreadsheet range = .ok location ↔
      ∃ written : RangeText, (Text.trim range).toList = written.text ∧ written.IsReadable ∧
        location = written.location spreadsheet := by
  constructor
  · intro read
    by_cases shaped : ∃ written : RangeText, (Text.trim range).toList = written.text
    · obtain ⟨written, shape⟩ := shaped
      exact ⟨written, shape, (ofRange_text shape).mp read⟩
    · obtain ⟨cause, refused⟩ := ofRange_of_unwritten shaped
      cases refused.symm.trans read
  · rintro ⟨written, shape, readable⟩
    exact (ofRange_text shape).mpr readable

/-! ### Trimmed ranges -/

theorem stops_trimList (characters : List Char) :
    Stops Text.isBlank (Text.trimList characters) := by
  obtain ⟨back, split⟩ := dropWhile_isBlank_eq characters
  have stops := stops_dropWhile Text.isBlank characters
  intro character head
  apply stops
  rw [split, List.head?_append, Option.mem_def.mp head]
  rfl

theorem stops_reverse_corners (before : List Char) (first : Corner) (last : Option Corner) :
    Stops Text.isBlank (before ++ (first.text ++ lastText last)).reverse := by
  have ends (front : List Char) (written : Corner) :
      Stops Text.isBlank (front ++ written.text).reverse := by
    rw [List.reverse_append]
    refine stops_append (stops_of_alphanumeric ?_ ?_) ?_
    · exact fun character => isBlank_of_isAlphanum
    · exact fun character among => Corner.isAlphanum_of_mem_text (List.mem_reverse.mp among)
    · simp [written.text_ne_nil]
  cases last with
  | none => simpa [lastText] using ends before first
  | some last => simpa [lastText] using ends (before ++ (first.text ++ [':'])) last

/-- A range whose sheet does not begin with a blank has no blanks at its ends. -/
theorem trimList_text (front : Stops Text.isBlank written.sheet.text) :
    Text.trimList written.text = written.text := by
  have corners : Stops Text.isBlank (written.first.text ++ lastText written.last) := by
    refine stops_append (stops_of_alphanumeric ?_ ?_) written.first.text_ne_nil
    · exact fun character => isBlank_of_isAlphanum
    · exact fun character => Corner.isAlphanum_of_mem_text
  refine trimList_of_stops ?_ (stops_reverse_corners _ _ _)
  by_cases unnamed : written.sheet.text = []
  · rwa [RangeText.text, unnamed]
  · exact stops_append front unnamed

theorem trimList_text_of_trim (shape : (Text.trim range).toList = written.text) :
    Text.trimList written.text = written.text := by
  have stops := stops_trimList range.toList
  rw [Text.trim, String.toList_ofList] at shape
  rw [shape] at stops
  apply trimList_text
  intro character head
  apply stops
  rw [RangeText.text, List.head?_append, Option.mem_def.mp head]
  rfl

/-! ### Sheets in front -/

/-- The name of a location's sheet stands in front of a reference as one does that is read,
and not with a blank at its beginning. -/
theorem exists_onSheet (location : Location) :
    ∃ sheet : SheetPart, sheet.name = location.sheet.toList ∧
      Stops Text.isBlank sheet.text ∧
      ∀ reference, (location.onSheet reference).toList = sheet.text ++ reference.toList := by
  by_cases unnamed : location.sheet = ""
  · exact ⟨.unnamed, by simp [SheetPart.name, unnamed], stops_nil _,
      by simp [onSheet, unnamed, SheetPart.text]⟩
  · have named : location.sheet.toList ≠ [] := by simpa using unnamed
    by_cases word : location.sheet.toList.all fun character =>
        character.isAlphanum || character == '_'
    · have letters : ∀ character ∈ location.sheet.toList,
          character.isAlphanum = true ∨ character = '_' := by simpa using word
      refine ⟨.plain location.sheet.toList named ?_, rfl, ?_, ?_⟩
      · intro character among
        rcases letters character among with alphanumeric | rfl
        · simp [isSheetChar, alphanumeric]
        · decide
      · refine stops_append ?_ named
        intro character head
        rcases letters character (List.mem_of_mem_head? head) with alphanumeric | rfl
        · exact isBlank_of_isAlphanum alphanumeric
        · decide
      · intro reference
        simp [onSheet, unnamed, sheetQualifier, word, SheetPart.text]
    · refine ⟨.quoted location.sheet.toList named, rfl, ?_, ?_⟩
      · rw [SheetPart.text, stops_cons]
        decide
      · intro reference
        simp only [onSheet, sheetQualifier, word]
        simp [unnamed, toList_replaceChar_quote, SheetPart.text]

/-- Another range of a spreadsheet is read from a text without blanks at its ends, with the
corners that were given. -/
theorem exists_of_withRange (read : location.withRange range = .ok other) :
    ∃ given written : RangeText, (Text.trim range).toList = given.text ∧
      written.first = given.first ∧ written.last = given.last ∧
      Text.trimList written.text = written.text ∧ written.IsReadable ∧
      other = written.location location.spreadsheet := by
  rw [withRange, bind_eq_ok_iff] at read
  obtain ⟨own, owned, placed⟩ := read
  obtain ⟨given, shape, readable, rfl⟩ := ofRange_eq_ok_iff.mp owned
  by_cases inherits : (given.location location.spreadsheet).sheet.isEmpty &&
      !location.sheet.isEmpty
  · rw [if_pos inherits] at placed
    cases placed
    obtain ⟨sheet, name, front, inFront⟩ := exists_onSheet location
    have unnamed : given.sheet = .unnamed := by
      apply SheetPart.eq_unnamed_of_name
      simpa [RangeText.location] using (Bool.and_eq_true_iff.mp inherits).1
    refine ⟨given, ⟨sheet, given.first, given.last⟩, shape, rfl, rfl, trimList_text front,
      ⟨readable.columns, readable.firstRow, readable.lastRow⟩, ?_⟩
    have text : location.onSheet (String.ofList given.text) =
        String.ofList (RangeText.text ⟨sheet, given.first, given.last⟩) := by
      rw [← String.toList_inj, inFront]
      simp [RangeText.text, unnamed, SheetPart.text]
    simp [RangeText.location, text, name]
  · rw [if_neg inherits] at placed
    cases placed
    exact ⟨given, given, shape, rfl, rfl, trimList_text_of_trim shape, readable, rfl⟩

theorem ofRange_ofList_text (readable : written.IsReadable)
    (trimmed : Text.trimList written.text = written.text) (spreadsheet : String) :
    ofRange spreadsheet (String.ofList written.text) = .ok (written.location spreadsheet) := by
  refine ofRange_eq_ok_iff.mpr ⟨written, ?_, readable, rfl⟩
  rw [Text.trim, String.toList_ofList, String.toList_ofList, trimmed]

theorem spreadsheet_of_ofRange
    (read : ofRange spreadsheet range = .ok location) : location.spreadsheet = spreadsheet := by
  obtain ⟨written, -, -, rfl⟩ := ofRange_eq_ok_iff.mp read
  rfl

end GridQuery.Location

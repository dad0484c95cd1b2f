import GridQuery.Proofs.Fallible
import GridQuery.Proofs.Location.ColumnCode
import GridQuery.Proofs.Numeral

/-!
# Ranges as they are written

A range is written as the name of a sheet with an exclamation mark behind it, or no name, then
a corner, and perhaps a colon and a second corner. What is written so has these parts and no
others, and whatever has parts is written so.
-/

namespace GridQuery.Location

/-! ### Letters and digits -/

theorem isAlpha_of_isUpper {letter : Char} (upper : letter.isUpper = true) :
    letter.isAlpha = true := by
  simp [Char.isAlpha, upper]

theorem isAlphanum_of_isUpper {letter : Char} (upper : letter.isUpper = true) :
    letter.isAlphanum = true := by
  simp [Char.isAlphanum, isAlpha_of_isUpper upper]

theorem isAlphanum_of_isDigit {digit : Char} (isDigit : digit.isDigit = true) :
    digit.isAlphanum = true := by
  simp [Char.isAlphanum, isDigit]

theorem isAlpha_of_isDigit {digit : Char} (isDigit : digit.isDigit = true) :
    digit.isAlpha = false := by
  have bounds := Char.isDigit_iff_toNat.mp isDigit
  simp only [Char.reduceToNat] at bounds
  simp [Char.isAlpha, Char.isUpper, Char.isLower, UInt32.le_iff_toNat_le]
  omega

theorem toUpper_of_isUpper {letter : Char} (upper : letter.isUpper = true) :
    letter.toUpper = letter := by
  have bounds : 65 ≤ letter.toNat ∧ letter.toNat ≤ 90 := by
    simpa [Char.isUpper, UInt32.le_iff_toNat_le] using upper
  have notLower : ¬ (97 ≤ letter.val.toNat ∧ letter.val.toNat ≤ 122) := by
    have same : letter.val.toNat = letter.toNat := rfl
    omega
  simp [Char.toUpper, UInt32.le_iff_toNat_le]
  omega

/-! ### Corners -/

/-- A corner of a range: the letters of a column, and the digits of a row or none. -/
structure Corner where
  letters : List Char
  digits : List Char
  nonempty : letters ≠ []
  alphabetic : ∀ letter ∈ letters, letter.isAlpha = true
  decimal : ∀ digit ∈ digits, digit.isDigit = true

namespace Corner

def text (written : Corner) : List Char :=
  written.letters ++ written.digits

/-- The code of the column, in capital letters. -/
def column (written : Corner) : String :=
  String.ofList (written.letters.map Char.toUpper)

/-- The number of the row, if it has digits. -/
def row? (written : Corner) : Option Nat :=
  if written.digits = [] then none else some (Nat.ofDigitChars 10 written.digits 0)

theorem text_ne_nil (written : Corner) : written.text ≠ [] := by
  intro empty
  exact written.nonempty (List.append_eq_nil_iff.mp empty).1

theorem isAlphanum_of_mem_text {written : Corner} {character : Char}
    (among : character ∈ written.text) : character.isAlphanum = true := by
  rcases List.mem_append.mp among with letter | digit
  · simp [Char.isAlphanum, written.alphabetic character letter]
  · exact isAlphanum_of_isDigit (written.decimal character digit)

end Corner

/-- A second corner with the colon before it. -/
def lastText : Option Corner → List Char
  | none => []
  | some written => ':' :: written.text

theorem stops_isAlpha_digits (written : Corner) : Stops Char.isAlpha written.digits := by
  intro digit head
  apply isAlpha_of_isDigit
  exact written.decimal digit (List.mem_of_mem_head? head)

/-- A corner is read up to a character that cannot belong to it. -/
theorem corner_text {written : Corner} {rest : List Char} (letter : Stops Char.isAlpha rest)
    (digit : Stops Char.isDigit rest) :
    corner (written.text ++ rest) = some (written.column, written.digits, rest) := by
  have stops : Stops Char.isAlpha (written.digits ++ rest) := by
    by_cases none : written.digits = []
    · rwa [none]
    · exact stops_append (stops_isAlpha_digits written) none
  have letters : (written.text ++ rest).takeWhile Char.isAlpha = written.letters := by
    rw [Corner.text, List.append_assoc]
    exact takeWhile_append_stops written.alphabetic stops
  have left : (written.text ++ rest).drop written.letters.length = written.digits ++ rest := by
    simp [Corner.text]
  simp [corner, letters, left, written.nonempty, Corner.column,
    takeWhile_append_stops written.decimal digit, dropWhile_append_stops written.decimal digit]

/-- What is read as a corner is written as one. -/
theorem exists_of_corner {characters digits rest : List Char} {column : String}
    (found : corner characters = some (column, digits, rest)) :
    ∃ written : Corner, characters = written.text ++ rest ∧ written.column = column ∧
      written.digits = digits := by
  simp only [corner, Option.ite_none_left_eq_some, Option.some.injEq, Prod.mk.injEq,
    List.isEmpty_iff] at found
  obtain ⟨some, rfl, rfl, rfl⟩ := found
  refine ⟨⟨characters.takeWhile Char.isAlpha, _, some, ?_, ?_⟩, ?_, rfl, rfl⟩
  · exact List.all_eq_true.mp List.all_takeWhile
  · exact List.all_eq_true.mp List.all_takeWhile
  · rw [Corner.text, List.append_assoc, List.takeWhile_append_dropWhile, drop_length_takeWhile,
      List.takeWhile_append_dropWhile]

theorem lastCorner_lastText (written : Option Corner) :
    lastCorner (lastText written) =
      some (written.map fun corner => (corner.column, corner.digits)) := by
  cases written with
  | none => rfl
  | some written =>
      have read : corner (written.text ++ []) = some (written.column, written.digits, []) :=
        corner_text (stops_nil Char.isAlpha) (stops_nil Char.isDigit)
      rw [List.append_nil] at read
      simp [lastText, lastCorner, read]

theorem exists_of_lastCorner {characters : List Char} {last : Option (String × List Char)}
    (found : lastCorner characters = some last) :
    ∃ written : Option Corner, characters = lastText written ∧
      (written.map fun corner => (corner.column, corner.digits)) = last := by
  unfold lastCorner at found
  split at found
  · cases found
    exact ⟨none, rfl, rfl⟩
  · next rest =>
      split at found
      · next column digits read =>
          cases found
          obtain ⟨written, text, rfl, rfl⟩ := exists_of_corner read
          refine ⟨some written, ?_, rfl⟩
          rw [text, List.append_nil, lastText]
      · cases found
  · cases found

theorem rowNumber_digits {written : Corner} {row : Option Nat} :
    rowNumber written.digits = .ok row ↔
      written.digits.length ≤ Numeral.digitLimit ∧ written.row? = row := by
  by_cases none : written.digits = []
  · simp [rowNumber, Corner.row?, none]
  · by_cases long : Numeral.digitLimit < written.digits.length
    · simp [rowNumber, none, long]
    · have read : written.digits.filterMap Text.digitValue? = digitValues written.digits :=
        filterMap_digitValue? written.decimal
      simp [rowNumber, Corner.row?, none, long, read, ofDigits_digitValues, Nat.not_lt.mp long]

/-! ### Sheets -/

/-- A sheet's name as it stands between quotes. -/
def doubledQuotes (name : List Char) : List Char :=
  name.flatMap fun character => if character == '\'' then ['\'', '\''] else [character]

theorem doubledQuotes_cons_quote (name : List Char) :
    doubledQuotes ('\'' :: name) = '\'' :: '\'' :: doubledQuotes name := rfl

theorem doubledQuotes_cons_of_ne {character : Char} (other : character ≠ '\'')
    (name : List Char) : doubledQuotes (character :: name) = character :: doubledQuotes name := by
  simp [doubledQuotes, other]

theorem toList_replaceChar_quote (name : String) :
    (Text.replaceChar '\'' ['\'', '\''] name).toList = doubledQuotes name.toList := by
  simp [Text.replaceChar, doubledQuotes]

/-- The inside of a quoted name is read back up to its closing quote. -/
theorem quotedSheet_doubledQuotes (name rest : List Char) :
    quotedSheet (doubledQuotes name ++ '\'' :: '!' :: rest) = some (name, '!' :: rest) := by
  induction name with
  | nil => simp [doubledQuotes, quotedSheet]
  | cons character name inductionHypothesis =>
      by_cases quote : character = '\''
      · subst quote
        simp [doubledQuotes_cons_quote, quotedSheet, inductionHypothesis]
      · obtain ⟨next, later, shape⟩ : ∃ next later,
            doubledQuotes name ++ '\'' :: '!' :: rest = next :: later :=
          List.exists_cons_of_ne_nil (by simp)
        rw [shape] at inductionHypothesis
        rw [doubledQuotes_cons_of_ne quote, List.cons_append, shape]
        simp [quotedSheet, quote, inductionHypothesis]

theorem ne_quote_of_isSheetChar {character : Char} (plain : isSheetChar character = true) :
    character ≠ '\'' := by
  rintro rfl
  simp [isSheetChar] at plain

theorem splitSheet_quoted {name : List Char} (nonempty : name ≠ []) (rest : List Char) :
    splitSheet ('\'' :: (doubledQuotes name ++ '\'' :: '!' :: rest)) = some (name, rest) := by
  obtain ⟨first, later, rfl⟩ := List.exists_cons_of_ne_nil nonempty
  simp [splitSheet, quotedSheet_doubledQuotes]

theorem splitSheet_of_ne_quote {first : Char} (other : first ≠ '\'') (later : List Char) :
    splitSheet (first :: later) =
      match (first :: later).drop ((first :: later).takeWhile isSheetChar).length with
      | '!' :: rest =>
          if ((first :: later).takeWhile isSheetChar).isEmpty then none
          else some ((first :: later).takeWhile isSheetChar, rest)
      | _ => some ([], first :: later) := by
  unfold splitSheet
  split
  · next shape => exact absurd (List.cons.inj shape).1 other
  · rfl

theorem splitSheet_plain {name : List Char} (nonempty : name ≠ [])
    (plain : ∀ character ∈ name, isSheetChar character = true) (rest : List Char) :
    splitSheet (name ++ '!' :: rest) = some (name, rest) := by
  have taken : (name ++ '!' :: rest).takeWhile isSheetChar = name :=
    takeWhile_append_stops plain (by simp; decide)
  obtain ⟨first, later, rfl⟩ := List.exists_cons_of_ne_nil nonempty
  rw [List.cons_append] at taken ⊢
  rw [splitSheet_of_ne_quote (ne_quote_of_isSheetChar (plain first List.mem_cons_self)), taken]
  simp

/-- How a range begins: with no sheet, with the name of a sheet as it is, or with one in
quotes. -/
inductive SheetPart where
  | unnamed
  | plain (name : List Char) (nonempty : name ≠ [])
      (plain : ∀ character ∈ name, isSheetChar character = true)
  | quoted (name : List Char) (nonempty : name ≠ [])

namespace SheetPart

def name : SheetPart → List Char
  | unnamed => []
  | plain name _ _ => name
  | quoted name _ => name

def text : SheetPart → List Char
  | unnamed => []
  | plain name _ _ => name ++ ['!']
  | quoted name _ => '\'' :: (doubledQuotes name ++ ['\'', '!'])

theorem eq_unnamed_of_name {sheet : SheetPart} (empty : sheet.name = []) : sheet = unnamed := by
  cases sheet with
  | unnamed => rfl
  | plain name nonempty _ => exact absurd empty nonempty
  | quoted name nonempty => exact absurd empty nonempty

end SheetPart

/-- The inside of a quoted name is what has its quotes doubled. -/
theorem eq_doubledQuotes_of_quotedSheet {characters name rest : List Char}
    (split : quotedSheet characters = some (name, rest)) :
    characters = doubledQuotes name ++ '\'' :: rest := by
  fun_induction quotedSheet characters generalizing name rest with
  | case1 => cases split
  | case2 =>
      cases split
      rfl
  | case3 => cases split
  | case4 first second later quote doubled inductionHypothesis =>
      obtain ⟨⟨_, _⟩, found, same⟩ := Option.map_eq_some_iff.mp split
      cases same
      rw [inductionHypothesis found, beq_iff_eq.mp quote, beq_iff_eq.mp doubled]
      rfl
  | case5 first second later quote single =>
      cases split
      rw [beq_iff_eq.mp quote]
      rfl
  | case6 first second later other inductionHypothesis =>
      obtain ⟨⟨_, _⟩, found, same⟩ := Option.map_eq_some_iff.mp split
      cases same
      rw [inductionHypothesis found, doubledQuotes_cons_of_ne (by simpa using other)]
      rfl

/-- A sheet is told from what comes after it, which has neither a quote in front nor an
exclamation mark. -/
theorem splitSheet_text (sheet : SheetPart) {rest : List Char} (nonempty : rest ≠ [])
    (quote : Stops (· == '\'') rest) (mark : '!' ∉ rest) :
    splitSheet (sheet.text ++ rest) = some (sheet.name, rest) := by
  cases sheet with
  | unnamed =>
      obtain ⟨first, later, rfl⟩ := List.exists_cons_of_ne_nil nonempty
      rw [SheetPart.text, List.nil_append, splitSheet_of_ne_quote (by simpa using quote)]
      split
      · next after shape =>
          exfalso
          apply mark
          apply List.mem_of_mem_drop
          rw [shape]
          exact List.mem_cons_self
      · rfl
  | plain name nonempty plain =>
      rw [SheetPart.text, List.append_assoc]
      exact splitSheet_plain nonempty plain rest
  | quoted name nonempty =>
      have shape : (SheetPart.quoted name nonempty).text ++ rest =
          '\'' :: (doubledQuotes name ++ '\'' :: '!' :: rest) := by
        simp [SheetPart.text]
      rw [shape]
      exact splitSheet_quoted nonempty rest

theorem exists_of_splitSheet {characters name rest : List Char}
    (split : splitSheet characters = some (name, rest)) :
    ∃ sheet : SheetPart, characters = sheet.text ++ rest ∧ sheet.name = name := by
  unfold splitSheet at split
  split at split
  · next quotedRest =>
      split at split
      · next first name after found =>
          cases split
          refine ⟨.quoted (first :: name) (List.cons_ne_nil first name), ?_, rfl⟩
          rw [eq_doubledQuotes_of_quotedSheet found]
          simp [SheetPart.text]
      · cases split
  · dsimp only at split
    split at split
    · next after shape =>
        split at split
        · cases split
        · next some =>
            cases split
            refine ⟨.plain (characters.takeWhile isSheetChar) (by simpa using some)
              (List.all_eq_true.mp List.all_takeWhile), ?_, rfl⟩
            rw [drop_length_takeWhile] at shape
            have whole := List.takeWhile_append_dropWhile (p := isSheetChar) (l := characters)
            rw [shape] at whole
            simpa [SheetPart.text] using whole.symm
    · cases split
      exact ⟨.unnamed, rfl, rfl⟩

/-! ### Whole ranges -/

/-- A range as it is written. -/
structure RangeText where
  sheet : SheetPart
  first : Corner
  last : Option Corner

namespace RangeText

def text (written : RangeText) : List Char :=
  written.sheet.text ++ (written.first.text ++ lastText written.last)

/-- The place of a spreadsheet that the parts of a range stand for. -/
def location (written : RangeText) (spreadsheet : String) : Location where
  spreadsheet := spreadsheet
  range := String.ofList written.text
  sheet := String.ofList written.sheet.name
  firstColumn := written.first.column
  lastColumn := written.last.map (·.column)
  firstRow := written.first.row?.getD 1
  lastRow := written.last.bind (·.row?)

/-- The second column is not before the first, and no row has too many digits. -/
structure IsReadable (written : RangeText) : Prop where
  columns : ∀ last ∈ written.last, columnIndex written.first.column ≤ columnIndex last.column
  firstRow : written.first.digits.length ≤ Numeral.digitLimit
  lastRow : ∀ last ∈ written.last, last.digits.length ≤ Numeral.digitLimit

theorem text_ne_nil (written : RangeText) : written.text ≠ [] := by
  intro empty
  have corners := (List.append_eq_nil_iff.mp empty).2
  exact written.first.text_ne_nil (List.append_eq_nil_iff.mp corners).1

end RangeText

/-- The parts of a range: its sheet, its first column and row, and its last ones. -/
def parts? (characters : List Char) :
    Option (List Char × String × List Char × Option (String × List Char)) := do
  let (sheet, rest) ← splitSheet characters
  let (firstColumn, firstRow, rest) ← corner rest
  return (sheet, firstColumn, firstRow, ← lastCorner rest)

theorem stops_of_alphanumeric {test : Char → Bool} {characters : List Char}
    (apart : ∀ character, character.isAlphanum = true → test character = false)
    (alphanumeric : ∀ character ∈ characters, character.isAlphanum = true) :
    Stops test characters := by
  intro character head
  apply apart
  exact alphanumeric character (List.mem_of_mem_head? head)

theorem stops_lastText {test : Char → Bool} (colon : test ':' = false)
    (written : Option Corner) : Stops test (lastText written) := by
  cases written with
  | none => exact stops_nil test
  | some written => simpa [lastText] using colon

theorem notMem_corners (first : Corner) (last : Option Corner) :
    '!' ∉ first.text ++ lastText last := by
  have outside (written : Corner) : '!' ∉ written.text := by
    intro among
    have alphanumeric := Corner.isAlphanum_of_mem_text among
    revert alphanumeric
    decide
  cases last with
  | none => simpa [lastText] using outside first
  | some last => simpa [lastText] using ⟨outside first, outside last⟩

/-- What is written as a range has no other parts. -/
theorem parts?_text (written : RangeText) :
    parts? written.text = some (written.sheet.name, written.first.column, written.first.digits,
      written.last.map fun corner => (corner.column, corner.digits)) := by
  have quote : Stops (· == '\'') (written.first.text ++ lastText written.last) := by
    refine stops_append (stops_of_alphanumeric ?_ ?_) written.first.text_ne_nil
    · intro character alphanumeric
      have bounds := toNat_of_isAlphanum alphanumeric
      refine Bool.eq_false_iff.mpr fun same => ?_
      rw [beq_iff_eq.mp same] at bounds
      revert bounds
      decide
    · exact fun character => Corner.isAlphanum_of_mem_text
  have nonempty : written.first.text ++ lastText written.last ≠ [] := by
    simp [written.first.text_ne_nil]
  have sheet : splitSheet written.text =
      some (written.sheet.name, written.first.text ++ lastText written.last) :=
    splitSheet_text written.sheet nonempty quote (notMem_corners written.first written.last)
  have first : corner (written.first.text ++ lastText written.last) =
      some (written.first.column, written.first.digits, lastText written.last) :=
    corner_text (stops_lastText (by decide) _) (stops_lastText (by decide) _)
  simp [parts?, sheet, first, lastCorner_lastText]

/-- What has the parts of a range is written as one. -/
theorem exists_of_parts? {characters sheet firstRow : List Char} {firstColumn : String}
    {last : Option (String × List Char)}
    (found : parts? characters = some (sheet, firstColumn, firstRow, last)) :
    ∃ written : RangeText, characters = written.text := by
  simp only [parts?, Option.bind_eq_bind, Option.bind_eq_some_iff, Option.pure_def,
    Option.some.injEq, Prod.mk.injEq, Prod.exists] at found
  obtain ⟨name, rest, sheeted, column, digits, after, cornered, corners, ended, -⟩ := found
  obtain ⟨sheet, whole, -⟩ := exists_of_splitSheet sheeted
  obtain ⟨first, front, -⟩ := exists_of_corner cornered
  obtain ⟨last, back, -⟩ := exists_of_lastCorner ended
  refine ⟨⟨sheet, first, last⟩, ?_⟩
  rw [RangeText.text, whole, front, back]

end GridQuery.Location

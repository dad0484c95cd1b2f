import GridQuery.Error
import GridQuery.Moment.Reader
import GridQuery.Text.Case

/-!
Locations: a rectangle of cells on one sheet of a spreadsheet, written in A1 notation,
such as `Sheet1!A1:Z1000`, `'My Sheet'!B2:D` or `A:F`.
-/

namespace GridQuery

/-! ### Column codes -/

/-- The place of a column code, counted from zero: `A` is 0, `Z` is 25 and `AA` is 26. -/
def columnIndexOf (letters : List Char) : Int :=
  letters.foldl (fun (index : Int) letter =>
    index * 26 + ((letter.toNat : Int) - 'A'.toNat + 1)) 0 - 1

def columnIndex (letters : String) : Int :=
  columnIndexOf (Text.upper letters).toList

/-- The code whose letters, read as digits from 1 to 26, have the given value; the last
letter comes first. -/
def columnDigits (value : Nat) : List Char :=
  if 0 < value then
    Char.ofNat ('A'.toNat + (value - 1) % 26) :: columnDigits ((value - 1) / 26)
  else []
termination_by value
decreasing_by omega

def columnLetters (index : Nat) : String :=
  String.ofList (columnDigits (index + 1)).reverse

structure Location where
  spreadsheet : String
  /-- The range as it is written. -/
  range : String
  /-- The name of the sheet, empty if the range names none. -/
  sheet : String
  firstColumn : String
  lastColumn : Option String
  firstRow : Nat
  lastRow : Option Nat
  deriving DecidableEq, Repr

namespace Location

/-! ### Spreadsheets -/

def isIdChar (character : Char) : Bool :=
  character.isAlphanum || character == '-' || character == '_'

/-- The first identifier after `/spreadsheets/d/`. -/
def idInUrl : List Char → Option (List Char)
  | [] => none
  | first :: rest =>
      let marker := "/spreadsheets/d/".toList
      let found :=
        if marker.isPrefixOf (first :: rest) then
          ((first :: rest).drop marker.length).takeWhile isIdChar
        else []
      if found.isEmpty then idInUrl rest else some found

/-- The identifier of a spreadsheet from itself or from its URL. An identifier has 20 to
60 characters, and a line break may follow it. -/
def spreadsheetId (value : String) : Except ValidationError String :=
  let characters := value.toList
  match idInUrl characters with
  | some found => .ok (String.ofList found)
  | none =>
      let length := (characters.takeWhile isIdChar).length
      let rest := characters.drop length
      if 20 ≤ length && length ≤ 60 && (rest == [] || rest == ['\n']) then .ok value
      else .error (.badSpreadsheet value)

/-! ### Ranges -/

/-- The inside of a quoted sheet name up to its closing quote, and the characters after
it. A quote in the name is doubled. -/
def quotedSheet : List Char → Option (List Char × List Char)
  | [] => none
  | ['\''] => some ([], [])
  | [_] => none
  | first :: second :: rest =>
      if first == '\'' then
        if second == '\'' then
          (quotedSheet rest).map fun (name, after) => ('\'' :: name, after)
        else some ([], second :: rest)
      else (quotedSheet (second :: rest)).map fun (name, after) => (first :: name, after)

def isSheetChar (character : Char) : Bool :=
  character.isAlphanum || character == '_' || character == ' '

/-- The sheet that a range names, and the characters after its exclamation mark; an empty
name and all characters if it names none. -/
def splitSheet (characters : List Char) : Option (List Char × List Char) :=
  match characters with
  | '\'' :: quotedRest =>
      match quotedSheet quotedRest with
      | some (first :: name, '!' :: rest) => some (first :: name, rest)
      | _ => none
  | _ =>
      let name := characters.takeWhile isSheetChar
      match characters.drop name.length with
      | '!' :: rest => if name.isEmpty then none else some (name, rest)
      | _ => some ([], characters)

/-- A column code in upper case and the digits of a row, if there are any, and what comes
after. -/
def corner (characters : List Char) : Option (String × List Char × List Char) :=
  let letters := characters.takeWhile Char.isAlpha
  let rest := characters.drop letters.length
  if letters.isEmpty then none
  else
    some (String.ofList (letters.map Char.toUpper), rest.takeWhile Char.isDigit,
      rest.dropWhile Char.isDigit)

/-- The number of a row; none if it has no digits. -/
def rowNumber (digits : List Char) : Except Error (Option Nat) :=
  if digits.isEmpty then .ok none
  else if Numeral.digitLimit < digits.length then .error (.data .notNumeral)
  else .ok (some (ofDigits (digits.filterMap Text.digitValue?)))

/-- The last corner of a range after its first: none if there is no colon. -/
def lastCorner : List Char → Option (Option (String × List Char))
  | [] => some none
  | ':' :: rest =>
      match corner rest with
      | some (column, row, []) => some (some (column, row))
      | _ => none
  | _ => none

def ofRange (spreadsheet range : String) : Except Error Location := do
  if range.isEmpty then throw (.invalid .missingRange)
  let range := Text.trim range
  let parts := do
    let (sheet, rest) ← splitSheet range.toList
    let (firstColumn, firstRow, rest) ← corner rest
    return (sheet, firstColumn, firstRow, ← lastCorner rest)
  match parts with
  | none => throw (.invalid (.badRange range))
  | some (sheet, firstColumn, firstRow, last) =>
      let lastColumn := last.map (·.1)
      let reversed :=
        match lastColumn with
        | some column => decide (columnIndex column < columnIndex firstColumn)
        | none => false
      if reversed then throw (.invalid (.reversedColumns range))
      let firstRow ← rowNumber firstRow
      let lastRow ← rowNumber ((last.map (·.2)).getD [])
      return {
        spreadsheet, range, sheet := String.ofList sheet, firstColumn, lastColumn,
        firstRow := firstRow.getD 1, lastRow }

/-- The location of a range in a spreadsheet that is given by its identifier or URL. -/
def parse (spreadsheet range : String) : Except Error Location := do
  if spreadsheet.isEmpty then throw (.invalid .missingSpreadsheet)
  match spreadsheetId (Text.trim spreadsheet) with
  | .error cause => throw (.invalid cause)
  | .ok identifier => ofRange identifier range

/-- The sheet's name as it stands in a range: in quotes unless it is a plain word. -/
def sheetQualifier (location : Location) : String :=
  let characters := location.sheet.toList
  if characters.all fun character => character.isAlphanum || character == '_' then
    location.sheet
  else "'" ++ Text.replaceChar '\'' ['\'', '\''] location.sheet ++ "'"

/-- A reference on the location's sheet. -/
def onSheet (location : Location) (reference : String) : String :=
  if location.sheet.isEmpty then reference
  else location.sheetQualifier ++ "!" ++ reference

/-- Another range of the spreadsheet, on the same sheet unless it names one. -/
def withRange (location : Location) (range : String) : Except Error Location := do
  let other ← ofRange location.spreadsheet range
  if other.sheet.isEmpty && !location.sheet.isEmpty then
    return { other with sheet := location.sheet, range := location.onSheet other.range }
  else return other

def start (location : Location) : Nat :=
  (columnIndex location.firstColumn).toNat

/-- The number of columns; one if there is no last column. -/
def columnCount (location : Location) : Nat :=
  match location.lastColumn with
  | some column => (columnIndex column - columnIndex location.firstColumn + 1).toNat
  | none => 1

/-- The codes of the columns; of the first alone if there is no last. -/
def columns (location : Location) : List String :=
  (List.range location.columnCount).map fun offset =>
    columnLetters (location.start + offset)

def cell (location : Location) (column : String) (row : Nat) : String :=
  location.onSheet (column ++ Text.ofNat row)

end Location

end GridQuery

import GridQuery.Datum
import GridQuery.Number.Decimal
import GridQuery.Text.Case
import GridQuery.Text.Printable

/-!
The text of a datum: what a header shows of it, and what a cell holds of a list or a
record. Inside these a text stands in quotes.
-/

namespace GridQuery.Datum

/-- The hexadecimal digits of a number, at least `width` of them. -/
def hexadecimal (width value : Nat) : List Char :=
  let digits := Nat.toDigits 16 value
  List.replicate (width - digits.length) '0' ++ digits

/-- A character between quotes: as itself if it is printable, and escaped if it is not,
or is the quote or a backslash. -/
def quotedChar (quote character : Char) : List Char :=
  if character == quote || character == '\\' then ['\\', character]
  else if character == '\n' then ['\\', 'n']
  else if character == '\r' then ['\\', 'r']
  else if character == '\t' then ['\\', 't']
  else if Text.isPrintable character then [character]
  else
    let code := character.toNat
    if code < 0x100 then '\\' :: 'x' :: hexadecimal 2 code
    else if code < 0x10000 then '\\' :: 'u' :: hexadecimal 4 code
    else '\\' :: 'U' :: hexadecimal 8 code

/-- A text in single quotes, or in double quotes if it holds single ones and no double
one. -/
def quoted (content : String) : String :=
  let characters := content.toList
  let quote := if characters.contains '\'' && !characters.contains '"' then '"' else '\''
  String.ofList (quote :: (characters.flatMap (quotedChar quote) ++ [quote]))

def arguments (values : List Nat) : String :=
  "(" ++ Text.joined ", " (values.map Text.ofNat) ++ ")"

def dayFields (date : Day) : String :=
  "datetime.date" ++ arguments [date.year, date.month, date.day]

/-- A moment by its fields, second and fraction left out where they are zero at the
end. -/
def momentFields (moment : Moment) : String :=
  let finer :=
    if moment.microsecond != 0 then [moment.second, moment.microsecond]
    else if moment.second != 0 then [moment.second]
    else []
  let date := moment.date
  "datetime.datetime" ++
    arguments ([date.year, date.month, date.day, moment.hour, moment.minute] ++ finer)

def flagText (flag : Bool) : String :=
  if flag then "True" else "False"

def cellFields (cell : Cell) : String :=
  let value :=
    match cell with
    | .null => "None"
    | .text content => quoted content
    | .number value => value.literalText
    | .boolean flag => flagText flag
    | .date stamp => momentFields stamp
  let name := cell.type.name
  "CellValue(type=<CellType." ++ Text.upper name ++ ": '" ++ name ++ "'>, value=" ++
    value ++ ")"

mutual

/-- A datum as it stands inside a list or a record. -/
def innerText : Datum → String
  | .null => "None"
  | .boolean flag => flagText flag
  | .number value => value.literalText
  | .text content => quoted content
  | .day date => dayFields date
  | .moment value => momentFields value
  | .cell value => cellFields value
  | .list items => "[" ++ Text.joined ", " (itemTexts items) ++ "]"
  | .record fields => "\x7b" ++ Text.joined ", " (fieldTexts fields) ++ "\x7d"

def itemTexts : List Datum → List String
  | [] => []
  | item :: rest => innerText item :: itemTexts rest

def fieldTexts : List (String × Datum) → List String
  | [] => []
  | (name, value) :: rest => (quoted name ++ ": " ++ innerText value) :: fieldTexts rest

end

def plainText : Datum → String
  | .text content => content
  | .day date => date.isoText
  | .moment value =>
      value.date.isoText ++ " " ++ String.ofList (value.isoText.toList.drop 11)
  | datum => innerText datum

end GridQuery.Datum

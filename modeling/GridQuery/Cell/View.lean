import GridQuery.Cell
import GridQuery.Datum
import GridQuery.Datum.Text
import GridQuery.Moment.Reader
import GridQuery.Text.Case

/-!
What a cell is when an operator asks for a number, a date, a truth value or a text, and
how data become cells and cells data.
-/

namespace GridQuery

/-- The characters that a numeral may have at its ends. The separators U+001C to U+001F
are blank too, but none of them can be dropped from a numeral. -/
def isNumeralMargin (character : Char) : Bool :=
  Text.isBlank character && !(0x1c ≤ character.toNat && character.toNat ≤ 0x1f)

/-- The number of a text that is a decimal numeral between blanks; none if it is not. -/
def Number.read (content : String) : Except DataFault (Option Number) :=
  let characters := content.toList
  let (negative, body) := Numeral.scanSign (characters.dropWhile Text.isBlank)
  match Numeral.scan body with
  | none => .ok none
  | some (numeral, rest) =>
      if !rest.all Text.isBlank then .ok none
      else if (characters.takeWhile Text.isBlank ++ rest).all isNumeralMargin then
        .ok (some (.float (numeral.toDouble negative)))
      else .error .notNumeral

/-- The digits of a number, without a fraction if it is an integer. -/
def Number.text (number : Number) : Except DataFault String :=
  match number with
  | .int value =>
      if (number.toDouble?).isSome then .ok (Text.ofInt value) else .error .outOfRange
  | .float _ => .ok number.integral.literalText

namespace Cell

def asNumber? : Cell → Except DataFault (Option Number)
  | number value => .ok (some value)
  | text content => Number.read content
  | _ => .ok none

def asDate? : Cell → Except DataFault (Option Moment)
  | date stamp => .ok (some stamp)
  | text content => Moment.read content
  | _ => .ok none

/-- A truth value, or the name of one in any case. -/
def asBoolean? : Cell → Option Bool
  | boolean flag => some flag
  | text content =>
      match Text.lower content with
      | "true" => some true
      | "false" => some false
      | _ => none
  | _ => none

/-- The text that string operators work on; null has none. -/
def asText? : Cell → Except DataFault (Option String)
  | null => .ok none
  | text content => .ok (some content)
  | number value => (Number.text value).map some
  | boolean flag => .ok (some (if flag then "true" else "false"))
  | date stamp => .ok (some stamp.text)

def isTruthy : Cell → Bool
  | null => false
  | boolean flag => flag
  | number value => !value.isZero
  | text content => (asBoolean? (text content)).getD (!content.isEmpty)
  | date _ => true

/-- The plain form of a cell: an integral number as an integer, a date as its text. -/
def toDatum : Cell → Datum
  | null => .null
  | text content => .text content
  | number value => .number value.integral
  | boolean flag => .boolean flag
  | date stamp => .text stamp.text

/-- The cell of a datum. What is not a number is null, and a list or a record is its
text. -/
def ofDatum : Datum → Cell
  | .null => null
  | .boolean flag => boolean flag
  | .number (.float .nan) => null
  | .number value => number value
  | .text content => text content
  | .day day => date (.midnight day)
  | .moment stamp => date stamp
  | .cell cell => cell
  | datum => text datum.plainText

end Cell

end GridQuery

import GridQuery.Datum
import GridQuery.Number.Decimal

/-!
Reading JSON texts. Beside the standard grammar the names `NaN`, `Infinity` and
`-Infinity` stand for numbers, and of two members of one name the later value stays, in
the place of the earlier.
-/

namespace GridQuery.Datum.Json

def isJsonBlank (character : Char) : Bool :=
  character == ' ' || character == '\t' || character == '\n' || character == '\r'

def skipBlanks (characters : List Char) : List Char :=
  characters.dropWhile isJsonBlank

def afterBeginning (beginning : String) (characters : List Char) : Option (List Char) :=
  if beginning.toList.isPrefixOf characters then
    some (characters.drop beginning.toList.length)
  else none

def hexadecimalValue? (character : Char) : Option Nat :=
  if '0' ≤ character && character ≤ '9' then some (character.toNat - '0'.toNat)
  else if 'a' ≤ character && character ≤ 'f' then some (character.toNat - 'a'.toNat + 10)
  else if 'A' ≤ character && character ≤ 'F' then some (character.toNat - 'A'.toNat + 10)
  else none

/-- The number of four hexadecimal digits, and the characters after them. -/
def scanUnit : List Char → Option (Nat × List Char)
  | first :: second :: third :: fourth :: rest => do
      let digits ← [first, second, third, fourth].mapM hexadecimalValue?
      return (digits.foldl (fun value digit => 16 * value + digit) 0, rest)
  | _ => none

/-- The character of one unit, or of a pair of units from the surrogate ranges. -/
def scanUnicode (characters : List Char) : Option (Char × List Char) := do
  let (unit, rest) ← scanUnit characters
  if 0xD800 ≤ unit && unit < 0xDC00 then
    match rest with
    | '\\' :: 'u' :: more =>
        match scanUnit more with
        | some (low, after) =>
            if 0xDC00 ≤ low && low < 0xE000 then
              some (Char.ofNat (0x10000 + (unit - 0xD800) * 0x400 + (low - 0xDC00)), after)
            else some ('\uFFFD', rest)
        | none => none
    | _ => some ('\uFFFD', rest)
  else if 0xDC00 ≤ unit && unit < 0xE000 then some ('\uFFFD', rest)
  else some (Char.ofNat unit, rest)

def scanEscape : List Char → Option (Char × List Char)
  | 'u' :: rest => scanUnicode rest
  | mark :: rest =>
      let pairs :=
        [('"', '"'), ('\\', '\\'), ('/', '/'), ('b', '\x08'), ('f', '\x0c'),
          ('n', '\n'), ('r', '\r'), ('t', '\t')]
      (pairs.lookup mark).map fun character => (character, rest)
  | [] => none

/-- The inside of a string up to its closing quote, and the characters after it. -/
def scanString : Nat → List Char → Option (List Char × List Char)
  | 0, _ => none
  | _ + 1, [] => none
  | fuel + 1, character :: rest =>
      if character == '"' then some ([], rest)
      else if character == '\\' then do
        let (escaped, rest) ← scanEscape rest
        let (content, after) ← scanString fuel rest
        return (escaped :: content, after)
      else if character.toNat < 0x20 then none
      else do
        let (content, after) ← scanString fuel rest
        return (character :: content, after)

def isAsciiDigit (character : Char) : Bool :=
  '0' ≤ character && character ≤ '9'

def asciiDigits (characters : List Char) : List Nat × List Char :=
  ((characters.takeWhile isAsciiDigit).map fun digit => digit.toNat - '0'.toNat,
    characters.dropWhile isAsciiDigit)

/-- The whole part of a number: a zero, or digits that do not start with one. -/
def scanWhole (characters : List Char) : Option (List Nat × List Char) :=
  match characters with
  | '0' :: rest => some ([0], rest)
  | _ =>
      match asciiDigits characters with
      | ([], _) => none
      | scanned => some scanned

def scanFraction (characters : List Char) : Option (List Nat) × List Char :=
  match characters with
  | '.' :: rest =>
      match asciiDigits rest with
      | ([], _) => (none, characters)
      | (digits, after) => (some digits, after)
  | _ => (none, characters)

def scanExponent (characters : List Char) : Option (Bool × List Nat) × List Char :=
  match characters with
  | mark :: rest =>
      if mark == 'e' || mark == 'E' then
        let (negative, digits) := Numeral.scanSign rest
        match asciiDigits digits with
        | ([], _) => (none, characters)
        | (values, after) => (some (negative, values), after)
      else (none, characters)
  | [] => (none, [])

/-- A number without its sign: an integer if it has neither point nor exponent. -/
def scanNumber (negative : Bool) (characters : List Char) : Option (Number × List Char) := do
  let (whole, rest) ← scanWhole characters
  let (fraction, rest) := scanFraction rest
  let (exponent, rest) := scanExponent rest
  let numeral : Numeral := ⟨whole, fraction, exponent⟩
  if numeral.isInteger then
    let magnitude : Int := ofDigits whole
    return (.int (if negative then -magnitude else magnitude), rest)
  else return (.float (numeral.toDouble negative), rest)

def scanName (characters : List Char) : Option (Datum × List Char) :=
  let names : List (String × Datum) :=
    [("null", null), ("true", boolean true), ("false", boolean false),
      ("NaN", number (.float .nan)),
      ("Infinity", number (.float (.infinite false))),
      ("-Infinity", number (.float (.infinite true)))]
  names.findSome? fun (name, value) =>
    (afterBeginning name characters).map fun rest => (value, rest)

def scanScalar (characters : List Char) : Option (Datum × List Char) :=
  match scanName characters with
  | some scanned => some scanned
  | none =>
      match characters with
      | '-' :: rest => (scanNumber true rest).map fun (value, after) => (number value, after)
      | _ => (scanNumber false characters).map fun (value, after) => (number value, after)

mutual

/-- The value at the beginning, which no blank precedes. -/
def scanValue : Nat → List Char → Option (Datum × List Char)
  | 0, _ => none
  | fuel + 1, characters =>
      match characters with
      | '"' :: rest => do
          let (content, after) ← scanString fuel rest
          return (text (String.ofList content), after)
      | '[' :: rest =>
          match skipBlanks rest with
          | ']' :: after => some (list [], after)
          | start => do
              let (items, after) ← scanItems fuel start
              return (list items, after)
      | '\x7b' :: rest =>
          match skipBlanks rest with
          | '\x7d' :: after => some (record [], after)
          | start => do
              let (members, after) ← scanMembers fuel start
              return (record (ofFields members), after)
      | _ => scanScalar characters

def scanItems : Nat → List Char → Option (List Datum × List Char)
  | 0, _ => none
  | fuel + 1, characters => do
      let (item, rest) ← scanValue fuel characters
      match skipBlanks rest with
      | ']' :: after => return ([item], after)
      | ',' :: more =>
          let (items, after) ← scanItems fuel (skipBlanks more)
          return (item :: items, after)
      | _ => none

def scanMembers : Nat → List Char → Option (List (String × Datum) × List Char)
  | 0, _ => none
  | fuel + 1, characters =>
      match characters with
      | '"' :: rest => do
          let (name, rest) ← scanString fuel rest
          match skipBlanks rest with
          | ':' :: start =>
              let (value, rest) ← scanValue fuel (skipBlanks start)
              let member := (String.ofList name, value)
              match skipBlanks rest with
              | '\x7d' :: after => return ([member], after)
              | ',' :: more =>
                  let (members, after) ← scanMembers fuel (skipBlanks more)
                  return (member :: members, after)
              | _ => none
          | _ => none
      | _ => none

end

end GridQuery.Datum.Json

namespace GridQuery.Datum

open Json

def ofJson? (content : String) : Option Datum :=
  let characters := content.toList
  match scanValue (2 * characters.length + 2) (skipBlanks characters) with
  | some (datum, rest) => if (skipBlanks rest).isEmpty then some datum else none
  | none => none

end GridQuery.Datum

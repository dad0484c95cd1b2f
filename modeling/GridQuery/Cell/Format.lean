import GridQuery.Cell.View

/-!
Display patterns: number patterns such as `#,##0.00` and `0%`, date patterns such as
`yyyy-MM-dd` and `MMM d, yyyy`, and pairs of texts for truth values.
-/

namespace GridQuery

/-- The digit positions of a number pattern, with the text before and after them. -/
structure NumberPattern where
  before : List Char
  /-- Digit positions and commas before the point. -/
  whole : List Char
  fraction : List Char
  after : List Char

namespace NumberPattern

def isPosition (character : Char) : Bool :=
  character == '#' || character == '0'

/-- The digit positions at the beginning, if there are any: positions and commas with a
fraction or without, or a point and at least one position. -/
def atStart? (characters : List Char) : Option NumberPattern :=
  match characters with
  | [] => none
  | first :: rest =>
      if isPosition first then
        let inWhole (character : Char) := isPosition character || character == ','
        let whole := first :: rest.takeWhile inWhole
        match rest.dropWhile inWhole with
        | '.' :: more =>
            some ⟨[], whole, more.takeWhile isPosition, more.dropWhile isPosition⟩
        | after => some ⟨[], whole, [], after⟩
      else if first == '.' then
        match rest.takeWhile isPosition with
        | [] => none
        | fraction => some ⟨[], [], fraction, rest.dropWhile isPosition⟩
      else none

def find? : List Char → Option NumberPattern
  | [] => none
  | first :: rest =>
      match atStart? (first :: rest) with
      | some found => some found
      | none =>
          (find? rest).map fun found => { found with before := first :: found.before }

/-- Digits in groups of three from the right, with commas between them. -/
def grouped (digits : List Char) : List Char :=
  let rec go : List Char → List Char
    | first :: second :: third :: next :: rest =>
        first :: second :: third :: ',' :: go (next :: rest)
    | rest => rest
  (go digits.reverse).reverse

/-- The least number of fraction digits: the positions before the trailing optional
ones. -/
def leastPlaces (pattern : NumberPattern) : Nat :=
  (pattern.fraction.reverse.dropWhile (· == '#')).length

/-- Fraction digits without trailing zeros, except those that the pattern requires. -/
def trimmedFraction (pattern : NumberPattern) (digits : List Char) : List Char :=
  let least := pattern.leastPlaces
  if least < pattern.fraction.length then
    let kept := (digits.reverse.dropWhile (· == '0')).reverse
    kept ++ List.replicate (least - kept.length) '0'
  else digits

/-- The digits of a number before and after the point. A lone zero before a fraction is
left out unless the pattern requires it. -/
def digits (pattern : NumberPattern) (number : Double) : List Char × List Char :=
  match number with
  | .finite _ code =>
      let (whole, fraction) := Double.fixedPlaces pattern.fraction.length code
      let whole := if pattern.whole.contains ',' then grouped whole else whole
      let fraction := pattern.trimmedFraction fraction
      if whole == ['0'] && !pattern.whole.contains '0' && !fraction.isEmpty then
        ([], fraction)
      else (whole, fraction)
  | _ => (number.abs.text.toList, [])

/-- A number as the pattern shows it, a hundredfold next to a percent sign. A minus is
written only before a digit other than zero. -/
def render (pattern : NumberPattern) (number : Number) : Except DataFault String := do
  let inPercent := pattern.before.contains '%' || pattern.after.contains '%'
  let some shown := if inPercent then number.mul? (.int 100) else some number
    | .error .outOfRange
  let some double := shown.toDouble? | .error .outOfRange
  let (whole, fraction) := pattern.digits double
  let text := whole ++ (if fraction.isEmpty then [] else '.' :: fraction)
  let isVisible := text.any fun character =>
    character != '0' && character != '.' && character != ','
  let negative := shown.order (.int 0) == .lt && isVisible
  return String.ofList
    ((if negative then ['-'] else []) ++ pattern.before ++ text ++ pattern.after)

end NumberPattern

namespace DatePattern

def monthNames : List String :=
  ["January", "February", "March", "April", "May", "June", "July", "August",
    "September", "October", "November", "December"]

def monthName (moment : Moment) : String :=
  monthNames.getD (moment.date.month - 1) ""

def hourOfTwelve (moment : Moment) : Nat :=
  if moment.hour % 12 == 0 then 12 else moment.hour % 12

/-- The fields of a date pattern, a longer one before its own beginning. -/
def fields : List (String × (Moment → String)) :=
  [("yyyy", fun moment => Text.zeroPadded 4 moment.date.year),
    ("yy", fun moment => Text.zeroPadded 2 (moment.date.year % 100)),
    ("MMMM", monthName),
    ("MMM", fun moment => String.ofList ((monthName moment).toList.take 3)),
    ("MM", fun moment => Text.zeroPadded 2 moment.date.month),
    ("M", fun moment => Text.ofNat moment.date.month),
    ("dd", fun moment => Text.zeroPadded 2 moment.date.day),
    ("d", fun moment => Text.ofNat moment.date.day),
    ("HH", fun moment => Text.zeroPadded 2 moment.hour),
    ("H", fun moment => Text.ofNat moment.hour),
    ("hh", fun moment => Text.zeroPadded 2 (hourOfTwelve moment)),
    ("h", fun moment => Text.ofNat (hourOfTwelve moment)),
    ("mm", fun moment => Text.zeroPadded 2 moment.minute),
    ("m", fun moment => Text.ofNat moment.minute),
    ("ss", fun moment => Text.zeroPadded 2 moment.second),
    ("s", fun moment => Text.ofNat moment.second),
    ("a", fun moment => if moment.hour < 12 then "AM" else "PM")]

/-- The part of a pattern that its beginning is, as text, and how long the part is: a
field, a text in single quotes, or one character as it stands. -/
def part (moment : Moment) (first : Char) (rest : List Char) : List Char × Nat :=
  let field := fields.find? fun (name, _) => name.toList.isPrefixOf (first :: rest)
  match field with
  | some (name, value) => ((value moment).toList, name.length)
  | none =>
      let inside := rest.takeWhile (· != '\'')
      if first == '\'' && inside.length < rest.length then (inside, inside.length + 2)
      else ([first], 1)

/-- The pattern with `skipped` characters left out at its beginning. -/
def renderList (moment : Moment) : Nat → List Char → List Char
  | _, [] => []
  | skipped + 1, _ :: rest => renderList moment skipped rest
  | 0, first :: rest =>
      let (text, length) := part moment first rest
      text ++ renderList moment (length - 1) rest

def render (moment : Moment) (pattern : String) : String :=
  String.ofList (renderList moment 0 pattern.toList)

end DatePattern

/-- A cell as a pattern shows it; null is not shown. A pattern that does not suit the
cell leaves its text as it is. -/
def Cell.format? (cell : Cell) (pattern : String) : Except DataFault (Option String) := do
  let characters := pattern.toList
  match cell with
  | .null => return none
  | .date moment => return some (DatePattern.render moment pattern)
  | .boolean flag =>
      if characters.contains ':' then
        let yes := characters.takeWhile (· != ':')
        return some (String.ofList (if flag then yes else characters.drop (yes.length + 1)))
      else cell.asText?
  | _ =>
      match ← cell.asNumber?, NumberPattern.find? characters with
      | some value, some found => return some (← found.render value)
      | _, _ => cell.asText?

end GridQuery

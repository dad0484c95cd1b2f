import GridQuery.Fault
import GridQuery.Moment
import GridQuery.Number.Decimal

/-!
Reading moments from texts: `2024-01-15`, with or without a time of day, and the form
`Date(2024,0,15)` in which query responses write them, months counted from zero.
-/

namespace GridQuery.Moment

open Numeral (scanDigits)

/-- The largest number that a calendar field can be counted with. -/
def fieldLimit : Nat := Nat.pow 2 31 - 1

/-- A number of at least `least` and at most `most` digits, and the characters after it. -/
def scanField (least most : Nat) (characters : List Char) : Option (Nat × List Char) :=
  let (values, after) := scanDigits characters
  if least ≤ values.length && values.length ≤ most then some (ofDigits values, after)
  else none

def scanAfter (marks : List Char) (least most : Nat) :
    List Char → Option (Nat × List Char)
  | mark :: rest => if marks.contains mark then scanField least most rest else none
  | [] => none

/-- The numerals between commas, up to the closing parenthesis at the end. -/
def scanArguments : Nat → List Char → Option (List (List Nat))
  | 0, _ => none
  | count + 1, characters =>
      match scanDigits characters with
      | ([], _) => none
      | (values, [')']) => some [values]
      | (values, ',' :: rest) => (scanArguments count rest).map (values :: ·)
      | _ => none

/-- The numerals of `Date(…)`: a day, or a day, a time of day and a fraction that may be
left out. -/
def dialectArguments? (characters : List Char) : Option (List (List Nat)) :=
  if ("Date(".toList).isPrefixOf characters then
    match scanArguments 7 (characters.drop 5) with
    | some arguments =>
        if arguments.length == 3 || 6 ≤ arguments.length then some arguments else none
    | none => none
  else none

/-- The moment of the numerals of `Date(…)`, if there is such a moment. -/
def ofDialect (arguments : List (List Nat)) : Except DataFault (Option Moment) :=
  if (arguments.take 6).any (Numeral.digitLimit < ·.length) then .error .notNumeral
  else
    match arguments.map ofDigits with
    | year :: month :: day :: clock =>
        let clock := clock.take 3
        if ([year, month + 1, day] ++ clock).any (fieldLimit < ·) then .error .outOfRange
        else .ok do
          let date ← Day.ofFields? year (month + 1) day
          match clock with
          | [hour, minute, second] => ofFields? date hour minute second 0
          | _ => midnight date
    | _ => .ok none

/-- A fraction of a second: a point and digits, in microseconds. -/
def scanFraction : List Char → Option (Nat × List Char)
  | '.' :: rest =>
      match scanDigits rest with
      | ([], _) => none
      | (values, after) =>
          some (ofDigits ((values ++ List.replicate 6 0).take 6), after)
  | characters => some (0, characters)

/-- Hour, minute, second and microsecond after a `T` or a blank, and the rest; nothing is
midnight. -/
def scanClock : List Char → Option ((Nat × Nat × Nat × Nat) × List Char)
  | mark :: rest =>
      if mark == 'T' || mark == ' ' then do
        let (hour, rest) ← scanField 1 2 rest
        let (minute, rest) ← scanAfter [':'] 2 2 rest
        let (second, rest) ←
          match rest with
          | ':' :: _ => scanAfter [':'] 2 2 rest
          | _ => some (0, rest)
        let (microsecond, rest) ← scanFraction rest
        return ((hour, minute, second, microsecond), rest)
      else some ((0, 0, 0, 0), mark :: rest)
  | [] => some ((0, 0, 0, 0), [])

/-- A moment to the microsecond from year, month, day and, if there is one, the time of
day. -/
def ofIso? (characters : List Char) : Option Moment := do
  let (year, rest) ← scanField 4 4 characters
  let (month, rest) ← scanAfter ['-', '/'] 1 2 rest
  let (day, rest) ← scanAfter ['-', '/'] 1 2 rest
  let ((hour, minute, second, microsecond), rest) ← scanClock rest
  if rest == [] || rest == ['Z'] then
    ofFields? (← Day.ofFields? year month day) hour minute second microsecond
  else none

def wholeSecond (moment : Moment) : Moment :=
  ⟨moment.date, moment.hour, moment.minute, moment.second, 0,
    moment.valid.1, moment.valid.2.1, moment.valid.2.2.1, by decide⟩

/-- The moment that a text names, blanks at its ends and any fraction of a second aside;
none if it does not look like one. -/
def read (text : String) : Except DataFault (Option Moment) :=
  let characters := Text.trimList text.toList
  match dialectArguments? characters with
  | some arguments => ofDialect arguments
  | none => .ok ((ofIso? characters).map wholeSecond)

end GridQuery.Moment

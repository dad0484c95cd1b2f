import GridQuery.Number.Basic
import GridQuery.Text.Basic
import GridQuery.Text.Digit

/-!
Decimal numerals: reading them, and writing floating-point numbers with the fewest digits
that read back or with a fixed number of places.
-/

namespace GridQuery

/-- A decimal numeral as written, its digits by value. -/
structure Numeral where
  whole : List Nat
  /-- The digits after the point; none if there is no point. -/
  fraction : Option (List Nat)
  /-- The power of ten, with whether it is negative. -/
  exponent : Option (Bool × List Nat)
  deriving DecidableEq, Repr

def ofDigits (digits : List Nat) : Nat :=
  digits.foldl (fun value digit => 10 * value + digit) 0

def digitCount (value : Nat) : Nat :=
  (Nat.toDigits 10 value).length

/-- The number nearest to `coefficient * 10 ^ exponent`. -/
def Double.ofDecimal (negative : Bool) (coefficient : Nat) (exponent : Int) : Double :=
  let size : Int := digitCount coefficient + exponent
  if coefficient == 0 || size < -400 then zero negative
  else if 400 < size then infinite negative
  else if 0 ≤ exponent then ofRatio negative (coefficient * Nat.pow 10 exponent.toNat) 1
  else ofRatio negative coefficient (Nat.pow 10 (-exponent).toNat)

namespace Numeral

/-- The digits of the longest numeral that is read as an integer. -/
def digitLimit : Nat := 4300

def isInteger (numeral : Numeral) : Bool :=
  numeral.fraction.isNone && numeral.exponent.isNone

def toDouble (negative : Bool) (numeral : Numeral) : Double :=
  let fraction := numeral.fraction.getD []
  let exponent : Int :=
    match numeral.exponent with
    | none => 0
    | some (below, digits) => if below then -(ofDigits digits : Int) else ofDigits digits
  Double.ofDecimal negative (ofDigits (numeral.whole ++ fraction))
    (exponent - fraction.length)

/-- The values of the leading digits, and the characters after them. -/
def scanDigits : List Char → List Nat × List Char
  | [] => ([], [])
  | character :: rest =>
      match Text.digitValue? character with
      | none => ([], character :: rest)
      | some value =>
          let (values, after) := scanDigits rest
          (value :: values, after)

/-- A sign, true for a minus, and the characters after it. -/
def scanSign : List Char → Bool × List Char
  | '-' :: rest => (true, rest)
  | '+' :: rest => (false, rest)
  | characters => (false, characters)

/-- A power of ten: `e`, a sign if there is one, and at least one digit. -/
def scanExponent : List Char → Option (Bool × List Nat) × List Char
  | [] => (none, [])
  | mark :: rest =>
      if mark == 'e' || mark == 'E' then
        let (negative, digits) := scanSign rest
        match scanDigits digits with
        | ([], _) => (none, mark :: rest)
        | (values, after) => (some (negative, values), after)
      else (none, mark :: rest)

/-- The numeral that the characters start with, and the characters after it. A digit must
stand before or after the point. -/
def scan (characters : List Char) : Option (Numeral × List Char) :=
  match scanDigits characters with
  | ([], '.' :: rest) =>
      match scanDigits rest with
      | ([], _) => none
      | (fraction, after) =>
          let (exponent, after) := scanExponent after
          some (⟨[], some fraction, exponent⟩, after)
  | ([], _) => none
  | (whole, '.' :: rest) =>
      let (fraction, after) := scanDigits rest
      let (exponent, after) := scanExponent after
      some (⟨whole, some fraction, exponent⟩, after)
  | (whole, after) =>
      let (exponent, after) := scanExponent after
      some (⟨whole, none, exponent⟩, after)

end Numeral

namespace Double

/-- A power of ten that a quotient reaches and whose tenfold it does not reach. -/
def decimalExponent (numerator denominator : Nat) : Int :=
  if denominator ≤ numerator then digitCount (numerator / denominator) - 1
  else -(digitCount ((denominator - 1) / numerator) : Int)

/-- Whether a decimal is read as the positive number with the given code. -/
def readsBack (code : Nat) (coefficient : Nat) (exponent : Int) : Bool :=
  match ofDecimal false coefficient exponent with
  | finite _ found => found.val == code
  | _ => false

/-- The decimal of the given number of digits that is nearest to a positive number, if it
is read as that number. -/
def decimalOfDigits? (code count : Nat) : Option (Nat × Int) :=
  let exponent := decimalExponent (magnitude code) unitsPerOne - count + 1
  let numerator :=
    if exponent < 0 then magnitude code * Nat.pow 10 (-exponent).toNat else magnitude code
  let denominator :=
    if exponent < 0 then unitsPerOne else unitsPerOne * Nat.pow 10 exponent.toNat
  let nearest := roundDiv numerator denominator
  let below := numerator / denominator
  let other := if nearest == below then below + 1 else below
  if readsBack code nearest exponent then some (nearest, exponent)
  else if readsBack code other exponent then some (other, exponent)
  else none

/-- The shortest decimal that is read as a positive number, as its digits and the place of
the point before the first of them; seventeen digits always suffice. -/
def shortestDigits (code : Nat) : List Char × Int :=
  let counts := (List.range 17).map (· + 1)
  match counts.findSome? (decimalOfDigits? code) with
  | none => ([], 0)
  | some (coefficient, exponent) =>
      let digits := Nat.toDigits 10 coefficient
      ((digits.reverse.dropWhile (· == '0')).reverse, digits.length + exponent)

/-- Digits with a point, placed by where it stands before the first digit. The point and
a digit after it are always there. -/
def positional (digits : List Char) (point : Int) : List Char :=
  if point ≤ 0 then
    '0' :: '.' :: (List.replicate (-point).toNat '0' ++ digits)
  else
    let width := point.toNat
    let fraction := digits.drop width
    digits.take width ++ List.replicate (width - digits.length) '0' ++
      '.' :: (if fraction.isEmpty then ['0'] else fraction)

/-- Digits with a point after the first, and a power of ten of at least two digits. -/
def scientific (digits : List Char) (exponent : Int) : List Char :=
  let coefficient :=
    match digits with
    | [] => []
    | [digit] => [digit]
    | digit :: rest => digit :: '.' :: rest
  coefficient ++ 'e' :: (if exponent < 0 then '-' else '+') ::
    (Text.zeroPadded 2 exponent.natAbs).toList

/-- A floating-point number with the fewest digits that read back, positional from
`0.0001` until `1e16`. -/
def text : Double → String
  | nan => "nan"
  | infinite negative => if negative then "-inf" else "inf"
  | finite negative code =>
      let body :=
        if code.val == 0 then ['0', '.', '0']
        else
          let (digits, point) := shortestDigits code
          if -4 < point && point ≤ 16 then positional digits point
          else scientific digits (point - 1)
      String.ofList (if negative then '-' :: body else body)

/-- The magnitude of a number rounded to a fixed number of decimal places, on a tie to
the even neighbour, as the digits before the point and those after it. -/
def fixedPlaces (places : Nat) (code : Nat) : List Char × List Char :=
  let scaled := roundDiv (magnitude code * Nat.pow 10 places) unitsPerOne
  let digits := (Text.zeroPadded (places + 1) scaled).toList
  (digits.take (digits.length - places), digits.drop (digits.length - places))

end Double

namespace Number

/-- A number as a literal: an integer's digits, or the shortest digits of a
floating-point number. -/
def literalText : Number → String
  | int value => Text.ofInt value
  | float value => value.text

end Number

end GridQuery

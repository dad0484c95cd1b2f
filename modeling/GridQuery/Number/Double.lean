/-!
Floating-point numbers of 64 bits, with 53 significant bits.

The finite magnitudes are numbered upward from zero, and a number is kept as its sign
and that place, its `code`. Codes come in rows of equal length; within a row magnitudes
are equally far apart, and twice as far as in the row before. Every magnitude is a whole
number of units, `2 ^ 1074` of which make one, so arithmetic is done on whole numbers and
its exact result is rounded once, to the nearest number and on a tie to the one with the
even code.
-/

namespace GridQuery

/-- The number of codes in a row, and so of the steps by which its magnitudes grow. -/
abbrev Double.rowLength : Nat := Nat.pow 2 52

/-- The number of finite magnitudes; the code after the last stands for infinity. -/
abbrev Double.codeLimit : Nat := 2047 * Double.rowLength

inductive Double where
  | nan
  | infinite (negative : Bool)
  | finite (negative : Bool) (code : Fin Double.codeLimit)
  deriving DecidableEq, Repr, Inhabited

namespace Double

def unitsPerOne : Nat := Nat.pow 2 1074

/-- The magnitude with a given code, in units. In the first row, which starts at zero, and
in the second the steps are one unit. -/
def magnitude (code : Nat) : Nat :=
  if code < rowLength then code
  else (rowLength + code % rowLength) * Nat.pow 2 (code / rowLength - 1)

/-- The whole number nearest to a quotient, the even one on a tie. -/
def roundDiv (numerator denominator : Nat) : Nat :=
  let quotient := numerator / denominator
  let twice := 2 * (numerator % denominator)
  if twice < denominator then quotient
  else if denominator < twice then quotient + 1
  else quotient + quotient % 2

/-- The code of the magnitude nearest to a quotient of units. -/
def nearestCode (numerator denominator : Nat) : Nat :=
  let shift := (numerator / denominator).log2 - 52
  shift * rowLength + roundDiv numerator (denominator * Nat.pow 2 shift)

/-- The number with a sign and a code, infinite past the last finite magnitude. -/
def ofCode (negative : Bool) (code : Nat) : Double :=
  if bounded : code < codeLimit then .finite negative ⟨code, bounded⟩
  else .infinite negative

def ofRatio (negative : Bool) (numerator denominator : Nat) : Double :=
  ofCode negative (nearestCode (numerator * unitsPerOne) denominator)

def zero (negative : Bool) : Double := ofCode negative 0

/-- The number nearest to an integer; infinite if the integer is too large. -/
def ofInt (value : Int) : Double :=
  ofRatio (value < 0) value.natAbs 1

def isNegative : Double → Bool
  | nan => false
  | infinite negative => negative
  | finite negative _ => negative

def isNaN : Double → Bool
  | nan => true
  | _ => false

def isInfinite : Double → Bool
  | infinite _ => true
  | _ => false

def units? : Double → Option Int
  | finite true code => some (-(magnitude code : Int))
  | finite false code => some (magnitude code)
  | _ => none

/-- The number nearest to a whole number of units; a zero takes the given sign. -/
def ofUnits (zeroNegative : Bool) (units : Int) : Double :=
  ofCode (if units == 0 then zeroNegative else units < 0)
    (nearestCode units.natAbs 1)

def neg : Double → Double
  | nan => nan
  | infinite negative => infinite !negative
  | finite negative code => finite (!negative) code

def abs : Double → Double
  | nan => nan
  | infinite _ => infinite false
  | finite _ code => finite false code

/-- A sum of zeros is negative only if both are. -/
def add (left right : Double) : Double :=
  match left.units?, right.units? with
  | some leftUnits, some rightUnits =>
      ofUnits (left.isNegative && right.isNegative) (leftUnits + rightUnits)
  | _, _ =>
      match left, right with
      | nan, _ => nan
      | _, nan => nan
      | infinite leftSign, infinite rightSign =>
          if leftSign == rightSign then infinite leftSign else nan
      | infinite sign, _ => infinite sign
      | _, right => right

def sub (left right : Double) : Double :=
  add left (neg right)

def mul (left right : Double) : Double :=
  let negative := left.isNegative != right.isNegative
  match left, right with
  | nan, _ => nan
  | _, nan => nan
  | finite _ leftCode, finite _ rightCode =>
      ofCode negative
        (nearestCode (magnitude leftCode * magnitude rightCode) unitsPerOne)
  | infinite _, finite _ code => if code.val == 0 then nan else infinite negative
  | finite _ code, infinite _ => if code.val == 0 then nan else infinite negative
  | infinite _, infinite _ => infinite negative

def div (left right : Double) : Double :=
  let negative := left.isNegative != right.isNegative
  match left, right with
  | nan, _ => nan
  | _, nan => nan
  | finite _ leftCode, finite _ rightCode =>
      if rightCode.val == 0 then
        if leftCode.val == 0 then nan else infinite negative
      else
        ofCode negative
          (nearestCode (magnitude leftCode * unitsPerOne) (magnitude rightCode))
  | infinite _, finite _ _ => infinite negative
  | finite _ _, infinite _ => zero negative
  | infinite _, infinite _ => nan

def toInt? (number : Double) : Option Int :=
  match number.units? with
  | some units =>
      if units % (unitsPerOne : Int) == 0 then some (units / (unitsPerOne : Int))
      else none
  | none => none

end Double

end GridQuery

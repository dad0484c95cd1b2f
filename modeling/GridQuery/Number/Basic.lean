import GridQuery.Number.Double

/-!
Numbers of cells: integers of any size and floating-point numbers. Integer arithmetic is
exact, and a comparison is exact whatever the two kinds.
-/

namespace GridQuery

inductive Number where
  | int (value : Int)
  | float (value : Double)
  deriving DecidableEq, Repr, Inhabited

namespace Number

/-- A place on the number line: a whole number of units, or beyond all of them. -/
inductive Place where
  | least
  | units (count : Int)
  | greatest
  deriving DecidableEq

namespace Place

def compare : Place → Place → Ordering
  | least, least => .eq
  | least, _ => .lt
  | _, least => .gt
  | greatest, greatest => .eq
  | greatest, _ => .gt
  | _, greatest => .lt
  | units left, units right => Ord.compare left right

end Place

/-- Where a number stands; nowhere if it is not a number. -/
def place? : Number → Option Place
  | int value => some (.units (value * (Double.unitsPerOne : Int)))
  | float .nan => none
  | float (.infinite true) => some .least
  | float (.infinite false) => some .greatest
  | float value => value.units?.map .units

/-- The order of two numbers. One that is not a number is on a par with every other. -/
def order (left right : Number) : Ordering :=
  match left.place?, right.place? with
  | some leftPlace, some rightPlace => leftPlace.compare rightPlace
  | _, _ => .eq

/-- Whether two numbers have one value; one that is not a number equals none. -/
def sameValue (left right : Number) : Bool :=
  match left.place?, right.place? with
  | some leftPlace, some rightPlace => leftPlace == rightPlace
  | _, _ => false

def isZero (number : Number) : Bool :=
  number.sameValue (int 0)

/-- A number as a floating-point number; none if it is an integer too large for one. -/
def toDouble? : Number → Option Double
  | int value =>
      let nearest := Double.ofInt value
      if nearest.isInfinite then none else some nearest
  | float value => some value

/-- Integers combine exactly, any other pair as floating-point numbers. -/
def combine? (onInts : Int → Int → Int) (onFloats : Double → Double → Double) :
    Number → Number → Option Number
  | int left, int right => some (int (onInts left right))
  | left, right => do
      return float (onFloats (← left.toDouble?) (← right.toDouble?))

def add? : Number → Number → Option Number :=
  combine? (· + ·) Double.add

def sub? : Number → Number → Option Number :=
  combine? (· - ·) Double.sub

def mul? : Number → Number → Option Number :=
  combine? (· * ·) Double.mul

/-- A quotient is a floating-point number, rounded once also for integers; none if it or
an operand is too large for one. -/
def div? : Number → Number → Option Number
  | int left, int right =>
      let nearest :=
        Double.ofRatio (decide (left < 0) != decide (right < 0)) left.natAbs right.natAbs
      if nearest.isInfinite then none else some (float nearest)
  | left, right => do
      return float (Double.div (← left.toDouble?) (← right.toDouble?))

def neg : Number → Number
  | int value => int (-value)
  | float value => float value.neg

/-- A floating-point number that is an integer becomes that integer. -/
def integral : Number → Number
  | int value => int value
  | float value =>
      match value.toInt? with
      | some integer => int integer
      | none => float value

end Number

end GridQuery

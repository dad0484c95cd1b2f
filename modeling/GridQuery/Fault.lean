/-!
Faults of data: values that have the look of a number, a date or a row and cannot be used
as one. A statement that meets one stops without a message of its own.
-/

namespace GridQuery

inductive DataFault where
  /-- A number with no place where it has to go: past the floating-point range, or past
  what the calendar counts with. -/
  | outOfRange
  /-- A text of the form of a number that is not the numeral of one, or a number that no
  numeral is written for. -/
  | notNumeral
  /-- A value in the place of a row, list or record that is of another kind. -/
  | wrongShape
  deriving DecidableEq, Repr

end GridQuery

import GridQuery.Text.Basic

/-!
Days of the calendar and moments of a day, to the microsecond and without a time zone,
with their order and their texts.
-/

namespace GridQuery

def isLeapYear (year : Nat) : Bool :=
  year % 4 == 0 && (year % 100 != 0 || year % 400 == 0)

def daysInMonth (year month : Nat) : Nat :=
  if month == 2 then (if isLeapYear year then 29 else 28)
  else if month == 4 || month == 6 || month == 9 || month == 11 then 30
  else 31

/-- A day of the years 1 to 9999. -/
structure Day where
  year : Nat
  month : Nat
  day : Nat
  valid : (1 ≤ year ∧ year ≤ 9999) ∧ (1 ≤ month ∧ month ≤ 12) ∧
    1 ≤ day ∧ day ≤ daysInMonth year month
  deriving DecidableEq

def Day.ofFields? (year month day : Nat) : Option Day :=
  if valid : (1 ≤ year ∧ year ≤ 9999) ∧ (1 ≤ month ∧ month ≤ 12) ∧
      1 ≤ day ∧ day ≤ daysInMonth year month then
    some ⟨year, month, day, valid⟩
  else none

instance : Inhabited Day := ⟨⟨1, 1, 1, by decide⟩⟩

/-- A day with four digits for the year. -/
def Day.isoText (date : Day) : String :=
  Text.zeroPadded 4 date.year ++ "-" ++ Text.zeroPadded 2 date.month ++ "-" ++
    Text.zeroPadded 2 date.day

structure Moment where
  date : Day
  hour : Nat
  minute : Nat
  second : Nat
  microsecond : Nat
  valid : hour < 24 ∧ minute < 60 ∧ second < 60 ∧ microsecond < 1000000
  deriving DecidableEq

namespace Moment

instance : Inhabited Moment := ⟨⟨default, 0, 0, 0, 0, by decide⟩⟩

def ofFields? (date : Day) (hour minute second microsecond : Nat) : Option Moment :=
  if valid : hour < 24 ∧ minute < 60 ∧ second < 60 ∧ microsecond < 1000000 then
    some ⟨date, hour, minute, second, microsecond, valid⟩
  else none

def midnight (date : Day) : Moment :=
  ⟨date, 0, 0, 0, 0, by decide⟩

def isMidnight (moment : Moment) : Bool :=
  moment.hour == 0 && moment.minute == 0 && moment.second == 0 && moment.microsecond == 0

/-- The fields as the digits of one number, so that moments have the order of these. -/
def rank (moment : Moment) : Nat :=
  let days := (moment.date.year * 13 + moment.date.month) * 32 + moment.date.day
  let seconds := (moment.hour * 60 + moment.minute) * 60 + moment.second
  (days * 86400 + seconds) * 1000000 + moment.microsecond

def order (left right : Moment) : Ordering :=
  compare left.rank right.rank

/-- Year, month and day joined by hyphens, the year without leading zeros. -/
def dayText (moment : Moment) : String :=
  Text.ofNat moment.date.year ++ "-" ++ Text.zeroPadded 2 moment.date.month ++ "-" ++
    Text.zeroPadded 2 moment.date.day

def clockText (moment : Moment) : String :=
  Text.zeroPadded 2 moment.hour ++ ":" ++ Text.zeroPadded 2 moment.minute ++ ":" ++
    Text.zeroPadded 2 moment.second

/-- The moment to the microsecond, a whole second without a fraction. -/
def isoText (moment : Moment) : String :=
  moment.date.isoText ++ "T" ++ moment.clockText ++
    (if moment.microsecond == 0 then ""
     else "." ++ Text.zeroPadded 6 moment.microsecond)

/-- The text of a moment in results: midnight is written as its day alone, any other
moment to the second. -/
def text (moment : Moment) : String :=
  if moment.isMidnight then moment.dayText
  else moment.date.isoText ++ "T" ++ moment.clockText

end Moment

end GridQuery

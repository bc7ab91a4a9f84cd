/-! # Years and months of the proleptic Gregorian calendar

Years are astronomical (1 BC is year 0) and unbounded in both directions; months are counted
from 0 (January) to 11 (December), days of the month and days of the year from 1.

* `isLeapYear`, `monthLength`, `yearLength`: the leap-year rule and the table of month lengths.
* `dayOfYear` and `monthDayOfOrdinal`: the two directions between a day of a month and the
  ordinal of that day within its year. -/

namespace DatePattern

/-! ### Lengths -/

/-- A year has how many months. -/
def monthsPerYear : Nat := 12

/-- February, counted from January as 0. -/
def february : Nat := 1

/-- Lengths of the months of a common year, January first. -/
def commonMonthLengths : List Nat := [31, 28, 31, 30, 31, 30, 31, 31, 30, 31, 30, 31]

/-- Length of February in a leap year. -/
def leapFebruaryLength : Nat := 29

/-- Days in a leap year, the longest a year can be. -/
def leapYearLength : Nat := 366

/-- Every fourth year is a leap year, except the centuries not divisible by 400. -/
def isLeapYear (year : Int) : Bool :=
  (year % 4 == 0 && year % 100 != 0) || year % 400 == 0

/-- Days in a month of a year; a month that does not exist has none. -/
def monthLength (year : Int) (month : Nat) : Nat :=
  if month = february ∧ isLeapYear year then leapFebruaryLength
  else commonMonthLengths.getD month 0

/-- Days in a year. -/
def yearLength (year : Int) : Nat :=
  if isLeapYear year then leapYearLength else leapYearLength - 1

/-! ### Ordinal days -/

/-- Days of the year before the first of the given month. -/
def daysBeforeMonth (year : Int) : Nat → Nat
  | 0 => 0
  | month + 1 => daysBeforeMonth year month + monthLength year month

/-- Ordinal of a day within its year; the 1st of January is 1. -/
def dayOfYear (year : Int) (month day : Nat) : Nat :=
  daysBeforeMonth year month + day

/-- The month of the list in which the `remaining`-th day counted from its start lies, with the
day of that month; none when the months are too short together. -/
def monthDayWithin (year : Int) : List Nat → Nat → Option (Nat × Nat)
  | [], _ => none
  | month :: later, remaining =>
    if remaining ≤ monthLength year month then some (month, remaining)
    else monthDayWithin year later (remaining - monthLength year month)

/-- Month and day of the month of an ordinal day; none when the year has no such day. -/
def monthDayOfOrdinal (year : Int) (ordinal : Nat) : Option (Nat × Nat) :=
  if ordinal = 0 then none else monthDayWithin year (List.range monthsPerYear) ordinal

end DatePattern

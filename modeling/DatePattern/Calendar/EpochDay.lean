import DatePattern.Calendar.Year

/-! # Counting days from the epoch

The calendar day `year`-`month`-`day` and its epoch day, the signed number of days since
1 January 1970.

Both directions count in *cycles* of 400 years, after which the calendar repeats, and in years that
start on 1 March, so that the leap day is the last of its year and the month lengths from March on
follow the rule `(153 * month + 2) / 5`.  A count of this kind is closed-form: no loop over years
and no table of month lengths is involved.

* `CalendarDay.epochDay`: the day count of a calendar day.
* `CalendarDay.ofEpochDay`: the calendar day of a day count. -/

namespace DatePattern

/-- A day of the calendar: astronomical year, month from 0, day of the month from 1. -/
structure CalendarDay where
  year : Int
  month : Nat
  day : Nat
deriving DecidableEq, Repr

/-- Days in a cycle of 400 years. -/
def daysPerCycle : Nat := 146097

/-- Days from 1 March of year 0 to 1 January 1970. -/
def epochShift : Nat := 719468

/-! ### Years that start in March -/

/-- Days of a cycle before its year `n`. -/
def daysBeforeYearOfCycle (n : Nat) : Nat := 365 * n + n / 4 - n / 100

/-- Year of the cycle in which a day of the cycle lies; the corrections take out the leap days that
end each span of 4, 100 and 400 years. -/
def yearOfCycleDay (dayOfCycle : Nat) : Nat :=
  (dayOfCycle - dayOfCycle / 1460 + dayOfCycle / 36524 - dayOfCycle / 146096) / 365

/-- Days of a March-based year before its month `m`, March being 0. -/
def daysBeforeMarchMonth (m : Nat) : Nat := (153 * m + 2) / 5

/-- March-based month in which a day of the March-based year lies. -/
def marchMonthOfDay (dayOfYear : Nat) : Nat := (5 * dayOfYear + 2) / 153

/-- March-based number of a month counted from January. -/
def toMarchMonth (month : Nat) : Nat := (month + 10) % 12

/-- Number from January of a March-based month. -/
def ofMarchMonth (m : Nat) : Nat := if m < 10 then m + 2 else m - 10

/-- January and February belong to the March-based year that began the year before. -/
def marchYear (year : Int) (month : Nat) : Int := if month < 2 then year - 1 else year

/-! ### The two directions -/

namespace CalendarDay

/-- Signed number of days from 1 January 1970. -/
def epochDay (d : CalendarDay) : Int :=
  let year := marchYear d.year d.month
  let yearOfCycle := (year % 400).toNat
  let dayOfYear := daysBeforeMarchMonth (toMarchMonth d.month) + d.day
  year / 400 * daysPerCycle + (daysBeforeYearOfCycle yearOfCycle + dayOfYear) - 1 - epochShift

/-- The calendar day that lies `n` days from 1 January 1970. -/
def ofEpochDay (n : Int) : CalendarDay :=
  let shifted := n + epochShift
  let dayOfCycle := (shifted % daysPerCycle).toNat
  let yearOfCycle := yearOfCycleDay dayOfCycle
  let dayOfYear := dayOfCycle - daysBeforeYearOfCycle yearOfCycle
  let marchMonth := marchMonthOfDay dayOfYear
  let month := ofMarchMonth marchMonth
  { year := shifted / daysPerCycle * 400 + yearOfCycle + (if month < 2 then 1 else 0)
    month
    day := dayOfYear - daysBeforeMarchMonth marchMonth + 1 }

/-- The day exists in the calendar. -/
def IsValid (d : CalendarDay) : Prop :=
  d.month < monthsPerYear ∧ 1 ≤ d.day ∧ d.day ≤ monthLength d.year d.month

instance (d : CalendarDay) : Decidable d.IsValid := by
  unfold IsValid; infer_instance

end CalendarDay

end DatePattern

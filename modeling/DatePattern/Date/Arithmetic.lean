import DatePattern.Date.Basic

/-! # Date arithmetic

* `Date.addDays`, `Date.addMonths`, `Date.addYears`: moving a date, keeping its time of day.
* `Date.diffDays`: calendar days between two dates.
* `Date.truncate`, `Date.isSame`: the start of the unit in which a date lies, and whether two
  dates lie in the same one. -/

namespace DatePattern

/-- A unit of the calendar or the clock, coarsest first. -/
inductive Granularity where
  | year
  | month
  | day
  | hour
  | minute
  | second
deriving DecidableEq, Repr

/-- The first day of the unit in which a calendar day lies. -/
def Granularity.startDay : Granularity → CalendarDay → CalendarDay
  | year, d => ⟨d.year, 0, 1⟩
  | month, d => ⟨d.year, d.month, 1⟩
  | _, d => d

/-- The start of the unit in which a time of day lies; days and longer units start at midnight. -/
def Granularity.startClock : Granularity → Clock → Clock
  | hour, c => ⟨c.hours, 0, 0, 0⟩
  | minute, c => ⟨c.hours, c.minutes, 0, 0⟩
  | second, c => ⟨c.hours, c.minutes, c.seconds, 0⟩
  | _, _ => .midnight

namespace Date

/-! ### Moving a date -/

/-- The date `n` days later, at the same time of day. -/
def addDays (d : Date) (n : Int) : Except DateError Date :=
  ofMillis (d.millis + n * millisPerDay)

/-- The date `n` months later, at the same time of day.  The day is clamped to the length of the
month reached. -/
def addMonths (d : Date) (n : Int) : Except DateError Date :=
  let total := d.year * monthsPerYear + d.month + n
  let year := total / monthsPerYear
  let month := (total % monthsPerYear).toNat
  ofParts ⟨year, month, min d.day (monthLength year month)⟩ d.clock

/-- The date `n` years later: the 29th of February becomes the 28th in common years. -/
def addYears (d : Date) (n : Int) : Except DateError Date :=
  d.addMonths (n * monthsPerYear)

/-! ### Comparing dates -/

/-- Calendar days from `b` to `a`, whatever their times of day. -/
def diffDays (a b : Date) : Int := a.epochDay - b.epochDay

/-- Start of the unit in which the date lies; it may fall before the earliest date. -/
def truncate (d : Date) (unit : Granularity) : Except DateError Date :=
  ofParts (unit.startDay d.calendarDay) (unit.startClock d.clock)

/-- Both dates lie in the same unit. -/
def isSame (a b : Date) (unit : Granularity) : Bool :=
  unit.startDay a.calendarDay == unit.startDay b.calendarDay
    && unit.startClock a.clock == unit.startClock b.clock

end Date

end DatePattern

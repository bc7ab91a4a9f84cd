import DatePattern.Date.Arithmetic
import DatePattern.Machine.Calendar

/-! # Dates in machine integers

Instants are 64-bit integers.  Only the fields of a date are added up in 128 bits, where those of 64
bits have room, and in the end the sum is checked to fit an instant. -/

namespace DatePattern

/-- The fields are 64-bit integers. -/
structure Fields.Fit (f : Fields) : Prop where
  year : Machine.i64.Holds f.year
  month : Machine.i64.Holds f.month
  day : Machine.i64.Holds f.day
  hours : Machine.i64.Holds f.hours
  minutes : Machine.i64.Holds f.minutes
  seconds : Machine.i64.Holds f.seconds
  milliseconds : Machine.i64.Holds f.milliseconds

namespace Machine

/-! ### Making dates -/

/-- The instant that the fields denote, in 128 bits. -/
def instant (f : Fields) (year : Int) (month : Nat) : Option Int := do
  let days ← i128.sub (← i128.add (← daysFromCivil year month 1) f.day) 1
  let total ← i128.add (← i128.mul days millisPerDay) (← i128.mul f.hours millisPerHour)
  let total ← i128.add total (← i128.mul f.minutes millisPerMinute)
  let total ← i128.add total (← i128.mul f.seconds millisPerSecond)
  i128.add total f.milliseconds

/-- The date that the fields denote. -/
def ofFields (f : Fields) : Program DateError Date := do
  let year ← okOr (i64.add f.year (← i64.divEuclid f.month monthsPerYear)) .outOfRange
  if (← i64.abs year) ≤ maxYear then
    let month ← u8.cast (← i64.remEuclid f.month monthsPerYear)
    let millis ← okOr (i64.fit (← instant f year month)) .outOfRange
    Date.ofMillis millis
  else throw .outOfRange

/-! ### What a date shows -/

/-- Whole days since the epoch. -/
def epochDay (d : Date) : Option Int := i64.divEuclid d.millis millisPerDay

/-- The calendar day and the time of day. -/
def civil (d : Date) : Option (CalendarDay × Clock) := do
  let day ← civilFromDays (← epochDay d)
  let time ← i64.remEuclid d.millis millisPerDay
  let hours ← u8.cast (← i64.div time millisPerHour)
  let minutes ← u8.cast (← i64.div (← i64.rem time millisPerHour) millisPerMinute)
  let seconds ← u8.cast (← i64.div (← i64.rem time millisPerMinute) millisPerSecond)
  let milliseconds ← u16.cast (← i64.rem time millisPerSecond)
  return (day, ⟨hours, minutes, seconds, milliseconds⟩)

/-- Day of the week, Sunday being 0. -/
def weekday (d : Date) : Option Nat := do
  u8.cast (← i64.remEuclid (← i64.add (← epochDay d) Date.epochWeekday) 7)

/-- Ordinal of the day within its year. -/
def ordinalDay (d : Date) : Option Nat := do
  let (day, _) ← civil d
  dayOfYear day.year day.month day.day

/-! ### Moving a date -/

/-- The date `n` days later. -/
def addDays (d : Date) (n : Int) : Program DateError Date := do
  let moved ← okOr (i64.mul n millisPerDay) .outOfRange
  Date.ofMillis (← okOr (i64.add d.millis moved) .outOfRange)

/-- A clamped day is reported with its month, counted from 1. -/
def reportClamp (month day last : Nat) : Option Unit :=
  if last < day then (u8.add month 1).map fun _ => () else some ()

/-- The date `n` months later. -/
def addMonths (d : Date) (n : Int) : Program DateError Date := do
  let (day, clock) ← civil d
  let months ← okOr (i64.mul day.year monthsPerYear) .outOfRange
  let months ← okOr (i64.add months day.month) .outOfRange
  let total ← okOr (i64.add months n) .outOfRange
  let year ← i64.divEuclid total monthsPerYear
  let month ← u8.cast (← i64.remEuclid total monthsPerYear)
  let last ← monthLength year month
  reportClamp month day.day last
  ofFields (.ofParts ⟨year, month, min day.day last⟩ clock)

/-- The date `n` years later. -/
def addYears (d : Date) (n : Int) : Program DateError Date := do
  addMonths d (← okOr (i64.mul n monthsPerYear) .outOfRange)

/-! ### Comparing dates -/

/-- Calendar days from `b` to `a`. -/
def diffDays (a b : Date) : Option Int := do
  i64.sub (← epochDay a) (← epochDay b)

/-- Start of the unit in which the date lies. -/
def truncate (d : Date) (unit : Granularity) : Program DateError Date := do
  let (day, clock) ← civil d
  ofFields (.ofParts (unit.startDay day) (unit.startClock clock))

end Machine

end DatePattern

import DatePattern.Calendar.EpochDay
import DatePattern.Machine.Integer

/-! # The calendar in machine integers

Years and days from the epoch are 64-bit integers, days of a year 16-bit and months and days of a
month 8-bit ones.

* `daysFromCivil`, `civilFromDays`: counting days from the epoch, in both directions.
* `dayOfYear`, `monthDayOfOrdinal`: ordinals within a year. -/

namespace DatePattern.Machine

/-- Days in a month of a year; none for a month that does not exist. -/
def monthLength (year : Int) (month : Nat) : Option Nat :=
  if month < monthsPerYear then some (DatePattern.monthLength year month) else none

/-! ### Years that start in March -/

/-- Days of a cycle before one of its years. -/
def daysBeforeYearOfCycle (n : Int) : Option Int := do
  i64.sub (← i64.add (← i64.mul n 365) (← i64.div n 4)) (← i64.div n 100)

/-- Year of the cycle in which a day of the cycle lies. -/
def yearOfCycleDay (n : Int) : Option Int := do
  let days ← i64.add (← i64.sub n (← i64.div n 1460)) (← i64.div n 36524)
  i64.div (← i64.sub days (← i64.div n 146096)) 365

/-- Days of a March-based year before one of its months. -/
def daysBeforeMarchMonth (m : Int) : Option Int := do
  i64.div (← i64.add (← i64.mul 153 m) 2) 5

/-- March-based month in which a day of the March-based year lies. -/
def marchMonthOfDay (n : Int) : Option Int := do
  i64.div (← i64.add (← i64.mul 5 n) 2) 153

/-- Number from January of a March-based month. -/
def ofMarchMonth (m : Int) : Option Int := if m < 10 then i64.add m 2 else i64.sub m 10

/-- January and February, here 1 and 2, belong to the March-based year that began the year
before. -/
def marchYear (year month : Int) : Option Int := if month ≤ 2 then i64.sub year 1 else some year

/-! ### Days from the epoch -/

/-- Signed number of days from 1 January 1970. -/
def daysFromCivil (year : Int) (month day : Nat) : Option Int := do
  let month ← i64.add month 1
  let year ← marchYear year month
  let cycle ← i64.divEuclid year 400
  let yearOfCycle ← i64.remEuclid year 400
  let marchMonth ← i64.rem (← i64.add month 9) 12
  let dayOfYear ← i64.sub (← i64.add (← daysBeforeMarchMonth marchMonth) day) 1
  let dayOfCycle ← i64.add (← daysBeforeYearOfCycle yearOfCycle) dayOfYear
  i64.sub (← i64.add (← i64.mul cycle daysPerCycle) dayOfCycle) epochShift

/-- The calendar day that lies so many days from 1 January 1970. -/
def civilFromDays (n : Int) : Option CalendarDay := do
  let shifted ← i64.add n epochShift
  let cycle ← i64.divEuclid shifted daysPerCycle
  let dayOfCycle ← i64.remEuclid shifted daysPerCycle
  let yearOfCycle ← yearOfCycleDay dayOfCycle
  let dayOfYear ← i64.sub dayOfCycle (← daysBeforeYearOfCycle yearOfCycle)
  let marchMonth ← marchMonthOfDay dayOfYear
  let day ← i64.add (← i64.sub dayOfYear (← daysBeforeMarchMonth marchMonth)) 1
  let month ← ofMarchMonth marchMonth
  let year ← i64.add (← i64.add yearOfCycle (← i64.mul cycle 400)) (if month ≤ 1 then 1 else 0)
  return ⟨year, ← u8.cast month, ← u8.cast day⟩

/-! ### Ordinal days -/

/-- Days of the year before the first of the given month. -/
def daysBeforeMonth (year : Int) : Nat → Option Nat
  | 0 => some 0
  | month + 1 => do u16.add (← daysBeforeMonth year month) (← monthLength year month)

/-- Ordinal of a day within its year. -/
def dayOfYear (year : Int) (month day : Nat) : Option Nat := do
  u16.add (← daysBeforeMonth year month) day

/-- The month of the list in which the `remaining`-th day counted from its start lies, with the
day of that month. -/
def monthDayWithin (year : Int) : List Nat → Nat → Option (Option (Nat × Nat))
  | [], _ => some none
  | month :: later, remaining => do
    let length ← monthLength year month
    if remaining ≤ length then return some (month, ← u8.cast remaining)
    else monthDayWithin year later (← u16.sub remaining length)

/-- Month and day of the month of an ordinal day, if the year has it. -/
def monthDayOfOrdinal (year : Int) (ordinal : Nat) : Option (Option (Nat × Nat)) :=
  if ordinal = 0 then some none else monthDayWithin year (List.range monthsPerYear) ordinal

end DatePattern.Machine

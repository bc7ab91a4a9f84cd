import DatePattern.Calendar.Clock
import DatePattern.Calendar.EpochDay
import DatePattern.Calendar.Range
import DatePattern.Error

/-! # Dates

A `Date` is a wall-clock instant without a time zone, held as milliseconds since
1970-01-01T00:00:00.000 and always within the representable range.

* `Date.ofMillis`, `Date.ofFields`: the ways to make a date, both refusing instants out of range.
* `Date.calendarDay`, `Date.clock`: what the calendar and the clock show.
* `DateInput`: a date, or a count of milliseconds still to be checked. -/

namespace DatePattern

/-- A wall-clock instant in the representable range. -/
structure Date where
  millis : Int
  representable : Representable millis
deriving DecidableEq, Repr

/-- Calendar and clock fields as they are handed in: the month counts from 0, and any field may
be negative or exceed its usual bounds. -/
structure Fields where
  year : Int
  month : Int := 0
  day : Int := 1
  hours : Int := 0
  minutes : Int := 0
  seconds : Int := 0
  milliseconds : Int := 0
deriving DecidableEq, Repr

namespace Fields

/-- Year after whole years are carried over from the month. -/
def carriedYear (f : Fields) : Int := f.year + f.month / monthsPerYear

/-- Month after whole years are carried over to the year. -/
def carriedMonth (f : Fields) : Nat := (f.month % monthsPerYear).toNat

/-- The exact instant that the fields denote, every field rolling over into the next larger. -/
def millis (f : Fields) : Int :=
  (CalendarDay.epochDay ⟨f.carriedYear, f.carriedMonth, 1⟩ + f.day - 1) * millisPerDay
    + f.hours * millisPerHour + f.minutes * millisPerMinute + f.seconds * millisPerSecond
    + f.milliseconds

/-- The fields of a calendar day and a time of day. -/
def ofParts (day : CalendarDay) (clock : Clock) : Fields where
  year := day.year
  month := day.month
  day := day.day
  hours := clock.hours
  minutes := clock.minutes
  seconds := clock.seconds
  milliseconds := clock.milliseconds

end Fields

namespace Date

/-! ### Making dates -/

/-- 1970-01-01T00:00:00.000. -/
def epoch : Date := ⟨0, by decide⟩

/-- The date so many milliseconds after the epoch. -/
def ofMillis (millis : Int) : Except DateError Date :=
  if h : Representable millis then .ok ⟨millis, h⟩ else .error .outOfRange

/-- The date that the fields denote.  Years beyond `maxYear` are refused before anything else is
added to them. -/
def ofFields (f : Fields) : Except DateError Date :=
  if f.carriedYear.natAbs ≤ maxYear then ofMillis f.millis else .error .outOfRange

/-- The date at a time of a calendar day. -/
def ofParts (day : CalendarDay) (clock : Clock) : Except DateError Date :=
  ofFields (.ofParts day clock)

theorem ofMillis_eq_ok_iff {millis : Int} {d : Date} :
    ofMillis millis = .ok d ↔ d.millis = millis := by
  unfold ofMillis
  constructor
  · intro h
    split at h
    · cases h; rfl
    · contradiction
  · rintro rfl
    simp [d.representable]

@[simp] theorem ofMillis_millis (d : Date) : ofMillis d.millis = .ok d :=
  ofMillis_eq_ok_iff.2 rfl

theorem ofMillis_eq_error_iff {millis : Int} {e : DateError} :
    ofMillis millis = .error e ↔ ¬ Representable millis ∧ e = .outOfRange := by
  unfold ofMillis
  split <;> simp_all [eq_comm]

/-! ### What a date shows -/

/-- Whole days since the epoch. -/
def epochDay (d : Date) : Int := d.millis / millisPerDay

/-- Milliseconds since midnight. -/
def millisOfDay (d : Date) : Nat := (d.millis % millisPerDay).toNat

/-- The calendar day. -/
def calendarDay (d : Date) : CalendarDay := .ofEpochDay d.epochDay

/-- The time of day. -/
def clock (d : Date) : Clock := .ofMillis d.millisOfDay

/-- Astronomical year. -/
def year (d : Date) : Int := d.calendarDay.year

/-- Month, counted from 0. -/
def month (d : Date) : Nat := d.calendarDay.month

/-- Day of the month, counted from 1. -/
def day (d : Date) : Nat := d.calendarDay.day

/-- Hour of the day. -/
def hours (d : Date) : Nat := d.clock.hours

/-- Minute of the hour. -/
def minutes (d : Date) : Nat := d.clock.minutes

/-- Second of the minute. -/
def seconds (d : Date) : Nat := d.clock.seconds

/-- Millisecond of the second. -/
def milliseconds (d : Date) : Nat := d.clock.milliseconds

/-- Day of the week of 1 January 1970, a Thursday; Sunday is 0. -/
def epochWeekday : Nat := 4

/-- Day of the week, Sunday being 0. -/
def weekday (d : Date) : Nat := ((d.epochDay + epochWeekday) % 7).toNat

/-- Ordinal of the day within its year, counted from 1. -/
def dayOfYear (d : Date) : Nat := DatePattern.dayOfYear d.year d.month d.day

/-! ### Order -/

instance : Ord Date := ⟨fun a b => compare a.millis b.millis⟩

instance : LT Date := ⟨fun a b => a.millis < b.millis⟩

instance : LE Date := ⟨fun a b => a.millis ≤ b.millis⟩

instance (a b : Date) : Decidable (a < b) := inferInstanceAs (Decidable (a.millis < b.millis))

instance (a b : Date) : Decidable (a ≤ b) := inferInstanceAs (Decidable (a.millis ≤ b.millis))

end Date

/-! ### Dates handed in -/

/-- A date, or a count of milliseconds still to be checked. -/
inductive DateInput where
  | date (d : Date)
  | timestamp (millis : Int)
deriving DecidableEq, Repr

/-- The date meant, if it is representable. -/
def DateInput.toDate : DateInput → Except DateError Date
  | date d => .ok d
  | timestamp millis => Date.ofMillis millis

end DatePattern

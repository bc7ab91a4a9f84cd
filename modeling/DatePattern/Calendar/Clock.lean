/-! # Wall-clock times

A time of day as hours, minutes, seconds and milliseconds, and the same time as milliseconds since
midnight.  `halfDayHour` and `fullDayHour` give the hour as 12-hour and 24-hour clocks show it. -/

namespace DatePattern

/-! ### Milliseconds in each unit -/

def millisPerSecond : Nat := 1000
def millisPerMinute : Nat := 60 * millisPerSecond
def millisPerHour : Nat := 60 * millisPerMinute
def millisPerDay : Nat := 24 * millisPerHour

/-! ### Times of day -/

/-- A time of day. -/
structure Clock where
  hours : Nat
  minutes : Nat
  seconds : Nat
  milliseconds : Nat
deriving DecidableEq, Repr

namespace Clock

/-- The start of the day. -/
def midnight : Clock := ⟨0, 0, 0, 0⟩

/-- The time that lies so many milliseconds after midnight. -/
def ofMillis (n : Nat) : Clock where
  hours := n / millisPerHour
  minutes := n % millisPerHour / millisPerMinute
  seconds := n % millisPerMinute / millisPerSecond
  milliseconds := n % millisPerSecond

/-- Milliseconds from midnight to the time. -/
def toMillis (c : Clock) : Nat :=
  c.hours * millisPerHour + c.minutes * millisPerMinute + c.seconds * millisPerSecond
    + c.milliseconds

/-- The time is one that a clock shows. -/
def IsValid (c : Clock) : Prop :=
  c.hours < 24 ∧ c.minutes < 60 ∧ c.seconds < 60 ∧ c.milliseconds < 1000

instance (c : Clock) : Decidable c.IsValid := by
  unfold IsValid; infer_instance

theorem toMillis_ofMillis (n : Nat) : (ofMillis n).toMillis = n := by
  simp only [toMillis, ofMillis, millisPerHour, millisPerMinute, millisPerSecond]
  omega

theorem isValid_ofMillis {n : Nat} (h : n < millisPerDay) : (ofMillis n).IsValid := by
  simp only [IsValid, ofMillis, millisPerDay, millisPerHour, millisPerMinute,
    millisPerSecond] at *
  omega

theorem ofMillis_toMillis {c : Clock} (h : c.IsValid) : ofMillis c.toMillis = c := by
  obtain ⟨hh, hm, hs, hms⟩ := h
  cases c
  simp only [toMillis, ofMillis, millisPerHour, millisPerMinute, millisPerSecond,
    Clock.mk.injEq] at *
  omega

end Clock

/-! ### Hours as clocks show them -/

/-- Hour on a clock that counts 12, 1, 2, … 11 twice a day. -/
def halfDayHour (hours : Nat) : Nat := if hours % 12 = 0 then 12 else hours % 12

/-- Hour on a clock that counts 24, 1, 2, … 23. -/
def fullDayHour (hours : Nat) : Nat := if hours = 0 then 24 else hours

end DatePattern

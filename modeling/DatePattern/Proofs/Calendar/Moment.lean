import DatePattern.Calendar.Clock
import DatePattern.Proofs.Calendar.DayCount

/-! # Moments

A `Moment` is a time of a calendar day.  Every instant of the unbounded calendar shows one, and the
two determine each other: `Moment.millis_ofMillis`, `Moment.ofMillis_millis`. -/

namespace DatePattern

theorem Clock.toMillis_lt {c : Clock} (h : c.IsValid) : c.toMillis < millisPerDay := by
  obtain ⟨hh, hm, hs, hms⟩ := h
  simp only [toMillis, millisPerDay, millisPerHour, millisPerMinute, millisPerSecond]
  omega

/-- A time of a calendar day. -/
structure Moment where
  day : CalendarDay
  clock : Clock
deriving DecidableEq, Repr

namespace Moment

/-- The moment that lies so many milliseconds after the epoch. -/
def ofMillis (instant : Int) : Moment where
  day := .ofEpochDay (instant / millisPerDay)
  clock := .ofMillis (instant % millisPerDay).toNat

/-- Milliseconds from the epoch to the moment. -/
def millis (m : Moment) : Int := m.day.epochDay * millisPerDay + m.clock.toMillis

/-- The day is in the calendar, and the time is one that a clock shows. -/
structure IsValid (m : Moment) : Prop where
  day : m.day.IsValid
  clock : m.clock.IsValid

theorem isValid_ofMillis (instant : Int) : (ofMillis instant).IsValid := by
  refine ⟨CalendarDay.isValid_ofEpochDay _, Clock.isValid_ofMillis ?_⟩
  simp only [millisPerDay, millisPerHour, millisPerMinute, millisPerSecond]
  omega

theorem millis_ofMillis (instant : Int) : (ofMillis instant).millis = instant := by
  rw [millis, ofMillis, CalendarDay.epochDay_ofEpochDay, Clock.toMillis_ofMillis]
  simp only [millisPerDay, millisPerHour, millisPerMinute, millisPerSecond]
  omega

section
variable {m n : Moment} (hm : m.IsValid) (hn : n.IsValid)
include hm

theorem ofMillis_millis : ofMillis m.millis = m := by
  have hlt := Clock.toMillis_lt hm.clock
  have hday : m.millis / millisPerDay = m.day.epochDay := by
    simp only [millis, millisPerDay, millisPerHour, millisPerMinute, millisPerSecond] at *
    omega
  have htime : (m.millis % millisPerDay).toNat = m.clock.toMillis := by
    simp only [millis, millisPerDay, millisPerHour, millisPerMinute, millisPerSecond] at *
    omega
  rw [ofMillis, hday, htime, CalendarDay.ofEpochDay_epochDay hm.day,
    Clock.ofMillis_toMillis hm.clock]

include hn

theorem millis_inj : m.millis = n.millis ↔ m = n := by
  constructor
  · intro h
    rw [← ofMillis_millis hm, h, ofMillis_millis hn]
  · rintro rfl
    rfl

/-- The day decides before the time. -/
theorem millis_lt_iff_parts :
    m.millis < n.millis ↔ m.day.epochDay < n.day.epochDay ∨
      m.day.epochDay = n.day.epochDay ∧ m.clock.toMillis < n.clock.toMillis := by
  have hltm := Clock.toMillis_lt hm.clock
  have hltn := Clock.toMillis_lt hn.clock
  simp only [millis, millisPerDay, millisPerHour, millisPerMinute, millisPerSecond] at *
  omega

end

end Moment

end DatePattern

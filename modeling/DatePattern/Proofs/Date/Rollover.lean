import DatePattern.Proofs.Date.Construction

/-! # Days past the end of their month

A day up to the 31st stays in its year: past the end of its month it comes to a day of the next
month (`CalendarDay.rolledOver`), and no month of 31 days has a day past its end.

* `Date.ofParts_eq_ok_iff`: the date that such a day and a time of day make. -/

namespace DatePattern

namespace CalendarDay

/-- The day of the calendar that a day up to the 31st of a month comes to. -/
def rolledOver (d : CalendarDay) : CalendarDay :=
  if d.day ≤ monthLength d.year d.month then d
  else { d with month := d.month + 1, day := d.day - monthLength d.year d.month }

theorem rolledOver_of_le {d : CalendarDay} (h : d.day ≤ monthLength d.year d.month) :
    d.rolledOver = d := if_pos h

theorem rolledOver_year (d : CalendarDay) : d.rolledOver.year = d.year := by
  unfold rolledOver
  split <;> rfl

section
variable {d : CalendarDay} (hm : d.month < 12) (h1 : 1 ≤ d.day) (h31 : d.day ≤ 31)
include hm h1 h31

/-- Only a month with fewer than 31 days lets a day roll over, and December is none. -/
theorem isValid_rolledOver : d.rolledOver.IsValid := by
  have hy := yearLength_spec d.year
  have hlength := monthLength_eq d.year hm
  unfold rolledOver
  split
  · exact ⟨hm, h1, ‹_›⟩
  · rename_i hpast
    have hnext : d.month + 1 < 12 := by
      split at hlength <;> omega
    have hlength' := monthLength_eq d.year hnext
    refine ⟨hnext, by dsimp only; omega, ?_⟩
    dsimp only
    split at hlength <;> split at hlength' <;> omega

theorem epochDay_rolledOver : d.rolledOver.epochDay = d.epochDay := by
  have hnext := (isValid_rolledOver hm h1 h31).1
  unfold rolledOver at hnext ⊢
  split
  · rfl
  · rename_i hpast
    rw [if_neg hpast] at hnext
    have hstart := epochDay_eq_newYear_add d.year hm d.day
    have hrolled := epochDay_eq_newYear_add d.year hnext (d.day - monthLength d.year d.month)
    have hbefore := daysBeforeMonth_succ d.year d.month
    simp only [dayOfYear] at hstart hrolled
    change epochDay ⟨d.year, d.month + 1, _⟩ = epochDay ⟨d.year, d.month, d.day⟩
    omega

end

end CalendarDay

namespace Date

section
variable {day : CalendarDay} {clock : Clock} {d : Date} (hm : day.month < 12) (h1 : 1 ≤ day.day)
  (h31 : day.day ≤ 31)
include hm h1 h31

theorem ofParts_rolledOver : ofParts day.rolledOver clock = ofParts day clock := by
  have hm' : day.rolledOver.month < 12 := (CalendarDay.isValid_rolledOver hm h1 h31).1
  rw [ofParts, ofParts, ofFields, ofFields, Fields.carriedYear_ofParts hm',
    Fields.carriedYear_ofParts hm, day.rolledOver_year, Fields.millis_ofParts hm',
    Fields.millis_ofParts hm, CalendarDay.epochDay_rolledOver hm h1 h31]

variable (hclock : clock.IsValid)
include hclock

/-- A day up to the 31st and a time of day make the date that shows the day it rolls over to, if
there is one. -/
theorem ofParts_eq_ok_iff :
    ofParts day clock = .ok d ↔ d.calendarDay = day.rolledOver ∧ d.clock = clock := by
  have hvalid := CalendarDay.isValid_rolledOver hm h1 h31
  rw [← ofParts_rolledOver hm h1 h31]
  constructor
  · intro h
    rw [ofParts_eq_ofMillis hvalid hclock, ofMillis_eq_ok_iff] at h
    exact calendarDay_of_millis hvalid hclock h
  · rintro ⟨hday, rfl⟩
    rw [← hday]
    exact d.ofParts_parts

end

end Date

end DatePattern

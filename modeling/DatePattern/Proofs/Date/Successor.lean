import DatePattern.Date.Arithmetic
import DatePattern.Proofs.Date.Construction
import Mathlib.Logic.Function.Iterate

/-! # The day after

`CalendarDay.next` turns the page of a calendar: to the next day of the month, from the last day of
a month to the first of the next, and from the last day of December to New Year.  It knows the table
of month lengths and nothing of the closed-form count of days, which it follows nevertheless.

* `CalendarDay.next_ordinal`: the ordinal day goes on by one, or begins again after the last day of
  its year.
* `CalendarDay.ofEpochDay_succ`, `CalendarDay.ofEpochDay_add`: counting one day on, and any number
  of days, is turning so many pages.  So one day fixes the whole calendar.
* `Date.addDays_one`: what a date shows a day later. -/

namespace DatePattern

namespace CalendarDay

/-- The day after a day of the calendar. -/
def next (d : CalendarDay) : CalendarDay :=
  if d.day < monthLength d.year d.month then { d with day := d.day + 1 }
  else if d.month + 1 < monthsPerYear then ⟨d.year, d.month + 1, 1⟩
  else ⟨d.year + 1, 0, 1⟩

/-! ### One page -/

variable {d : CalendarDay}

theorem isValid_next (h : d.IsValid) : d.next.IsValid := by
  obtain ⟨hm, -, -⟩ := h
  have hfirst : ∀ (year : Int) {month : Nat}, month < 12 →
      (CalendarDay.mk year month 1).IsValid := fun year _ hmonth =>
    ⟨hmonth, Nat.le_refl 1, one_le_monthLength year hmonth⟩
  unfold next
  split
  case isTrue hday => exact ⟨hm, Nat.le_add_left 1 _, hday⟩
  case isFalse =>
    split
    case isTrue hmonth => exact hfirst _ hmonth
    case isFalse => exact hfirst _ (Nat.zero_lt_succ 11)

/-- The ordinal of the last day of December is the length of the year. -/
theorem dayOfYear_lastDay (year : Int) :
    dayOfYear year 11 (monthLength year 11) = yearLength year := by
  have hy := yearLength_spec year
  have hwhole := daysBeforeMonth_eq year (Nat.le_refl 12)
  rw [daysBeforeMonth_succ, if_neg (by decide)] at hwhole
  rw [dayOfYear, hwhole]
  omega

/-- Turning the page either stays in the year and counts its days on, or leaves the last day of the
year for the first of the next. -/
theorem next_ordinal (h : d.IsValid) :
    (d.next.year = d.year ∧
      dayOfYear d.next.year d.next.month d.next.day = dayOfYear d.year d.month d.day + 1) ∨
    (d.next.year = d.year + 1 ∧ dayOfYear d.next.year d.next.month d.next.day = 1 ∧
      dayOfYear d.year d.month d.day = yearLength d.year) := by
  obtain ⟨hm, -, hl⟩ := h
  unfold next
  split
  case isTrue => exact .inl ⟨rfl, rfl⟩
  case isFalse =>
    have hlast : d.day = monthLength d.year d.month := by omega
    split
    case isTrue =>
      left
      refine ⟨rfl, ?_⟩
      dsimp only
      rw [dayOfYear, dayOfYear, daysBeforeMonth_succ, hlast]
    case isFalse =>
      right
      have hdecember : d.month = 11 := by
        unfold monthsPerYear at *
        omega
      refine ⟨rfl, rfl, ?_⟩
      rw [hlast, hdecember, dayOfYear_lastDay]

theorem epochDay_next (h : d.IsValid) : d.next.epochDay = d.epochDay + 1 := by
  have hday := epochDay_eq_newYear_add d.year h.1 d.day
  have hnext := epochDay_eq_newYear_add d.next.year (isValid_next h).1 d.next.day
  have hyear := epochDay_newYear_succ d.year
  change d.epochDay = _ at hday
  change d.next.epochDay = _ at hnext
  rcases next_ordinal h with ⟨heq, hordinal⟩ | ⟨heq, hfirst, hlast⟩
  · rw [hnext, hordinal, heq]
    omega
  · rw [hnext, hfirst, heq]
    omega

/-! ### Many pages -/

theorem ofEpochDay_succ (n : Int) : ofEpochDay (n + 1) = (ofEpochDay n).next := by
  have hvalid := isValid_ofEpochDay n
  have hcount := epochDay_next hvalid
  rw [epochDay_ofEpochDay] at hcount
  rw [← hcount, ofEpochDay_epochDay (isValid_next hvalid)]

/-- The day that lies so many days after another is reached page by page. -/
theorem ofEpochDay_add (n : Int) (count : Nat) :
    ofEpochDay (n + count) = next^[count] (ofEpochDay n) := by
  induction count with
  | zero => simp
  | succ count ih =>
      rw [Function.iterate_succ_apply', ← ih, ← ofEpochDay_succ]
      congr 1
      omega

end CalendarDay

/-! ### Dates -/

namespace Date

variable {d e : Date}

theorem addDays_eq_ok_iff {n : Int} :
    d.addDays n = .ok e ↔ e.millis = d.millis + n * millisPerDay := by
  rw [addDays, ofMillis_eq_ok_iff]

/-- Moving a date by days moves its day count by as many, and leaves its time of day. -/
theorem addDays_eq_ok {n : Int} (h : d.addDays n = .ok e) :
    e.epochDay = d.epochDay + n ∧ e.clock = d.clock := by
  rw [addDays_eq_ok_iff] at h
  have hpos : (millisPerDay : Int) ≠ 0 := by decide
  constructor
  · rw [epochDay, epochDay, h, Int.add_mul_ediv_right _ _ hpos]
  · rw [clock, clock, millisOfDay, millisOfDay, h, Int.add_mul_emod_self_right]

/-- A date moved by so many days shows the calendar day so many pages on. -/
theorem calendarDay_addDays {count : Nat} (h : d.addDays count = .ok e) :
    e.calendarDay = CalendarDay.next^[count] d.calendarDay := by
  rw [calendarDay, (addDays_eq_ok h).1, CalendarDay.ofEpochDay_add]
  rfl

/-- A day later a date shows the same time of the next day of the calendar and the next day of the
week; the ordinal of its day is one more, or that of New Year after that of the last day of the
year before. -/
theorem addDays_one (h : d.addDays 1 = .ok e) :
    e.clock = d.clock ∧
    e.calendarDay =
      (if d.day < monthLength d.year d.month then ⟨d.year, d.month, d.day + 1⟩
        else if d.month < 11 then ⟨d.year, d.month + 1, 1⟩
        else ⟨d.year + 1, 0, 1⟩) ∧
    e.weekday = (d.weekday + 1) % 7 ∧
    ((e.year = d.year ∧ e.dayOfYear = d.dayOfYear + 1) ∨
      (e.year = d.year + 1 ∧ e.dayOfYear = 1 ∧ d.dayOfYear = yearLength d.year)) := by
  obtain ⟨hcount, hclock⟩ := addDays_eq_ok h
  have hnext : e.calendarDay = d.calendarDay.next := by
    rw [calendarDay, hcount, CalendarDay.ofEpochDay_succ]
    rfl
  have hmonth : d.calendarDay.month + 1 < monthsPerYear ↔ d.month < 11 := by
    unfold monthsPerYear month
    omega
  refine ⟨hclock, ?_, ?_, ?_⟩
  · rw [hnext, CalendarDay.next]
    simp only [hmonth]
    rfl
  · rw [weekday, weekday, hcount]
    omega
  · have hordinal := CalendarDay.next_ordinal d.isValid_calendarDay
    rw [← hnext] at hordinal
    exact hordinal

/-- From the last instant of the year -1 to that of New Year of the year 0. -/
theorem addDays_one_newYear :
    (⟨-62167219200001, by decide⟩ : Date).addDays 1 = .ok ⟨-62167132800001, by decide⟩ ∧
    (⟨-62167219200001, by decide⟩ : Date).calendarDay = ⟨-1, 11, 31⟩ ∧
    (⟨-62167132800001, by decide⟩ : Date).calendarDay = ⟨0, 0, 1⟩ ∧
    (⟨-62167132800001, by decide⟩ : Date).clock = (⟨-62167219200001, by decide⟩ : Date).clock ∧
    (⟨-62167132800001, by decide⟩ : Date).weekday =
      ((⟨-62167219200001, by decide⟩ : Date).weekday + 1) % 7 ∧
    (⟨-62167132800001, by decide⟩ : Date).dayOfYear = 1 ∧
    (⟨-62167219200001, by decide⟩ : Date).dayOfYear = yearLength (-1) := by
  have hmoved : (⟨-62167219200001, by decide⟩ : Date).addDays 1 =
      .ok ⟨-62167132800001, by decide⟩ := by decide +kernel
  have hlast : (⟨-62167219200001, by decide⟩ : Date).calendarDay = ⟨-1, 11, 31⟩ := by
    decide +kernel
  have hyear : (⟨-62167132800001, by decide⟩ : Date).year ≠
      (⟨-62167219200001, by decide⟩ : Date).year := by decide +kernel
  obtain ⟨hclock, hday, hweekday, hordinal⟩ := addDays_one hmoved
  obtain ⟨-, hfirst, hlength⟩ := hordinal.resolve_left fun h => hyear h.1
  refine ⟨hmoved, hlast, ?_, hclock, hweekday, hfirst, ?_⟩
  · rw [hday, year, month, day, hlast]
    rfl
  · rw [hlength, year, hlast]

end Date

end DatePattern

import DatePattern.Date.Basic
import DatePattern.Proofs.Calendar.CountedDays
import DatePattern.Proofs.Calendar.Moment

/-! # Dates and their fields

A date is its calendar day together with its time of day, and the fields of a date make that date
again.

* `Date.millis_eq`: the instant of a date from its calendar day and its time of day.
* `Date.year_bounds`: the years that dates lie in.
* `Date.ofParts_eq_ok`, `Date.ofParts_parts`: which days and times make a date, and which date.
* `calendarDays_correspond`: day counts, calendar days and dates determine each other.
* `ofFields_exact`: what any fields whatever come to. -/

namespace DatePattern

/-! ### Instants of days and times -/

theorem Fields.carriedYear_eq (f : Fields) : f.carriedYear = f.year + f.month / 12 := rfl

theorem Fields.carriedMonth_eq (f : Fields) : f.carriedMonth = (f.month % 12).toNat := rfl

theorem Fields.carriedYear_ofParts {day : CalendarDay} (hm : day.month < 12) (clock : Clock) :
    (ofParts day clock).carriedYear = day.year := by
  simp only [carriedYear_eq, ofParts]
  omega

/-- The fields of a day and a time denote the instant at that time of that day. -/
theorem Fields.millis_ofParts {day : CalendarDay} (h : day.month < 12) (clock : Clock) :
    (Fields.ofParts day clock).millis = day.epochDay * millisPerDay + clock.toMillis := by
  obtain ⟨year, month, d⟩ := day
  dsimp only at h
  have hfirst := CalendarDay.epochDay_eq_newYear_add year h 1
  have hday := CalendarDay.epochDay_eq_newYear_add year h d
  have hyear : (Fields.ofParts ⟨year, month, d⟩ clock).carriedYear = year :=
    carriedYear_ofParts h clock
  have hmonth : (Fields.ofParts ⟨year, month, d⟩ clock).carriedMonth = month := by
    simp only [carriedMonth_eq, ofParts]
    omega
  rw [millis, hyear, hmonth]
  simp only [dayOfYear, ofParts, Clock.toMillis, millisPerDay, millisPerHour, millisPerMinute,
    millisPerSecond] at *
  omega

/-- A day within 100,000,000 days of the epoch lies within 275,760 years of year 0. -/
theorem CalendarDay.year_bounds {d : CalendarDay} (h : d.IsValid) (hl : -100000000 ≤ d.epochDay)
    (hr : d.epochDay ≤ 100000000) : -271821 ≤ d.year ∧ d.year ≤ 275760 := by
  obtain ⟨year, month, day⟩ := d
  obtain ⟨hm, h1, hd⟩ := h
  dsimp only [monthsPerYear] at hm h1 hd
  have hle := dayOfYear_le_yearLength year hm hd
  have hy := yearLength_spec year
  rw [epochDay_eq_newYear_add year hm, epochDay_newYear] at hl hr
  have hpos : 1 ≤ dayOfYear year month day := h1.trans (Nat.le_add_left _ _)
  show -271821 ≤ year ∧ year ≤ 275760
  constructor <;> omega

/-- Every time of every day of the years between is in the range. -/
theorem CalendarDay.representable_of_year {d : CalendarDay} {clock : Clock} (h : d.IsValid)
    (hclock : clock.IsValid) (hl : -271821 < d.year) (hr : d.year < 275760) :
    Representable (d.epochDay * millisPerDay + clock.toMillis) := by
  obtain ⟨year, month, day⟩ := d
  obtain ⟨hm, h1, hd⟩ := h
  dsimp only [monthsPerYear] at hm h1 hd hl hr
  have hle := dayOfYear_le_yearLength year hm hd
  have hpos : 1 ≤ dayOfYear year month day := h1.trans (Nat.le_add_left _ _)
  have hy := yearLength_spec year
  have hlt := Clock.toMillis_lt hclock
  rw [epochDay_eq_newYear_add year hm, epochDay_newYear]
  simp only [Representable, maxMillis, millisPerDay, millisPerHour, millisPerMinute,
    millisPerSecond] at *
  omega

theorem representable_iff_natAbs_le {instant : Int} :
    Representable instant ↔ instant.natAbs ≤ maxMillis := by
  rw [Representable]
  omega

namespace Date

theorem ofMillis_of_natAbs_le {instant : Int} (h : instant.natAbs ≤ maxMillis) :
    ∃ d, ofMillis instant = .ok d ∧ d.millis = instant :=
  ⟨⟨instant, representable_iff_natAbs_le.2 h⟩, ofMillis_eq_ok_iff.2 rfl, rfl⟩

theorem ofMillis_of_lt_natAbs {instant : Int} (h : maxMillis < instant.natAbs) :
    ofMillis instant = .error .outOfRange :=
  ofMillis_eq_error_iff.2 ⟨fun hrange => Nat.not_le.2 h (representable_iff_natAbs_le.1 hrange), rfl⟩

/-! ### What a date shows -/

variable (d : Date)

theorem epochDay_bounds : -100000000 ≤ d.epochDay ∧ d.epochDay ≤ 100000000 := by
  have h := d.representable
  simp only [Representable, maxMillis, epochDay, millisPerDay, millisPerHour, millisPerMinute,
    millisPerSecond] at *
  omega

/-- The moment that a date shows. -/
def moment : Moment := .ofMillis d.millis

theorem isValid_moment : d.moment.IsValid := Moment.isValid_ofMillis _

theorem isValid_calendarDay : d.calendarDay.IsValid := d.isValid_moment.day

theorem isValid_clock : d.clock.IsValid := d.isValid_moment.clock

theorem month_lt : d.month < 12 := d.isValid_calendarDay.1

theorem one_le_day : 1 ≤ d.day := d.isValid_calendarDay.2.1

theorem day_le_monthLength : d.day ≤ monthLength d.year d.month := d.isValid_calendarDay.2.2

theorem epochDay_calendarDay : d.calendarDay.epochDay = d.epochDay :=
  CalendarDay.epochDay_ofEpochDay _

theorem millis_moment : d.moment.millis = d.millis := Moment.millis_ofMillis _

theorem millis_eq : d.millis = d.calendarDay.epochDay * millisPerDay + d.clock.toMillis :=
  d.millis_moment.symm

theorem year_bounds : -271821 ≤ d.year ∧ d.year ≤ 275760 := by
  have h := d.epochDay_bounds
  rw [← epochDay_calendarDay] at h
  exact CalendarDay.year_bounds d.isValid_calendarDay h.1 h.2

variable {d}

theorem millis_inj {e : Date} : d.millis = e.millis ↔ d = e := by
  cases d
  cases e
  simp

/-- A date is determined by its calendar day and its time of day. -/
theorem eq_of_parts {e : Date} (hday : d.calendarDay = e.calendarDay) (hclock : d.clock = e.clock) :
    d = e := by
  rw [← millis_inj, d.millis_eq, e.millis_eq, hday, hclock]

/-! ### Making a date of a day and a time -/

theorem calendarDay_of_millis {day : CalendarDay} {clock : Clock} (hday : day.IsValid)
    (hclock : clock.IsValid) (h : d.millis = day.epochDay * millisPerDay + clock.toMillis) :
    d.calendarDay = day ∧ d.clock = clock := by
  have hvalid : Moment.IsValid ⟨day, clock⟩ := ⟨hday, hclock⟩
  have hinstant : d.millis = Moment.millis ⟨day, clock⟩ := h
  have hmoment : d.moment = ⟨day, clock⟩ := by
    rw [moment, hinstant, Moment.ofMillis_millis hvalid]
  exact ⟨congrArg Moment.day hmoment, congrArg Moment.clock hmoment⟩

section
variable {day : CalendarDay} {clock : Clock} (hday : day.IsValid) (hclock : clock.IsValid)
include hday hclock

/-- A time of a day of the calendar makes the date at that instant, which is out of the range when
the year is beyond the limit. -/
theorem ofParts_eq_ofMillis :
    ofParts day clock = ofMillis (day.epochDay * millisPerDay + clock.toMillis) := by
  rw [ofParts, ofFields, Fields.carriedYear_ofParts hday.1, Fields.millis_ofParts hday.1]
  split
  case isTrue => rfl
  case isFalse hyear =>
    symm
    rw [ofMillis_eq_error_iff]
    refine ⟨fun hrange => hyear ?_, rfl⟩
    have hlt := Clock.toMillis_lt hclock
    have hdays : -100000000 ≤ day.epochDay ∧ day.epochDay ≤ 100000000 := by
      simp only [Representable, maxMillis, millisPerDay, millisPerHour, millisPerMinute,
        millisPerSecond] at *
      omega
    have hbounds := CalendarDay.year_bounds hday hdays.1 hdays.2
    rw [maxYear]
    omega

/-- A time of a day of the calendar makes the date that shows them, unless that day is beyond the
range. -/
theorem ofParts_eq_ok (hr : Representable (day.epochDay * millisPerDay + clock.toMillis)) :
    ∃ d, ofParts day clock = .ok d ∧ d.calendarDay = day ∧ d.clock = clock := by
  refine ⟨⟨_, hr⟩, ?_, calendarDay_of_millis hday hclock rfl⟩
  rw [ofParts_eq_ofMillis hday hclock, ofMillis_eq_ok_iff]

end

variable (d)

/-- The calendar day and the time of day of a date make that date again. -/
theorem ofParts_parts : ofParts d.calendarDay d.clock = .ok d := by
  obtain ⟨e, he, hday, hclock⟩ := ofParts_eq_ok d.isValid_calendarDay d.isValid_clock
    (by rw [← d.millis_eq]; exact d.representable)
  rw [he, eq_of_parts hday hclock]

end Date

/-! ### Main statements -/

open CalendarDay in
/-- Day counts and days of the calendar correspond one to one, and the seven fields that a date
shows are in their usual bounds and make that date again. -/
theorem calendarDays_correspond :
    (∀ n : Int, (ofEpochDay n).month < 12 ∧ 1 ≤ (ofEpochDay n).day ∧
      (ofEpochDay n).day ≤ monthLength (ofEpochDay n).year (ofEpochDay n).month ∧
      (ofEpochDay n).epochDay = n) ∧
    (∀ (year : Int) (month day : Nat), month < 12 → 1 ≤ day → day ≤ monthLength year month →
      ofEpochDay (epochDay ⟨year, month, day⟩) = ⟨year, month, day⟩) ∧
    ∀ d : Date, d.hours < 24 ∧ d.minutes < 60 ∧ d.seconds < 60 ∧ d.milliseconds < 1000 ∧
      Date.ofFields ⟨d.year, d.month, d.day, d.hours, d.minutes, d.seconds, d.milliseconds⟩ =
        .ok d := by
  refine ⟨?_, ?_, ?_⟩
  · intro n
    obtain ⟨hm, h1, hd⟩ := isValid_ofEpochDay n
    exact ⟨hm, h1, hd, epochDay_ofEpochDay n⟩
  · intro year month day hm h1 hd
    exact ofEpochDay_epochDay ⟨hm, h1, hd⟩
  · intro d
    obtain ⟨hh, hmin, hs, hms⟩ := d.isValid_clock
    exact ⟨hh, hmin, hs, hms, d.ofParts_parts⟩

theorem calendarDays_correspond_leapDay :
    1 < 12 ∧ 1 ≤ 29 ∧ 29 ≤ monthLength (-400) 1 ∧
      CalendarDay.ofEpochDay (CalendarDay.epochDay ⟨-400, 1, 29⟩) = ⟨-400, 1, 29⟩ :=
  ⟨by decide, by decide, by decide,
    calendarDays_correspond.2.1 (-400) 1 29 (by decide) (by decide) (by decide)⟩

/-- Fields of any size denote the instant that adding up years, months, days and times gives, and
they make a date exactly when that instant is in the range.  Whole years are carried from the month
to the year first. -/
theorem ofFields_exact (f : Fields) (h : (f.year + f.month / 12).natAbs ≤ 300000) :
    let days := countedDays (f.year + f.month / 12) (f.month % 12).toNat + f.day - 1
    let instant := 86400000 * days + 3600000 * f.hours + 60000 * f.minutes + 1000 * f.seconds
      + f.milliseconds
    (instant.natAbs ≤ maxMillis → ∃ d, Date.ofFields f = .ok d ∧ d.millis = instant) ∧
      (maxMillis < instant.natAbs → Date.ofFields f = .error .outOfRange) := by
  intro days instant
  have hmonth : (f.month % 12).toNat < 12 := by omega
  have hinstant : f.millis = instant := by
    have hcount := CalendarDay.epochDay_eq_countedDays (f.year + f.month / 12) hmonth
    rw [Fields.millis, Fields.carriedYear_eq, Fields.carriedMonth_eq]
    simp only [millisPerDay, millisPerHour, millisPerMinute, millisPerSecond, instant, days] at *
    omega
  have hof : Date.ofFields f = Date.ofMillis instant := by
    rw [Date.ofFields, Fields.carriedYear_eq, maxYear, if_pos h, hinstant]
  rw [hof]
  constructor
  · intro hle
    have hr : Representable instant := by
      rw [Representable]
      omega
    exact ⟨⟨instant, hr⟩, Date.ofMillis_eq_ok_iff.2 rfl, rfl⟩
  · intro hlt
    apply Date.ofMillis_eq_error_iff.2
    constructor
    · intro hr
      rw [Representable] at hr
      omega
    · rfl

/-- Carries of opposite sign: thirteen months back, sixty days on, and more hours than days have. -/
theorem ofFields_exact_carries :
    ((2024 : Int) + -13 / 12).natAbs ≤ 300000 ∧
      ∃ d, Date.ofFields ⟨2024, -13, 60, -25, 61, 3600, -1⟩ = .ok d ∧ d.millis = 1674867659999 :=
  ⟨by decide, (ofFields_exact ⟨2024, -13, 60, -25, 61, 3600, -1⟩ (by decide)).1 (by decide)⟩

end DatePattern

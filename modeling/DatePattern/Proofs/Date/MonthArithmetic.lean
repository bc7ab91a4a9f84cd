import DatePattern.Date.Arithmetic
import DatePattern.Proofs.Calendar.MonthCount
import DatePattern.Proofs.Date.Rollover
import DatePattern.Proofs.Date.YearLimit

/-! # Moving dates by months and years

A date moved by months shows the day that `CalendarDay.addMonths` gives, at its own time of day
(`Date.addMonths_eq_ok_iff`).  So what can be said about moved dates is said about calendar days.

* `Date.addMonths_exact`: where a date is moved to, and when it cannot be moved.  Numbers that do
  not fit a word of 64 bits make no difference: the years they lead to are out of the range.
* `Date.addMonths_laws`: what is left of the laws of addition where days are clamped. -/

namespace DatePattern

/-! ### Landing on a day -/

/-- The instant at a time of a calendar day, counted year by year and month by month. -/
def countedInstant (day : CalendarDay) (clock : Clock) : Int :=
  86400000 * (countedDays day.year day.month + day.day - 1) + 3600000 * clock.hours
    + 60000 * clock.minutes + 1000 * clock.seconds + clock.milliseconds

/-- The result is the date at a time of a calendar day, and an error if that instant is out of the
range. -/
structure LandsAt (day : CalendarDay) (clock : Clock) (result : Except DateError Date) : Prop where
  inside : (countedInstant day clock).natAbs ≤ maxMillis → ∃ e : Date, result = .ok e ∧
    e.millis = countedInstant day clock ∧ e.calendarDay = day ∧ e.clock = clock
  outside : maxMillis < (countedInstant day clock).natAbs → result = .error .outOfRange

section
variable {day : CalendarDay} {clock : Clock}

theorem countedInstant_eq (h : day.month < 12) :
    countedInstant day clock = day.epochDay * millisPerDay + clock.toMillis := by
  have hfirst := CalendarDay.epochDay_eq_countedDays day.year h
  have hday := CalendarDay.epochDay_ofMonthCount day.monthCount day.day
  rw [CalendarDay.ofMonthCount_monthCount h] at hday
  have hmonth : CalendarDay.ofMonthCount day.monthCount 1 = ⟨day.year, day.month, 1⟩ :=
    CalendarDay.ofMonthCount_monthCount (d := ⟨day.year, day.month, 1⟩) h
  rw [hmonth, hfirst] at hday
  rw [countedInstant, hday, Clock.toMillis]
  simp only [millisPerDay, millisPerHour, millisPerMinute, millisPerSecond]
  omega

theorem Date.ofFields_eq_error {f : Fields} (h : ∀ e, ofFields f ≠ .ok e) :
    ofFields f = .error .outOfRange := by
  unfold ofFields ofMillis at *
  split at h
  · rename_i hyear
    rw [if_pos hyear]
    split at h
    · exact absurd rfl (h _)
    · rename_i hrange
      rw [dif_neg hrange]
  · rename_i hyear
    rw [if_neg hyear]

theorem Date.landsAt_ofParts (hday : day.IsValid) (hclock : clock.IsValid) :
    LandsAt day clock (ofParts day clock) := by
  have hinstant : countedInstant day clock = day.epochDay * millisPerDay + clock.toMillis :=
    countedInstant_eq hday.1
  rw [ofParts_eq_ofMillis hday hclock, ← hinstant]
  constructor
  · intro hle
    obtain ⟨e, he, hmillis⟩ := ofMillis_of_natAbs_le hle
    exact ⟨e, he, hmillis, calendarDay_of_millis hday hclock (hmillis.trans hinstant)⟩
  · exact ofMillis_of_lt_natAbs

end

namespace Date

/-! ### Moved dates -/

theorem addMonths_eq_ofParts (d : Date) (n : Int) :
    d.addMonths n = ofParts (d.calendarDay.addMonths n) d.clock := by
  have htotal : d.year * monthsPerYear + d.month + n = d.calendarDay.monthCount + n := by
    rw [CalendarDay.monthCount, Int.mul_comm]
    rfl
  rw [addMonths, htotal]
  rfl

/-- A date is moved to the day that its calendar day is moved to, at the same time of day. -/
theorem addMonths_eq_ok_iff {d e : Date} {n : Int} :
    d.addMonths n = .ok e ↔ e.calendarDay = d.calendarDay.addMonths n ∧ e.clock = d.clock := by
  have hvalid := CalendarDay.isValid_addMonths d.isValid_calendarDay.2.1 n
  have hle := monthLength_le (d.calendarDay.addMonths n).year hvalid.1
  have hstays : (d.calendarDay.addMonths n).rolledOver = d.calendarDay.addMonths n :=
    if_pos hvalid.2.2
  rw [addMonths_eq_ofParts, ofParts_eq_ok_iff hvalid.1 hvalid.2.1 (hvalid.2.2.trans hle)
    d.isValid_clock, hstays]

/-! ### Words of 64 bits -/

/-- The number fits a signed word of 64 bits. -/
def FitsWord (n : Int) : Prop := -2 ^ 63 ≤ n ∧ n < 2 ^ 63

instance (n : Int) : Decidable (FitsWord n) := by
  unfold FitsWord; infer_instance

/-- The number, if it fits a word. -/
def checked (n : Int) : Except DateError Int := if FitsWord n then .ok n else .error .outOfRange

theorem checked_bind {n : Int} (h : FitsWord n) (f : Int → Except DateError Date) :
    checked n >>= f = f n := by
  rw [checked, if_pos h]
  rfl

theorem checked_bind_of_not {n : Int} (h : ¬ FitsWord n) (f : Int → Except DateError Date) :
    checked n >>= f = .error .outOfRange := by
  rw [checked, if_neg h]
  rfl

/-- `addMonths` on words: every number on the way to the month is checked. -/
def addMonthsChecked (d : Date) (n : Int) : Except DateError Date := do
  let months ← checked (d.year * monthsPerYear)
  let months ← checked (months + d.month)
  let total ← checked (months + n)
  let year := total / monthsPerYear
  let month := (total % monthsPerYear).toNat
  ofParts ⟨year, month, min d.day (monthLength year month)⟩ d.clock

/-- `addYears` on words. -/
def addYearsChecked (d : Date) (n : Int) : Except DateError Date := do
  let months ← checked (n * monthsPerYear)
  d.addMonthsChecked months

theorem landsAt_addMonths (d : Date) (n : Int) :
    LandsAt (d.calendarDay.addMonths n) d.clock (d.addMonths n) := by
  rw [addMonths_eq_ofParts]
  exact landsAt_ofParts (CalendarDay.isValid_addMonths d.isValid_calendarDay.2.1 n) d.isValid_clock

/-- The range has no room for so many months. -/
theorem addMonths_eq_error (d : Date) {n : Int} (h : 10000000 ≤ n.natAbs) :
    d.addMonths n = .error .outOfRange := by
  rw [addMonths_eq_ofParts]
  refine ofFields_eq_error fun e he => ?_
  have hok : d.addMonths n = .ok e := by
    rw [addMonths_eq_ofParts]
    exact he
  have hcount := CalendarDay.monthCount_addMonths d.calendarDay n
  rw [← (addMonths_eq_ok_iff.1 hok).1] at hcount
  change 12 * e.year + e.month = 12 * d.year + d.month + n at hcount
  have hd := d.year_bounds
  have he := e.year_bounds
  have hmd := d.month_lt
  have hme := e.month_lt
  omega

theorem addMonthsChecked_eq (d : Date) (n : Int) : d.addMonthsChecked n = d.addMonths n := by
  have hyear := d.year_bounds
  have hmonth := d.month_lt
  have hyears : FitsWord (d.year * monthsPerYear) := by
    simp only [FitsWord, monthsPerYear]
    omega
  have hmonths : FitsWord (d.year * monthsPerYear + d.month) := by
    simp only [FitsWord, monthsPerYear]
    omega
  rw [addMonthsChecked, checked_bind hyears, checked_bind hmonths]
  by_cases htotal : FitsWord (d.year * monthsPerYear + d.month + n)
  · rw [checked_bind htotal]
    rfl
  · have hfar : 10000000 ≤ n.natAbs := by
      simp only [FitsWord, monthsPerYear] at htotal
      omega
    rw [checked_bind_of_not htotal, addMonths_eq_error d hfar]

/-- So many years that their months do not fit a word are too many. -/
theorem addYears_eq_error (d : Date) {n : Int} (h : ¬ FitsWord (n * monthsPerYear)) :
    d.addYears n = .error .outOfRange := by
  have hfar : 10000000 ≤ (n * monthsPerYear).natAbs := by
    rw [FitsWord] at h
    omega
  exact addMonths_eq_error d hfar

theorem addYearsChecked_eq (d : Date) (n : Int) : d.addYearsChecked n = d.addYears n := by
  unfold addYearsChecked
  by_cases hmonths : FitsWord (n * monthsPerYear)
  · rw [checked_bind hmonths, addYears, addMonthsChecked_eq]
  · rw [checked_bind_of_not hmonths, addYears_eq_error d hmonths]

/-! ### Main statements -/

/-- A date moved by months lands in the month that many months on, and one moved by years in the
same month that many years on, on its own day or else the last of the month, at its own time of day.
It cannot be moved there exactly when that instant is out of the range, in particular when the
months do not fit a word; so checking every number changes nothing. -/
theorem addMonths_exact (d : Date) (n : Int) :
    (let year := (12 * d.year + d.month + n) / 12
      let month := ((12 * d.year + d.month + n) % 12).toNat
      LandsAt ⟨year, month, min d.day (monthLength year month)⟩ d.clock (d.addMonths n)) ∧
    LandsAt ⟨d.year + n, d.month, min d.day (monthLength (d.year + n) d.month)⟩ d.clock
      (d.addYears n) ∧
    (¬ FitsWord (12 * n) → d.addYears n = .error .outOfRange) ∧
    d.addMonthsChecked n = d.addMonths n ∧ d.addYearsChecked n = d.addYears n := by
  have hyears := landsAt_addMonths d (12 * n)
  rw [CalendarDay.addMonths_years d.month_lt, Int.mul_comm] at hyears
  refine ⟨landsAt_addMonths d n, hyears, fun hword => ?_, addMonthsChecked_eq d n,
    addYearsChecked_eq d n⟩
  rw [Int.mul_comm] at hword
  exact addYears_eq_error d hword

/-- A leap day moved to February of other years, the year -100 among them, which has no leap day;
and the fewest years whose months do not fit a word, which would wrap to the distant past. -/
theorem addMonths_exact_leapDay :
    ((∃ e, (⟨1709214330250, by decide⟩ : Date).addMonths (-36) = .ok e ∧
        e.calendarDay = ⟨2021, 1, 28⟩ ∧ e.clock = ⟨13, 45, 30, 250⟩) ∧
      ∃ e, (⟨1709214330250, by decide⟩ : Date).addYears (-2124) = .ok e ∧
        e.calendarDay = ⟨-100, 1, 28⟩ ∧ e.clock = ⟨13, 45, 30, 250⟩) ∧
    ¬ FitsWord (12 * 768614336404564651) ∧
      (⟨1709214330250, by decide⟩ : Date).addYears 768614336404564651 = .error .outOfRange := by
  have hday : (⟨1709214330250, by decide⟩ : Date).calendarDay = ⟨2024, 1, 29⟩ := by decide +kernel
  have hclock : (⟨1709214330250, by decide⟩ : Date).clock = ⟨13, 45, 30, 250⟩ := by decide +kernel
  have hword : ¬ FitsWord (12 * 768614336404564651) := by decide
  obtain ⟨hmonths, -, -⟩ := addMonths_exact ⟨1709214330250, by decide⟩ (-36)
  obtain ⟨-, hyears, -⟩ := addMonths_exact ⟨1709214330250, by decide⟩ (-2124)
  obtain ⟨-, -, hfar, -⟩ := addMonths_exact ⟨1709214330250, by decide⟩ 768614336404564651
  simp only [year, month, day, hday, hclock] at hmonths hyears
  refine ⟨⟨?_, ?_⟩, hword, hfar hword⟩
  · obtain ⟨e, he, -, hshown⟩ := hmonths.inside (by
      rw [countedInstant_eq (by decide)]
      decide +kernel)
    exact ⟨e, he, hshown⟩
  · obtain ⟨e, he, -, hshown⟩ := hyears.inside (by
      rw [countedInstant_eq (by decide)]
      decide +kernel)
    exact ⟨e, he, hshown⟩

theorem le_of_epochDay_le {a b : Date} (hclock : a.clock = b.clock)
    (h : a.calendarDay.epochDay ≤ b.calendarDay.epochDay) : a ≤ b := by
  have ha := a.millis_eq
  have hb := b.millis_eq
  rw [← hclock] at hb
  simp only [millisPerDay, millisPerHour, millisPerMinute, millisPerSecond] at ha hb
  change a.millis ≤ b.millis
  omega

/-- Dates moved by as many months stay in the order of their calendar days.  A date moved there and
back is the same exactly when its day exists in the month between.  Two moves lead to the same time
of the same month as one, at most three days earlier, and to the same day if that is one of the 28
that every month has. -/
theorem addMonths_laws :
    (∀ (a b a' b' : Date) (n : Int), a.diffDays b ≤ 0 → a.addMonths n = .ok a' →
      b.addMonths n = .ok b' → a'.diffDays b' ≤ 0) ∧
    (∀ (a b : Date) (n : Int), a.addMonths n = .ok b →
      (b.addMonths (-n) = .ok a ↔ a.day ≤ monthLength b.year b.month)) ∧
    ∀ (a b c e : Date) (n m : Int), a.addMonths n = .ok b → b.addMonths m = .ok c →
      a.addMonths (n + m) = .ok e →
        c.year = e.year ∧ c.month = e.month ∧ c.clock = e.clock ∧ c ≤ e ∧ e.diffDays c ≤ 3 ∧
          (a.day ≤ 28 → c = e) := by
  refine ⟨?_, ?_, ?_⟩
  · intro a b a' b' n h ha hb
    have hle : a.calendarDay.epochDay ≤ b.calendarDay.epochDay := by
      rw [epochDay_calendarDay, epochDay_calendarDay]
      exact Int.le_of_sub_nonpos h
    have hmoved := CalendarDay.epochDay_addMonths_le a.isValid_calendarDay b.isValid_calendarDay
      hle n
    rw [← (addMonths_eq_ok_iff.1 ha).1, ← (addMonths_eq_ok_iff.1 hb).1, epochDay_calendarDay,
      epochDay_calendarDay] at hmoved
    exact Int.sub_nonpos_of_le hmoved
  · intro a b n h
    obtain ⟨hday, hclock⟩ := addMonths_eq_ok_iff.1 h
    have hlength := CalendarDay.countedMonthLength_monthCount b.isValid_calendarDay.1
    rw [hday, CalendarDay.monthCount_addMonths, ← hday] at hlength
    rw [addMonths_eq_ok_iff, hday, eq_comm (a := a.calendarDay),
      CalendarDay.addMonths_neg_eq_iff a.isValid_calendarDay, hlength]
    exact and_iff_left hclock.symm
  · intro a b c e n m hb hc he
    obtain ⟨hdayb, hclockb⟩ := addMonths_eq_ok_iff.1 hb
    obtain ⟨hdayc, hclockc⟩ := addMonths_eq_ok_iff.1 hc
    obtain ⟨hdaye, hclocke⟩ := addMonths_eq_ok_iff.1 he
    obtain ⟨day, htwice, hle, hge, heq⟩ := CalendarDay.addMonths_addMonths a.calendarDay n m
    rw [← hdayb, ← hdayc] at htwice
    rw [← hdaye] at hle hge heq
    have honce : e.calendarDay =
        .ofMonthCount (a.calendarDay.monthCount + (n + m)) e.calendarDay.day := by
      rw [hdaye]
      rfl
    have hclock : c.clock = e.clock := by rw [hclockc, hclockb, hclocke]
    have hcountc := CalendarDay.epochDay_ofMonthCount (a.calendarDay.monthCount + (n + m)) day
    have hcounte := CalendarDay.epochDay_ofMonthCount (a.calendarDay.monthCount + (n + m))
      e.calendarDay.day
    rw [← htwice] at hcountc
    rw [← honce] at hcounte
    refine ⟨?_, ?_, hclock, le_of_epochDay_le hclock (by omega), ?_, fun hshort => ?_⟩
    · rw [year, year, htwice, honce]
      rfl
    · rw [month, month, htwice, honce]
      rfl
    · rw [diffDays, ← epochDay_calendarDay, ← epochDay_calendarDay]
      omega
    · refine eq_of_parts ?_ hclock
      rw [htwice, honce, heq hshort]

/-- The last days of January and February, moved one month on and back, and on to March in one move
and in two; and the 28th of January, which comes to the same day of March in both ways. -/
theorem addMonths_laws_endOfJanuary :
    ((⟨1675123200000, by decide⟩ : Date).diffDays ⟨1675209600000, by decide⟩ ≤ 0 ∧
      (⟨1675123200000, by decide⟩ : Date).addMonths 1 = .ok ⟨1677542400000, by decide⟩ ∧
      (⟨1675209600000, by decide⟩ : Date).addMonths 1 = .ok ⟨1677628800000, by decide⟩ ∧
      (⟨1677542400000, by decide⟩ : Date).diffDays ⟨1677628800000, by decide⟩ ≤ 0) ∧
    ((⟨1677542400000, by decide⟩ : Date).addMonths (-1) = .ok ⟨1675123200000, by decide⟩ ↔
      (⟨1675123200000, by decide⟩ : Date).day ≤
        monthLength (⟨1677542400000, by decide⟩ : Date).year
          (⟨1677542400000, by decide⟩ : Date).month) ∧
    ((⟨1677542400000, by decide⟩ : Date).addMonths 1 = .ok ⟨1679961600000, by decide⟩ ∧
      (⟨1675123200000, by decide⟩ : Date).addMonths (1 + 1) = .ok ⟨1680220800000, by decide⟩ ∧
      (⟨1679961600000, by decide⟩ : Date) ≤ ⟨1680220800000, by decide⟩ ∧
      (⟨1680220800000, by decide⟩ : Date).diffDays ⟨1679961600000, by decide⟩ ≤ 3) ∧
    ∃ a b c e : Date, a.addMonths 1 = .ok b ∧ b.addMonths 1 = .ok c ∧ a.addMonths (1 + 1) = .ok e ∧
      a.day ≤ 28 ∧ c = e := by
  have hdiff : (⟨1675123200000, by decide⟩ : Date).diffDays ⟨1675209600000, by decide⟩ ≤ 0 := by
    decide +kernel
  have hjanuary : (⟨1675123200000, by decide⟩ : Date).addMonths 1 =
      .ok ⟨1677542400000, by decide⟩ := by decide +kernel
  have hfebruary : (⟨1675209600000, by decide⟩ : Date).addMonths 1 =
      .ok ⟨1677628800000, by decide⟩ := by decide +kernel
  have htwice : (⟨1677542400000, by decide⟩ : Date).addMonths 1 =
      .ok ⟨1679961600000, by decide⟩ := by decide +kernel
  have honce : (⟨1675123200000, by decide⟩ : Date).addMonths (1 + 1) =
      .ok ⟨1680220800000, by decide⟩ := by decide +kernel
  have hfirst : (⟨1674864000000, by decide⟩ : Date).addMonths 1 =
      .ok ⟨1677542400000, by decide⟩ := by decide +kernel
  have hboth : (⟨1674864000000, by decide⟩ : Date).addMonths (1 + 1) =
      .ok ⟨1679961600000, by decide⟩ := by decide +kernel
  have hshort : (⟨1674864000000, by decide⟩ : Date).day ≤ 28 := by decide +kernel
  obtain ⟨horder, hback, htwo⟩ := addMonths_laws
  obtain ⟨-, -, -, hle, hdays, -⟩ := htwo _ _ _ _ _ _ hjanuary htwice honce
  exact ⟨⟨hdiff, hjanuary, hfebruary, horder _ _ _ _ _ hdiff hjanuary hfebruary⟩,
    hback _ _ _ hjanuary, ⟨htwice, honce, hle, hdays⟩, _, _, _, _, hfirst, htwice, hboth, hshort,
    (htwo _ _ _ _ _ _ hfirst htwice hboth).2.2.2.2.2 hshort⟩

end Date

end DatePattern

import DatePattern.Machine.Date
import DatePattern.Proofs.Date.DayArithmetic
import DatePattern.Proofs.Date.Truncation
import DatePattern.Proofs.Date.YearLimit
import DatePattern.Proofs.Machine.Calendar

/-! # Dates stay within machine integers

Each program of `Machine/Date.lean` gives the date, or the error, that it is to give.  What it adds
up stays small for one of three reasons: an instant is in the range, a remainder is less than its
divisor, and the carried year was compared with `maxYear` before it was counted with.

* `ofFields_gives`, `ofFields_eq_none`: making a date goes right, but for the one year that has no
  absolute value.
* `civil_eq`: what a date shows.
* `addDays_gives`, `addMonths_gives`, `addYears_gives`: moving a date, where an offset that is too
  large for the type is found out before it is used. -/

namespace DatePattern

theorem CalendarDay.natAbs_epochDay_le {year : Int} (hyear : year.natAbs ≤ 300000)
    (month : Nat) : (epochDay ⟨year, month, 1⟩).natAbs ≤ 200000000 := by
  simp only [epochDay, marchYear, daysBeforeYearOfCycle, daysBeforeMarchMonth, toMarchMonth,
    daysPerCycle, epochShift]
  split <;> omega

namespace Machine

open Program

/-- A checked number is an error where it does not fit. -/
theorem okOr_fit (n : Int) : (okOr (i64.fit n) DateError.outOfRange).Gives (Date.checked n) := by
  rw [Date.checked]
  split
  · rw [Signed.fit, if_pos ‹_›]
    rfl
  · rw [Signed.fit, if_neg ‹_›]
    rfl

theorem holds_of_checked {n m : Int} (h : Date.checked n = .ok m) : i64.Holds m := by
  rw [Date.checked] at h
  split at h
  · cases h
    assumption
  · contradiction

theorem holds_of_representable {n : Int} (h : Representable n) : i64.Holds n := by
  rw [Representable, maxMillis] at h
  rw [i64_holds]
  omega

/-! ### Making dates -/

theorem instant_eq {f : Fields} (hf : f.Fit) (hyear : f.carriedYear.natAbs ≤ maxYear) :
    instant f f.carriedYear f.carriedMonth = some f.millis := by
  obtain ⟨-, -, hday, hhours, hminutes, hseconds, hmilliseconds⟩ := hf
  simp only [i64_holds] at hday hhours hminutes hseconds hmilliseconds
  have hmonth := f.carriedMonth_lt
  have hcount := CalendarDay.natAbs_epochDay_le hyear f.carriedMonth
  rw [instant, daysFromCivil_eq hyear hmonth (by decide), some_bind]
  simp (disch := (rw [i128_holds]; omega)) only [Signed.add, Signed.sub, Signed.mul, Signed.fit_eq,
    some_bind, Fields.millis, millisPerDay, millisPerHour, millisPerMinute, millisPerSecond]

/-- An instant that is no 64-bit integer is out of the range. -/
theorem ofMillis_of_not_holds {n : Int} (h : ¬ i64.Holds n) :
    Date.ofMillis n = .error .outOfRange :=
  Date.ofMillis_eq_error_iff.2 ⟨fun hrange => h (holds_of_representable hrange), rfl⟩

/-- Only the carried year -2^63 goes wrong, as it has no absolute value. -/
theorem ofFields_gives {f : Fields} (hf : f.Fit) (hyear : f.carriedYear ≠ -2 ^ 63) :
    (ofFields f).Gives (Date.ofFields f) := by
  rw [Date.ofFields]
  refine .bind_lift (i64.divEuclid_eq (by decide) hf.month) ?_
  change (okOr (i64.fit f.carriedYear) _ >>= _).Gives _
  by_cases hfit : i64.Holds f.carriedYear
  · have hcarried := i64_holds.1 hfit
    refine .bind_ok (gives_okOr (if_pos hfit)) (.bind_lift (i64.fit_eq (i64_holds.2 (by omega))) ?_)
    split
    · rename_i hle
      have hmax := Int.ofNat_le.1 hle
      rw [if_pos hmax]
      have hmonth := f.carriedMonth_lt
      refine .bind_lift (i64.remEuclid_eq (by decide) hf.month) ?_
      refine .bind_lift (u8.cast_eq (Int.emod_nonneg _ (by decide))
        (lt_two_pow_u8_bits.2 (hmonth.le.trans (by decide)))) ?_
      refine .bind_lift (instant_eq hf hmax) ?_
      by_cases hinstant : i64.Holds f.millis
      · exact .bind_ok (gives_okOr (if_pos hinstant)) (gives_liftExcept _)
      · rw [ofMillis_of_not_holds hinstant]
        exact .bind_error (gives_okOr_none (if_neg hinstant))
    · rename_i hgt
      rw [if_neg fun hmax => hgt (Int.ofNat_le.2 hmax)]
      exact gives_throw _
  · -- a year that does not fit is beyond the limit of years as well
    have hmax : ¬ f.carriedYear.natAbs ≤ maxYear := by
      rw [i64_holds] at hfit
      rw [maxYear]
      omega
    rw [if_neg hmax]
    exact .bind_error (gives_okOr_none (if_neg hfit))

theorem ofFields_eq_none {f : Fields} (hf : f.Fit) (hyear : f.carriedYear = -2 ^ 63) :
    (ofFields f).run = none := by
  have hfit : i64.Holds f.carriedYear := by
    rw [hyear]
    decide
  have hcarried : i64.add f.year (f.month / monthsPerYear) = some f.carriedYear := if_pos hfit
  rw [ofFields, (gives_lift (i64.divEuclid_eq (by decide) hf.month)).run_bind,
    (gives_okOr hcarried).run_bind]
  exact run_bind_none (i64.fit_eq_none (mt i64_holds.1 (by omega))) _

section
variable {day : CalendarDay} {clock : Clock} (hmonth : day.month < 12) (hday : day.day ≤ 31)
  (hclock : clock.IsValid)
include hmonth hday hclock

theorem fit_ofParts (hyear : i64.Holds day.year) : (Fields.ofParts day clock).Fit := by
  obtain ⟨hhours, hminutes, hseconds, hmilliseconds⟩ := hclock
  constructor
  all_goals simp only [Fields.ofParts, i64_holds] at hyear ⊢
  all_goals omega

theorem ofParts_gives (hlow : -2 ^ 63 < day.year) (hhigh : day.year < 2 ^ 63) :
    (ofFields (.ofParts day clock)).Gives (Date.ofParts day clock) := by
  refine ofFields_gives (fit_ofParts hmonth hday hclock (i64_holds.2 (by omega))) ?_
  rw [Fields.carriedYear_ofParts hmonth]
  omega

end

/-! ### What a date shows -/

section
variable (d : Date)

theorem epochDay_eq : epochDay d = some d.epochDay := by
  exact i64.divEuclid_eq (by decide) (holds_of_representable d.representable)

theorem civil_eq : civil d = some (d.calendarDay, d.clock) := by
  have hmillis := holds_of_representable d.representable
  have hdays := d.epochDay_bounds
  obtain ⟨n, hn⟩ : ∃ n : Nat, d.millis % millisPerDay = n :=
    ⟨_, (Int.toNat_of_nonneg (Int.emod_nonneg _ (by decide))).symm⟩
  have hlt : n < 86400000 := by
    rw [millisPerDay, millisPerHour, millisPerMinute, millisPerSecond] at hn
    omega
  have htime : d.millisOfDay = n := by
    rw [Date.millisOfDay, hn, Int.toNat_natCast]
  rw [civil, epochDay_eq, some_bind, civilFromDays_eq (by omega), some_bind,
    i64.remEuclid_eq (by decide) hmillis, some_bind, hn]
  simp (disch := first
    | (rw [i64_holds]; omega) | (rw [lt_two_pow_u8_bits]; omega)
    | (rw [lt_two_pow_u16_bits]; omega) | omega) only [Signed.div_eq, Signed.rem_eq, some_bind,
      Unsigned.cast_eq, millisPerHour, millisPerMinute, millisPerSecond]
  rw [Date.calendarDay, Date.clock, htime, Clock.ofMillis]
  simp only [millisPerHour, millisPerMinute, millisPerSecond, Option.pure_def, Option.some_inj,
    Prod.mk.injEq, Clock.mk.injEq, true_and]
  omega

theorem weekday_eq : weekday d = some d.weekday := by
  have hdays := d.epochDay_bounds
  rw [weekday, epochDay_eq, some_bind, Signed.add, Date.epochWeekday,
    i64.fit_eq (i64_holds.2 (by omega)), some_bind,
    i64.remEuclid_eq (by decide) (i64_holds.2 (by omega)), some_bind,
    u8.cast_eq (by omega) (lt_two_pow_u8_bits.2 (by omega))]
  rfl

theorem ordinalDay_eq : ordinalDay d = some d.dayOfYear := by
  have hday := d.day_le_monthLength.trans (monthLength_le _ d.month_lt)
  rw [ordinalDay, civil_eq, some_bind]
  exact dayOfYear_eq _ d.month_lt hday

/-! ### Moving a date -/

omit d in
theorem reportClamp_eq {month : Nat} (h : month < 12) (day last : Nat) :
    reportClamp month day last = some () := by
  rw [reportClamp]
  split
  · rw [u8.add_eq (lt_two_pow_u8_bits.2 (by omega)), Option.map_some]
  · rfl

theorem addDays_gives (n : Int) : (addDays d n).Gives (d.addDays n) := by
  rw [← d.addDaysChecked_eq n]
  exact (okOr_fit _).bind fun moved _ => (okOr_fit _).bind fun instant _ => gives_liftExcept _

theorem addMonths_gives (n : Int) : (addMonths d n).Gives (d.addMonths n) := by
  rw [← d.addMonthsChecked_eq n, addMonths]
  refine .bind_lift (civil_eq d) ?_
  refine (okOr_fit _).bind fun years _ => (okOr_fit _).bind fun months _ => ?_
  refine (okOr_fit _).bind fun total htotal => ?_
  have hholds := holds_of_checked htotal
  obtain ⟨hlow, hhigh⟩ := i64_holds.1 hholds
  have hmonth : (total % monthsPerYear).toNat < 12 := by
    rw [monthsPerYear]
    omega
  have hday : min d.day (DatePattern.monthLength (total / monthsPerYear)
      (total % monthsPerYear).toNat) ≤ 31 :=
    (Nat.min_le_right _ _).trans (monthLength_le _ hmonth)
  have hcast : u8.cast (total % monthsPerYear) = some (total % monthsPerYear).toNat :=
    u8.cast_eq (Int.emod_nonneg _ (by decide))
      (lt_two_pow_u8_bits.2 (hmonth.le.trans (by decide)))
  refine .bind_lift (i64.divEuclid_eq (by decide) hholds) ?_
  refine .bind_lift (i64.remEuclid_eq (by decide) hholds) (.bind_lift hcast ?_)
  refine .bind_lift (monthLength_eq_some _ hmonth) (.bind_lift (reportClamp_eq hmonth _ _) ?_)
  refine ofParts_gives hmonth hday d.isValid_clock ?_ ?_
  all_goals
    simp only [monthsPerYear]
    omega

/-- Years whose months do not fit are refused, as the checked months are. -/
theorem addYears_gives (n : Int) : (addYears d n).Gives (d.addYears n) := by
  rw [← d.addYearsChecked_eq n]
  refine (okOr_fit _).bind fun months _ => ?_
  rw [d.addMonthsChecked_eq]
  exact addMonths_gives d months

/-! ### Comparing dates -/

theorem diffDays_eq (e : Date) : diffDays d e = some (d.diffDays e) := by
  have hd := d.epochDay_bounds
  have he := e.epochDay_bounds
  rw [diffDays, epochDay_eq, some_bind, epochDay_eq, some_bind, Signed.sub,
    i64.fit_eq (i64_holds.2 (by omega)), Date.diffDays]

theorem truncate_gives (unit : Granularity) : (truncate d unit).Gives (d.truncate unit) := by
  have hyear := d.year_bounds
  have hday := unit.isValid_startDay d.isValid_calendarDay
  have hstays : (unit.startDay d.calendarDay).year = d.year := by cases unit <;> rfl
  refine .bind_lift (civil_eq d) (ofParts_gives hday.1 (hday.2.2.trans (monthLength_le _ hday.1))
    (unit.isValid_startClock d.isValid_clock) ?_ ?_)
  · omega
  · omega

end

end Machine

end DatePattern

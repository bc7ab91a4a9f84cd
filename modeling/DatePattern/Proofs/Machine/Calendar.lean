import DatePattern.Calendar.Range
import DatePattern.Machine.Calendar
import DatePattern.Proofs.Calendar.DayCount

/-! # The calendar stays within machine integers

Each program of `Machine/Calendar.lean` gives what the calendar says, and not none: the years of
representable dates are small, and what is left of a year after whole cycles is small for every
year. -/

namespace DatePattern.Machine

theorem monthLength_eq_some (year : Int) {month : Nat} (h : month < 12) :
    monthLength year month = some (DatePattern.monthLength year month) :=
  if_pos h

/-! ### Years that start in March -/

theorem daysBeforeYearOfCycle_eq {n : Nat} (h : n < 400) :
    daysBeforeYearOfCycle n = some (DatePattern.daysBeforeYearOfCycle n : Int) := by
  simp (disch := first | (rw [i64_holds]; omega) | omega) only [daysBeforeYearOfCycle, Signed.add,
    Signed.sub, Signed.mul, Signed.fit_eq, Signed.div_eq, some_bind]
  rw [DatePattern.daysBeforeYearOfCycle, Option.some_inj]
  omega

theorem yearOfCycleDay_eq {n : Nat} (h : n < daysPerCycle) :
    yearOfCycleDay n = some (DatePattern.yearOfCycleDay n : Int) := by
  rw [daysPerCycle] at h
  simp (disch := first | (rw [i64_holds]; omega) | omega) only [yearOfCycleDay, Signed.add, Signed.sub,
    Signed.fit_eq, Signed.div_eq, some_bind]
  rw [DatePattern.yearOfCycleDay, Option.some_inj]
  omega

theorem daysBeforeMarchMonth_eq {m : Nat} (h : m < 12) :
    daysBeforeMarchMonth m = some (DatePattern.daysBeforeMarchMonth m : Int) := by
  simp (disch := first | (rw [i64_holds]; omega) | omega) only [daysBeforeMarchMonth, Signed.add,
    Signed.mul, Signed.fit_eq, Signed.div_eq, some_bind, Option.some_inj]
  rw [DatePattern.daysBeforeMarchMonth]
  omega

theorem marchMonthOfDay_eq {n : Nat} (h : n < 366) :
    marchMonthOfDay n = some (DatePattern.marchMonthOfDay n : Int) := by
  simp (disch := first | (rw [i64_holds]; omega) | omega) only [marchMonthOfDay, Signed.add, Signed.mul,
    Signed.fit_eq, Signed.div_eq, some_bind, Option.some_inj]
  rw [DatePattern.marchMonthOfDay]
  omega

theorem ofMarchMonth_eq {m : Nat} (h : m < 12) :
    ofMarchMonth m = some (DatePattern.ofMarchMonth m : Int) := by
  rw [ofMarchMonth, DatePattern.ofMarchMonth]
  split
  · rw [if_pos (by omega), Signed.add, i64.fit_eq (i64_holds.2 (by omega)), Nat.cast_add]
    rfl
  · rw [if_neg (by omega), Signed.sub, i64.fit_eq (i64_holds.2 (by omega)), Nat.cast_sub (by omega)]
    rfl

theorem marchYear_eq {year : Int} (hyear : year.natAbs ≤ 300000) (month : Nat) :
    marchYear year (month + 1) = some (DatePattern.marchYear year month) := by
  rw [marchYear, DatePattern.marchYear]
  split
  · rw [if_pos (by omega), Signed.sub, i64.fit_eq (i64_holds.2 (by omega))]
  · rw [if_neg (by omega)]

/-! ### Days from the epoch -/

theorem daysFromCivil_eq {year : Int} {month day : Nat} (hyear : year.natAbs ≤ 300000)
    (hmonth : month < 12) (hday : day ≤ 31) :
    daysFromCivil year month day = some (CalendarDay.epochDay ⟨year, month, day⟩) := by
  have hbounds : (DatePattern.marchYear year month).natAbs ≤ 300001 := by
    rw [DatePattern.marchYear]
    split <;> omega
  have hshifted : ((month : Int) + 1 + 9) % 12 = toMarchMonth month := by
    rw [toMarchMonth]
    omega
  have hmarch : toMarchMonth month < 12 := Nat.mod_lt _ (by decide)
  have hmonths : DatePattern.daysBeforeMarchMonth (toMarchMonth month) ≤ 337 := by
    rw [DatePattern.daysBeforeMarchMonth]
    omega
  obtain ⟨n, hn⟩ : ∃ n : Nat, DatePattern.marchYear year month % 400 = n :=
    ⟨_, (Int.toNat_of_nonneg (Int.emod_nonneg _ (by decide))).symm⟩
  have hyears : DatePattern.daysBeforeYearOfCycle n ≤ 365 * 400 := by
    rw [DatePattern.daysBeforeYearOfCycle]
    omega
  simp (disch := first | (rw [i64_holds]; omega) | omega) only [daysFromCivil, Signed.add, Signed.sub,
    Signed.mul, Signed.fit_eq, some_bind, marchYear_eq, Signed.divEuclid_eq, Signed.remEuclid_eq,
    hn, Signed.rem_eq, hshifted, daysBeforeMarchMonth_eq, daysBeforeYearOfCycle_eq, daysPerCycle,
    epochShift]
  simp only [CalendarDay.epochDay, hn, Int.toNat_natCast, daysPerCycle, epochShift,
    Option.some_inj]
  omega

theorem civilFromDays_eq {n : Int} (h : n.natAbs ≤ 100000000) :
    civilFromDays n = some (.ofEpochDay n) := by
  -- what the program computes one after the other: the cycle of the day, its year of the cycle, and
  -- the day of that year
  obtain ⟨cycle, y, r, hy, hr, rfl⟩ := CalendarDay.exists_march_of_dayCount n
  have hlt := daysBeforeYearOfCycle_add_lt hy hr
  have hyear := yearOfCycleDay_eq hlt
  rw [yearOfCycleDay_add hy hr] at hyear
  have hlength := yearLength_spec (y + 1)
  have hmarch : DatePattern.marchMonthOfDay r < 12 := by
    rw [DatePattern.marchMonthOfDay]
    omega
  have hbefore : DatePattern.daysBeforeMarchMonth (DatePattern.marchMonthOfDay r) ≤ r := by
    rw [DatePattern.daysBeforeMarchMonth, DatePattern.marchMonthOfDay]
    omega
  have hlast : r ≤ DatePattern.daysBeforeMarchMonth (DatePattern.marchMonthOfDay r) + 30 := by
    rw [DatePattern.daysBeforeMarchMonth, DatePattern.marchMonthOfDay]
    omega
  have hmonth : DatePattern.ofMarchMonth (DatePattern.marchMonthOfDay r) < 12 := by
    rw [DatePattern.ofMarchMonth]
    split <;> omega
  rw [CalendarDay.ofEpochDay_march cycle hy hr]
  simp only [CalendarDay.marchCount, daysPerCycle, epochShift] at h hlt ⊢
  have hcycle : (cycle * (146097 : Nat) + (DatePattern.daysBeforeYearOfCycle y + r : Nat) -
      (719468 : Nat) + (719468 : Nat)) / (146097 : Nat) = cycle := by
    omega
  have hday : (cycle * (146097 : Nat) + (DatePattern.daysBeforeYearOfCycle y + r : Nat) -
      (719468 : Nat) + (719468 : Nat)) % (146097 : Nat) =
        (DatePattern.daysBeforeYearOfCycle y + r : Nat) := by
    omega
  have hrest : ((DatePattern.daysBeforeYearOfCycle y + r : Nat) : Int) -
      DatePattern.daysBeforeYearOfCycle y = r := by
    omega
  simp (disch := first | (rw [i64_holds]; omega) | (rw [lt_two_pow_u8_bits]; omega) | omega) only
    [civilFromDays, Signed.add, Signed.sub, Signed.mul, Signed.fit_eq, some_bind, daysPerCycle,
    epochShift, Signed.divEuclid_eq, Signed.remEuclid_eq, hcycle, hday, hyear,
    daysBeforeYearOfCycle_eq, hrest, marchMonthOfDay_eq, daysBeforeMarchMonth_eq, ofMarchMonth_eq,
    Unsigned.cast_eq]
  rw [CalendarDay.ofMarch, Option.pure_def, Option.some_inj, CalendarDay.mk.injEq]
  have hnew : (DatePattern.ofMarchMonth (DatePattern.marchMonthOfDay r) : Int) ≤ 1 ↔
      DatePattern.ofMarchMonth (DatePattern.marchMonthOfDay r) < 2 := by
    omega
  refine ⟨?_, Int.toNat_natCast _, by omega⟩
  simp only [hnew]
  omega

/-! ### Ordinal days -/

theorem daysBeforeMonth_eq (year : Int) : ∀ {month : Nat}, month ≤ 12 →
    daysBeforeMonth year month = some (DatePattern.daysBeforeMonth year month) ∧
      DatePattern.daysBeforeMonth year month ≤ 31 * month
  | 0, _ => ⟨rfl, Nat.le_refl 0⟩
  | month + 1, h => by
      have hlt : month < 12 := h
      obtain ⟨ih, hle⟩ := daysBeforeMonth_eq year hlt.le
      have hlength := monthLength_le year hlt
      rw [DatePattern.daysBeforeMonth]
      refine ⟨?_, by omega⟩
      rw [daysBeforeMonth, ih, some_bind, monthLength_eq_some year hlt, some_bind,
        u16.add_eq (lt_two_pow_u16_bits.2 (by omega))]

theorem dayOfYear_eq (year : Int) {month day : Nat} (hmonth : month < 12) (hday : day ≤ 31) :
    dayOfYear year month day = some (DatePattern.dayOfYear year month day) := by
  obtain ⟨hbefore, hle⟩ := daysBeforeMonth_eq year hmonth.le
  rw [dayOfYear, hbefore, some_bind, u16.add_eq (lt_two_pow_u16_bits.2 (by omega)),
    DatePattern.dayOfYear]

theorem monthDayWithin_eq (year : Int) : ∀ {months : List Nat} {remaining : Nat},
    (∀ month ∈ months, month < 12) → remaining ≤ 65535 →
      monthDayWithin year months remaining =
        some (DatePattern.monthDayWithin year months remaining)
  | [], _, _, _ => rfl
  | month :: later, remaining, hm, hr => by
      obtain ⟨hmonth, hlater⟩ := List.forall_mem_cons.1 hm
      have hlength := monthLength_le year hmonth
      rw [monthDayWithin, monthLength_eq_some year hmonth, some_bind, DatePattern.monthDayWithin]
      split
      · rw [u8.cast_eq (by omega) (lt_two_pow_u8_bits.2 (by omega)), some_bind]
        rfl
      · rw [u16.sub_eq (by omega) (lt_two_pow_u16_bits.2 hr), some_bind]
        exact monthDayWithin_eq year hlater (by omega)

/-- Whatever the year, every ordinal of 16 bits is looked up without a wrong step. -/
theorem monthDayOfOrdinal_eq (year : Int) {ordinal : Nat} (h : ordinal ≤ 65535) :
    monthDayOfOrdinal year ordinal = some (DatePattern.monthDayOfOrdinal year ordinal) := by
  rw [monthDayOfOrdinal, DatePattern.monthDayOfOrdinal]
  split
  · rfl
  · exact monthDayWithin_eq year (fun month hmonth => List.mem_range.1 hmonth) h

end DatePattern.Machine

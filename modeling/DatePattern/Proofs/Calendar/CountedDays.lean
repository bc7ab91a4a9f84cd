import DatePattern.Calendar.EpochDay
import DatePattern.Proofs.Calendar.Lengths

/-! # Days counted year by year

What the closed form of `CalendarDay.epochDay` counts, said with the tables of
`Calendar/Year.lean` alone: `countedDays` adds up the lengths of all years since 1970, or takes
them off before 1970, and then the lengths of the months of the last year.

* `epochDay_eq_newYear_add`: within a year the day count grows with the ordinal day.
* `epochDay_eq_countedDays`: the closed form is the count. -/

namespace DatePattern

/-! ### The naive count -/

/-- Days of so many years from `first` on. -/
def daysOfYears (first : Int) (count : Nat) : Nat :=
  ((List.range count).map fun k : Nat => yearLength (first + k)).sum

/-- Signed number of days from 1 January 1970 to the first of a month. -/
def countedDays (year : Int) (month : Nat) : Int :=
  (if 1970 ≤ year then (daysOfYears 1970 (year - 1970).toNat : Int)
    else -(daysOfYears year (1970 - year).toNat : Int)) + daysBeforeMonth year month

theorem daysOfYears_succ (first : Int) (count : Nat) :
    daysOfYears first (count + 1) = daysOfYears first count + yearLength (first + count) := by
  simp [daysOfYears, List.range_succ]

/-! ### The closed form -/

namespace CalendarDay

/-- The closed form without its cycles: the leap days of a March-based year are those of the years
before it, whatever its sign. -/
theorem epochDay_eq (d : CalendarDay) :
    d.epochDay = 365 * marchYear d.year d.month + marchYear d.year d.month / 4
      - marchYear d.year d.month / 100 + marchYear d.year d.month / 400
      + (daysBeforeMarchMonth (toMarchMonth d.month) : Nat) + d.day - 719469 := by
  simp only [epochDay, daysPerCycle, daysBeforeYearOfCycle, epochShift]
  generalize marchYear d.year d.month = y
  omega

/-- The day count of the 1st of January. -/
theorem epochDay_newYear (year : Int) :
    epochDay ⟨year, 0, 1⟩ =
      365 * year + (year - 1) / 4 - (year - 1) / 100 + (year - 1) / 400 - 719527 := by
  rw [epochDay_eq]
  simp only [marchYear, toMarchMonth, daysBeforeMarchMonth, Nat.zero_lt_two, if_true]
  omega

theorem epochDay_eq_newYear_add (year : Int) {month : Nat} (h : month < 12) (day : Nat) :
    epochDay ⟨year, month, day⟩ = epochDay ⟨year, 0, 1⟩ + dayOfYear year month day - 1 := by
  have hy := yearLength_spec year
  rw [epochDay_newYear, epochDay_eq, dayOfYear, daysBeforeMonth_eq year h.le]
  simp only [marchYear, daysBeforeMarchMonth]
  rcases lt_or_ge month 2 with h2 | h2
  · interval_cases month <;> simp [toMarchMonth] <;> omega
  · have hmarch : toMarchMonth month = month - 2 := by
      unfold toMarchMonth
      omega
    rw [hmarch, if_neg (by omega), if_neg (by omega)]
    omega

/-- From one New Year to the next the day count grows by the length of the year. -/
theorem epochDay_newYear_succ (year : Int) :
    epochDay ⟨year + 1, 0, 1⟩ = epochDay ⟨year, 0, 1⟩ + yearLength year := by
  have hy := yearLength_spec year
  rw [epochDay_newYear, epochDay_newYear]
  omega

theorem epochDay_newYear_add (year : Int) : ∀ (count : Nat),
    epochDay ⟨year + count, 0, 1⟩ = epochDay ⟨year, 0, 1⟩ + daysOfYears year count
  | 0 => by simp [daysOfYears]
  | count + 1 => by
      have ih := epochDay_newYear_add year count
      have hsucc := epochDay_newYear_succ (year + count)
      rw [show year + ((count + 1 : Nat) : Int) = year + count + 1 by omega, hsucc, ih,
        daysOfYears_succ]
      omega

/-- The first of a month lies as many days from the epoch as the years and months between count. -/
theorem epochDay_eq_countedDays (year : Int) {month : Nat} (h : month < 12) :
    epochDay ⟨year, month, 1⟩ = countedDays year month := by
  have hepoch : epochDay ⟨1970, 0, 1⟩ = 0 := rfl
  rw [epochDay_eq_newYear_add year h, dayOfYear, countedDays]
  split
  case isTrue hy =>
    have hcount := epochDay_newYear_add 1970 (year - 1970).toNat
    rw [show (1970 : Int) + (year - 1970).toNat = year by omega] at hcount
    omega
  case isFalse hy =>
    have hcount := epochDay_newYear_add year (1970 - year).toNat
    rw [show year + ((1970 - year).toNat : Int) = 1970 by omega] at hcount
    omega

end CalendarDay

end DatePattern

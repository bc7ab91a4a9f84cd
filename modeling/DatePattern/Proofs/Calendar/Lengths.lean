import DatePattern.Calendar.Year
import Mathlib.Tactic.IntervalCases

/-! # Lengths of years and months, and ordinal days

The tables and loops of `Calendar/Year.lean` in closed form, as linear arithmetic can use them:

* `yearLength_spec`, `monthLength_eq`: how long a year and a month are;
* `daysBeforeMonth_eq`: how many days of a year lie before a month.

With these the ordinal of a day within its year is seen to determine its month and its day of the
month (`monthDayOfOrdinal_eq_some_iff`), and every ordinal up to the length of the year to have them
(`monthDayOfOrdinal_isSome_iff`). -/

namespace DatePattern

/-! ### Years -/

theorem isLeapYear_iff (year : Int) :
    isLeapYear year = true ↔ year % 4 = 0 ∧ year % 100 ≠ 0 ∨ year % 400 = 0 := by
  simp [isLeapYear]

/-- Both lengths a year can have, each with the years that have it. -/
theorem yearLength_spec (year : Int) :
    yearLength year = 366 ∧ (year % 4 = 0 ∧ year % 100 ≠ 0 ∨ year % 400 = 0) ∨
      yearLength year = 365 ∧ ¬ (year % 4 = 0 ∧ year % 100 ≠ 0 ∨ year % 400 = 0) := by
  rw [← isLeapYear_iff, yearLength]
  cases isLeapYear year <;> simp [leapYearLength]

theorem yearLength_neg (year : Int) : yearLength (-year) = yearLength year := by
  have h₁ := yearLength_spec year
  have h₂ := yearLength_spec (-year)
  omega

/-! ### Months -/

/-- Outside February the lengths alternate between 31 and 30, with a break after July. -/
theorem monthLength_eq (year : Int) {month : Nat} (h : month < 12) :
    monthLength year month =
      if month = 1 then yearLength year - 337 else 31 - (month + month / 7) % 2 := by
  unfold monthLength yearLength
  cases isLeapYear year <;> interval_cases month <;> rfl

theorem monthLength_neg (year : Int) {month : Nat} (h : month < 12) :
    monthLength (-year) month = monthLength year month := by
  rw [monthLength_eq _ h, monthLength_eq _ h, yearLength_neg]

theorem monthLength_le (year : Int) {month : Nat} (h : month < 12) :
    monthLength year month ≤ 31 := by
  have hy := yearLength_spec year
  rw [monthLength_eq year h]
  split <;> omega

theorem one_le_monthLength (year : Int) {month : Nat} (h : month < 12) :
    1 ≤ monthLength year month := by
  have hy := yearLength_spec year
  rw [monthLength_eq year h]
  split <;> omega

theorem daysBeforeMonth_succ (year : Int) (month : Nat) :
    daysBeforeMonth year (month + 1) = daysBeforeMonth year month + monthLength year month := rfl

theorem daysBeforeMonth_eq_sum (year : Int) : ∀ (month : Nat),
    daysBeforeMonth year month = ((List.range month).map (monthLength year)).sum
  | 0 => rfl
  | month + 1 => by
      rw [daysBeforeMonth_succ, daysBeforeMonth_eq_sum year month, List.range_succ]
      simp

/-- From March on the months follow the rule that counts them from March. -/
theorem daysBeforeMonth_eq (year : Int) {month : Nat} (h : month ≤ 12) :
    daysBeforeMonth year month =
      if month ≤ 1 then 31 * month else (153 * (month - 2) + 2) / 5 + yearLength year - 306 := by
  have hy := yearLength_spec year
  induction month with
  | zero => rfl
  | succ month ih =>
      have hm : month < 12 := h
      rw [daysBeforeMonth_succ, ih hm.le, monthLength_eq year hm]
      clear ih
      interval_cases month <;> simp <;> omega

/-! ### Ordinal days -/

theorem dayOfYear_le_yearLength (year : Int) {month day : Nat} (hm : month < 12)
    (hd : day ≤ monthLength year month) : dayOfYear year month day ≤ yearLength year := by
  have hy := yearLength_spec year
  rw [monthLength_eq year hm] at hd
  rw [dayOfYear, daysBeforeMonth_eq year hm.le]
  split at hd <;> split <;> omega

/-- An ordinal that counts the days of some months and then days of the next finds that month. -/
theorem monthDayWithin_append (year : Int) {month day : Nat} (hd : 1 ≤ day)
    (hl : day ≤ monthLength year month) (later : List Nat) : ∀ (earlier : List Nat),
    monthDayWithin year (earlier ++ month :: later)
      ((earlier.map (monthLength year)).sum + day) = some (month, day)
  | [] => by simp [monthDayWithin, hl]
  | first :: earlier => by
      have ih := monthDayWithin_append year hd hl later earlier
      rw [List.cons_append, monthDayWithin, List.map_cons, List.sum_cons, if_neg (by omega),
        ← ih]
      congr 1
      omega

theorem range_eq_append_cons {n k : Nat} (h : k < n) :
    List.range n = List.range k ++ k :: List.range' (k + 1) (n - k - 1) := by
  rw [List.range_eq_range', List.range_eq_range', show n = k + (1 + (n - k - 1)) by omega,
    ← List.range'_append_1]
  simp [List.range'_succ, Nat.add_comm 1]

/-- The ordinal of a day leads back to its month and its day of the month. -/
theorem monthDayOfOrdinal_dayOfYear (year : Int) {month day : Nat} (hm : month < 12)
    (hd : 1 ≤ day) (hl : day ≤ monthLength year month) :
    monthDayOfOrdinal year (dayOfYear year month day) = some (month, day) := by
  rw [monthDayOfOrdinal, dayOfYear, if_neg (by omega), monthsPerYear, range_eq_append_cons hm,
    daysBeforeMonth_eq_sum]
  exact monthDayWithin_append year hd hl _ _

/-- The month that is found is the one in which the ordinal falls. -/
theorem monthDayWithin_eq_some {year : Int} {month day : Nat} : ∀ {months : List Nat}
    {ordinal : Nat}, 1 ≤ ordinal → monthDayWithin year months ordinal = some (month, day) →
      1 ≤ day ∧ day ≤ monthLength year month ∧ ∃ earlier later,
        months = earlier ++ month :: later ∧
          ordinal = (earlier.map (monthLength year)).sum + day
  | [], _, _, h => by cases h
  | first :: months, ordinal, h1, h => by
      rw [monthDayWithin] at h
      split at h
      · rename_i hle
        cases h
        exact ⟨h1, hle, [], months, rfl, by simp⟩
      · rename_i hgt
        obtain ⟨hd, hl, earlier, later, rfl, hordinal⟩ := monthDayWithin_eq_some (by omega) h
        refine ⟨hd, hl, first :: earlier, later, rfl, ?_⟩
        rw [List.map_cons, List.sum_cons]
        omega

theorem monthDayWithin_isSome {year : Int} : ∀ {months : List Nat} {ordinal : Nat}, 1 ≤ ordinal →
    ordinal ≤ (months.map (monthLength year)).sum → (monthDayWithin year months ordinal).isSome
  | [], ordinal, h1, h => by
      simp only [List.map_nil, List.sum_nil] at h
      omega
  | first :: months, ordinal, h1, h => by
      rw [List.map_cons, List.sum_cons] at h
      rw [monthDayWithin]
      split
      · rfl
      · exact monthDayWithin_isSome (by omega) (by omega)

/-- A month and a day of it belong to an ordinal exactly when it is theirs. -/
theorem monthDayOfOrdinal_eq_some_iff {year : Int} {ordinal month day : Nat} :
    monthDayOfOrdinal year ordinal = some (month, day) ↔ month < 12 ∧ 1 ≤ day ∧
      day ≤ monthLength year month ∧ ordinal = dayOfYear year month day := by
  constructor
  · intro h
    rw [monthDayOfOrdinal] at h
    split at h
    · contradiction
    · obtain ⟨hd, hl, earlier, later, hmonths, hordinal⟩ := monthDayWithin_eq_some (by omega) h
      have hlength : earlier.length < 12 := by
        have := congrArg List.length hmonths
        simp [monthsPerYear] at this
        omega
      rw [monthsPerYear, range_eq_append_cons hlength] at hmonths
      obtain ⟨hearlier, hrest⟩ := List.append_inj hmonths (by simp)
      obtain ⟨rfl, -⟩ := List.cons_eq_cons.1 hrest
      refine ⟨hlength, hd, hl, ?_⟩
      rw [dayOfYear, daysBeforeMonth_eq_sum, hearlier]
      exact hordinal
  · rintro ⟨hm, hd, hl, rfl⟩
    exact monthDayOfOrdinal_dayOfYear year hm hd hl

/-- The ordinals of a year are those up to its length. -/
theorem monthDayOfOrdinal_isSome_iff {year : Int} {ordinal : Nat} :
    (monthDayOfOrdinal year ordinal).isSome ↔ 1 ≤ ordinal ∧ ordinal ≤ yearLength year := by
  constructor
  · intro h
    obtain ⟨⟨month, day⟩, h⟩ := Option.isSome_iff_exists.1 h
    obtain ⟨hm, hd, hl, rfl⟩ := monthDayOfOrdinal_eq_some_iff.1 h
    exact ⟨hd.trans (Nat.le_add_left _ _), dayOfYear_le_yearLength year hm hl⟩
  · rintro ⟨h1, h⟩
    have hy := yearLength_spec year
    have hsum : ((List.range 12).map (monthLength year)).sum = yearLength year := by
      rw [← daysBeforeMonth_eq_sum, daysBeforeMonth_eq year le_rfl, if_neg (by decide)]
      omega
    rw [monthDayOfOrdinal, if_neg (by omega), monthsPerYear]
    exact monthDayWithin_isSome h1 (by omega)

end DatePattern

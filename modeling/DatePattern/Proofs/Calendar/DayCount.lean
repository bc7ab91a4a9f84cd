import DatePattern.Calendar.EpochDay
import DatePattern.Proofs.Calendar.Lengths

/-! # Calendar days and day counts

The closed-form conversions of `Calendar/EpochDay.lean` are inverse to each other, and what they
reach from a day count is always a day that the calendar has.

The proofs go through *March coordinates*: a cycle of 400 years, a March-based year `n` of that
cycle and a day `r` of that year, `r` counted from 0.  Year `n` ends with the February of the
calendar year `n + 1`, whose length bounds `r`.  Every day count has such coordinates
(`exists_march_of_dayCount`), every calendar day has (`exists_march_of_isValid`), and on them both
conversions can be read off (`ofEpochDay_march`, `epochDay_ofMarch`). -/

namespace DatePattern

/-! ### Years of a cycle

The year `100 * a + 4 * b + c` of a cycle lies in its century `a`, in the span `b` of four years of
that century, and is the year `c` of that span. -/

/-- A year ends with a leap day when it is the last of its span, unless the span is the last of a
century other than the fourth. -/
theorem lt_yearLength_span {a b c r : Nat} (hb : b < 25) (hc : c < 4) (ha : a < 4) :
    r < yearLength ((100 * a + 4 * b + c : Nat) + 1) ↔
      r ≤ 364 ∨ r = 365 ∧ c = 3 ∧ (b < 24 ∨ a = 3) := by
  have hy := yearLength_spec ((100 * a + 4 * b + c : Nat) + 1)
  omega

theorem daysBeforeYearOfCycle_span {a b c : Nat} (hb : b < 25) (hc : c < 4) :
    daysBeforeYearOfCycle (100 * a + 4 * b + c) = 36524 * a + 1461 * b + 365 * c := by
  unfold daysBeforeYearOfCycle
  omega

theorem yearOfCycleDay_span {a b c r : Nat} (ha : a < 4) (hb : b < 25) (hc : c < 4)
    (hr : r ≤ 364 ∨ r = 365 ∧ c = 3 ∧ (b < 24 ∨ a = 3)) :
    yearOfCycleDay (36524 * a + 1461 * b + 365 * c + r) = 100 * a + 4 * b + c := by
  unfold yearOfCycleDay
  generalize hn : 36524 * a + 1461 * b + 365 * c + r = n
  have h4 : n / 1460 = 25 * a + b + (24 * a + b + 365 * c + r) / 1460 := by omega
  have h100 : a ≤ n / 36524 := by omega
  have h400 : n / 146096 = n / 36524 - a := by omega
  omega

theorem exists_span {n : Nat} (hn : n < 400) :
    ∃ a b c, a < 4 ∧ b < 25 ∧ c < 4 ∧ n = 100 * a + 4 * b + c :=
  ⟨n / 100, n % 100 / 4, n % 4, by omega, by omega, by omega, by omega⟩

theorem yearOfCycleDay_add {n r : Nat} (hn : n < 400) (hr : r < yearLength (n + 1)) :
    yearOfCycleDay (daysBeforeYearOfCycle n + r) = n := by
  obtain ⟨a, b, c, ha, hb, hc, rfl⟩ := exists_span hn
  rw [daysBeforeYearOfCycle_span hb hc]
  exact yearOfCycleDay_span ha hb hc ((lt_yearLength_span hb hc ha).1 hr)

theorem daysBeforeYearOfCycle_add_lt {n r : Nat} (hn : n < 400) (hr : r < yearLength (n + 1)) :
    daysBeforeYearOfCycle n + r < daysPerCycle := by
  obtain ⟨a, b, c, ha, hb, hc, rfl⟩ := exists_span hn
  have h := (lt_yearLength_span hb hc ha).1 hr
  rw [daysBeforeYearOfCycle_span hb hc, daysPerCycle]
  omega

/-- Full spans of width `w` in `x`, at most `cap` of them, the last of which may be longer. -/
theorem exists_capped_quotient (x : Nat) {w : Nat} (hw : 0 < w) (cap : Nat) :
    ∃ q ≤ cap, w * q ≤ x ∧ (x < w * (q + 1) ∨ q = cap) := by
  rcases le_total (x / w) cap with h | h
  · exact ⟨x / w, h, Nat.mul_div_le x w, .inl (Nat.lt_mul_div_succ x hw)⟩
  · exact ⟨cap, le_rfl, (Nat.mul_le_mul_left w h).trans (Nat.mul_div_le x w), .inr rfl⟩

theorem exists_year_of_cycleDay {day : Nat} (h : day < daysPerCycle) :
    ∃ n r : Nat, n < 400 ∧ r < yearLength (n + 1) ∧ day = daysBeforeYearOfCycle n + r := by
  unfold daysPerCycle at h
  obtain ⟨a, ha, ha₁, ha₂⟩ := exists_capped_quotient day (w := 36524) (by decide) 3
  obtain ⟨b, hb, hb₁, hb₂⟩ := exists_capped_quotient (day - 36524 * a) (w := 1461) (by decide) 24
  obtain ⟨c, hc, hc₁, hc₂⟩ :=
    exists_capped_quotient (day - 36524 * a - 1461 * b) (w := 365) (by decide) 3
  obtain ⟨r, hr⟩ : ∃ r, r = day - 36524 * a - 1461 * b - 365 * c := ⟨_, rfl⟩
  have hlast : r ≤ 364 ∨ r = 365 ∧ c = 3 ∧ (b < 24 ∨ a = 3) := by omega
  refine ⟨100 * a + 4 * b + c, r, by omega, (lt_yearLength_span ?_ ?_ ?_).2 hlast, ?_⟩
  · omega
  · omega
  · omega
  · rw [daysBeforeYearOfCycle_span (by omega) (by omega)]
    omega

/-! ### March coordinates -/

namespace CalendarDay

/-- The calendar day with the given March coordinates. -/
def ofMarch (cycle : Int) (n r : Nat) : CalendarDay :=
  let month := ofMarchMonth (marchMonthOfDay r)
  { year := cycle * 400 + n + (if month < 2 then 1 else 0)
    month
    day := r - daysBeforeMarchMonth (marchMonthOfDay r) + 1 }

/-- The day count with the given March coordinates. -/
def marchCount (cycle : Int) (n r : Nat) : Int :=
  cycle * daysPerCycle + (daysBeforeYearOfCycle n + r : Nat) - epochShift

theorem ofEpochDay_march (cycle : Int) {n r : Nat} (hn : n < 400) (hr : r < yearLength (n + 1)) :
    ofEpochDay (marchCount cycle n r) = ofMarch cycle n r := by
  have hlt := daysBeforeYearOfCycle_add_lt hn hr
  have hy := yearOfCycleDay_add hn hr
  generalize hday : daysBeforeYearOfCycle n + r = day at hlt hy
  have hdiv : (marchCount cycle n r + epochShift) / daysPerCycle = cycle := by
    simp only [marchCount, hday, daysPerCycle] at hlt ⊢
    omega
  have hmod : ((marchCount cycle n r + epochShift) % daysPerCycle).toNat = day := by
    simp only [marchCount, hday, daysPerCycle] at hlt ⊢
    omega
  have hsub : day - daysBeforeYearOfCycle n = r := by omega
  simp only [ofEpochDay, hdiv, hmod, hy, hsub, ofMarch]

theorem epochDay_ofMarch (cycle : Int) {n r : Nat} (hn : n < 400) (hr : r < yearLength (n + 1)) :
    (ofMarch cycle n r).epochDay = marchCount cycle n r := by
  have hy := yearLength_spec (n + 1)
  have hmonth : marchMonthOfDay r < 12 := by
    unfold marchMonthOfDay
    omega
  have hbefore : daysBeforeMarchMonth (marchMonthOfDay r) ≤ r := by
    unfold daysBeforeMarchMonth marchMonthOfDay
    omega
  have hto : toMarchMonth (ofMarchMonth (marchMonthOfDay r)) = marchMonthOfDay r := by
    unfold toMarchMonth ofMarchMonth
    split <;> omega
  have hyear : marchYear (ofMarch cycle n r).year (ofMarch cycle n r).month = cycle * 400 + n := by
    simp only [ofMarch, marchYear]
    split <;> omega
  simp only [epochDay, hyear]
  simp only [ofMarch, hto, marchCount]
  rw [show ((cycle * 400 + n) % 400).toNat = n by omega,
    show (cycle * 400 + n) / 400 = cycle by omega]
  omega

theorem isValid_ofMarch (cycle : Int) {n r : Nat} (hr : r < yearLength (n + 1)) :
    (ofMarch cycle n r).IsValid := by
  have hy := yearLength_spec (n + 1)
  have hy' := yearLength_spec (cycle * 400 + n + 1)
  obtain ⟨m, hm⟩ : ∃ m, m = marchMonthOfDay r := ⟨_, rfl⟩
  have hlt : m < 12 := by
    unfold marchMonthOfDay at hm
    omega
  have hmonth : ofMarchMonth m < 12 := by
    unfold ofMarchMonth
    split <;> omega
  simp only [ofMarch, ← hm]
  refine ⟨hmonth, Nat.le_add_left _ _, ?_⟩
  dsimp only
  rw [monthLength_eq _ hmonth]
  unfold marchMonthOfDay at hm
  interval_cases m <;> simp [ofMarchMonth, daysBeforeMarchMonth] <;> omega

theorem exists_march_of_dayCount (k : Int) :
    ∃ (cycle : Int) (n r : Nat), n < 400 ∧ r < yearLength (n + 1) ∧ k = marchCount cycle n r := by
  have hlt : ((k + epochShift) % daysPerCycle).toNat < daysPerCycle := by
    unfold daysPerCycle
    omega
  obtain ⟨n, r, hn, hr, e⟩ := exists_year_of_cycleDay hlt
  refine ⟨(k + epochShift) / daysPerCycle, n, r, hn, hr, ?_⟩
  rw [marchCount, ← e]
  unfold daysPerCycle
  omega

/-- The rule for the lengths from March on finds the month of each of its days. -/
theorem marchMonthOfDay_add (year : Int) {month : Nat} (day : Nat) (hm : month < 12)
    (hl : day < monthLength year month) :
    marchMonthOfDay (daysBeforeMarchMonth (toMarchMonth month) + day) = toMarchMonth month := by
  have hy := yearLength_spec year
  rw [monthLength_eq year hm] at hl
  unfold marchMonthOfDay daysBeforeMarchMonth toMarchMonth
  interval_cases month <;> simp at hl ⊢ <;> omega

/-- A day of a month is a day of the March-based year that the month belongs to. -/
theorem daysBeforeMarchMonth_add_lt (year : Int) {month : Nat} (day : Nat) (hm : month < 12)
    (hl : day < monthLength year month) :
    daysBeforeMarchMonth (toMarchMonth month) + day < yearLength (marchYear year month + 1) := by
  have hy := yearLength_spec year
  have hy' := yearLength_spec (marchYear year month + 1)
  rw [monthLength_eq year hm] at hl
  unfold daysBeforeMarchMonth toMarchMonth
  unfold marchYear at *
  interval_cases month <;> simp at hl hy' ⊢ <;> omega

theorem exists_march_of_isValid {d : CalendarDay} (h : d.IsValid) :
    ∃ (cycle : Int) (n r : Nat), n < 400 ∧ r < yearLength (n + 1) ∧ d = ofMarch cycle n r := by
  obtain ⟨year, month, day⟩ := d
  obtain ⟨hm, hd, hl⟩ := h
  dsimp only [monthsPerYear] at hm hd hl
  have hlt := daysBeforeMarchMonth_add_lt year (day - 1) hm (by omega)
  have hmarch := marchMonthOfDay_add year (day - 1) hm (by omega)
  have hof : ofMarchMonth (toMarchMonth month) = month := by
    unfold ofMarchMonth toMarchMonth
    split <;> omega
  generalize hyear : marchYear year month = y at hlt
  have hy := yearLength_spec (y + 1)
  have hy' := yearLength_spec ((y % 400).toNat + 1)
  refine ⟨y / 400, (y % 400).toNat, daysBeforeMarchMonth (toMarchMonth month) + (day - 1),
    by omega, by omega, ?_⟩
  simp only [ofMarch, hmarch, hof, CalendarDay.mk.injEq, true_and]
  unfold marchYear at hyear
  refine ⟨?_, by omega⟩
  split at hyear
  · rw [if_pos ‹_›]
    omega
  · rw [if_neg ‹_›]
    omega

/-! ### The two directions -/

theorem isValid_ofEpochDay (k : Int) : (ofEpochDay k).IsValid := by
  obtain ⟨cycle, n, r, hn, hr, rfl⟩ := exists_march_of_dayCount k
  rw [ofEpochDay_march cycle hn hr]
  exact isValid_ofMarch cycle hr

theorem epochDay_ofEpochDay (k : Int) : (ofEpochDay k).epochDay = k := by
  obtain ⟨cycle, n, r, hn, hr, rfl⟩ := exists_march_of_dayCount k
  rw [ofEpochDay_march cycle hn hr, epochDay_ofMarch cycle hn hr]

theorem ofEpochDay_epochDay {d : CalendarDay} (h : d.IsValid) : ofEpochDay d.epochDay = d := by
  obtain ⟨cycle, n, r, hn, hr, rfl⟩ := exists_march_of_isValid h
  rw [epochDay_ofMarch cycle hn hr, ofEpochDay_march cycle hn hr]

theorem epochDay_inj {a b : CalendarDay} (ha : a.IsValid) (hb : b.IsValid) :
    a.epochDay = b.epochDay ↔ a = b := by
  constructor
  · intro h
    rw [← ofEpochDay_epochDay ha, h, ofEpochDay_epochDay hb]
  · rintro rfl
    rfl

end CalendarDay

end DatePattern

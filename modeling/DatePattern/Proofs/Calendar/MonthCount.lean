import DatePattern.Proofs.Date.Successor

/-! # Counting months

Months numbered in one row, January of year 0 being 0.  A day of the calendar is then the number of
its month and its place in that month, and the count of days follows this order
(`CalendarDay.epochDay_le_iff`): a month begins where the one before it ends, because the day after
the last of a month is the first of the next (`CalendarDay.next`).

* `CalendarDay.addMonths`: the day so many months on, clamped to the length of the month reached.
* `CalendarDay.epochDay_addMonths_le`: moving two days by as many months keeps their order. -/

namespace DatePattern

/-! ### Numbered months -/

/-- Length of a numbered month. -/
def countedMonthLength (count : Int) : Nat := monthLength (count / 12) (count % 12).toNat

/-- A month has at least 28 days and at most 31. -/
theorem countedMonthLength_bounds (count : Int) :
    28 ≤ countedMonthLength count ∧ countedMonthLength count ≤ 31 := by
  have hm : (count % 12).toNat < 12 := by omega
  have hy := yearLength_spec (count / 12)
  rw [countedMonthLength, monthLength_eq _ hm]
  split <;> omega

namespace CalendarDay

/-- Number of the month in which a day lies. -/
def monthCount (d : CalendarDay) : Int := 12 * d.year + d.month

/-- A day of a numbered month. -/
def ofMonthCount (count : Int) (day : Nat) : CalendarDay := ⟨count / 12, (count % 12).toNat, day⟩

section
variable {d : CalendarDay}

theorem monthCount_ofMonthCount (count : Int) (day : Nat) :
    (ofMonthCount count day).monthCount = count := by
  simp only [monthCount, ofMonthCount]
  omega

theorem ofMonthCount_monthCount (h : d.month < 12) : ofMonthCount d.monthCount d.day = d := by
  obtain ⟨year, month, day⟩ := d
  dsimp only at h
  simp only [ofMonthCount, monthCount, mk.injEq, and_true]
  omega

theorem countedMonthLength_monthCount (h : d.month < 12) :
    countedMonthLength d.monthCount = monthLength d.year d.month := by
  have hsame := ofMonthCount_monthCount h
  change monthLength (ofMonthCount d.monthCount d.day).year
    (ofMonthCount d.monthCount d.day).month = _
  rw [hsame]

theorem isValid_ofMonthCount {count : Int} {day : Nat} (h1 : 1 ≤ day)
    (hl : day ≤ countedMonthLength count) : (ofMonthCount count day).IsValid := by
  refine ⟨?_, h1, hl⟩
  simp only [ofMonthCount, monthsPerYear]
  omega

/-! ### Months in days -/

theorem epochDay_ofMonthCount (count : Int) (day : Nat) :
    (ofMonthCount count day).epochDay = (ofMonthCount count 1).epochDay + day - 1 := by
  have hm : (count % 12).toNat < 12 := by omega
  rw [ofMonthCount, ofMonthCount, epochDay_eq_newYear_add _ hm, epochDay_eq_newYear_add _ hm,
    dayOfYear, dayOfYear]
  omega

/-- The day after the last of a month is the first of the next. -/
theorem next_lastOfMonth (count : Int) :
    (ofMonthCount count (countedMonthLength count)).next = ofMonthCount (count + 1) 1 := by
  have hnot : ¬ countedMonthLength count < countedMonthLength count := Nat.lt_irrefl _
  change (if countedMonthLength count < countedMonthLength count then _
    else if (count % 12).toNat + 1 < 12 then CalendarDay.mk (count / 12) ((count % 12).toNat + 1) 1
    else CalendarDay.mk (count / 12 + 1) 0 1) = _
  rw [if_neg hnot]
  split
  · simp only [ofMonthCount, mk.injEq, and_true]
    omega
  · simp only [ofMonthCount, mk.injEq, and_true]
    omega

theorem epochDay_firstOfMonth_succ (count : Int) :
    (ofMonthCount (count + 1) 1).epochDay =
      (ofMonthCount count 1).epochDay + countedMonthLength count := by
  have hlength := (countedMonthLength_bounds count).1
  have hvalid := isValid_ofMonthCount (by omega) (Nat.le_refl (countedMonthLength count))
  rw [← next_lastOfMonth, epochDay_next hvalid, epochDay_ofMonthCount]
  omega

/-- A month has ended when a later one begins. -/
theorem epochDay_firstOfMonth_add (count : Int) : ∀ (later : Nat),
    (ofMonthCount count 1).epochDay + countedMonthLength count ≤
      (ofMonthCount (count + 1 + later) 1).epochDay
  | 0 => by
      rw [Nat.cast_zero, Int.add_zero, epochDay_firstOfMonth_succ]
  | later + 1 => by
      have ih := epochDay_firstOfMonth_add count later
      have hsucc := epochDay_firstOfMonth_succ (count + 1 + later)
      rw [Nat.cast_succ, ← Int.add_assoc, hsucc]
      omega

end

section
variable {a b : CalendarDay} (ha : a.IsValid) (hb : b.IsValid)
include ha hb

theorem epochDay_lt_of_monthCount_lt (h : a.monthCount < b.monthCount) :
    a.epochDay < b.epochDay := by
  obtain ⟨hma, -, hla⟩ := ha
  obtain ⟨hmb, h1b, -⟩ := hb
  have hmonths := epochDay_firstOfMonth_add a.monthCount (b.monthCount - a.monthCount - 1).toNat
  rw [show a.monthCount + 1 + ((b.monthCount - a.monthCount - 1).toNat : Int) = b.monthCount by
    omega, countedMonthLength_monthCount hma] at hmonths
  have hda := epochDay_ofMonthCount a.monthCount a.day
  have hdb := epochDay_ofMonthCount b.monthCount b.day
  rw [ofMonthCount_monthCount hma] at hda
  rw [ofMonthCount_monthCount hmb] at hdb
  omega

/-- Days follow one another month by month, and in a month day by day. -/
theorem epochDay_le_iff :
    a.epochDay ≤ b.epochDay ↔
      a.monthCount < b.monthCount ∨ a.monthCount = b.monthCount ∧ a.day ≤ b.day := by
  rcases lt_trichotomy a.monthCount b.monthCount with h | h | h
  · have hlt := epochDay_lt_of_monthCount_lt ha hb h
    omega
  · have hda := epochDay_ofMonthCount a.monthCount a.day
    have hdb := epochDay_ofMonthCount b.monthCount b.day
    rw [ofMonthCount_monthCount ha.1] at hda
    rw [ofMonthCount_monthCount hb.1, ← h] at hdb
    omega
  · have hlt := epochDay_lt_of_monthCount_lt hb ha h
    omega

end

/-! ### Moving by months -/

/-- The day so many months on, or the last of the month reached where that is shorter. -/
def addMonths (d : CalendarDay) (n : Int) : CalendarDay :=
  ofMonthCount (d.monthCount + n) (min d.day (countedMonthLength (d.monthCount + n)))

theorem monthCount_addMonths (d : CalendarDay) (n : Int) :
    (d.addMonths n).monthCount = d.monthCount + n := monthCount_ofMonthCount _ _

theorem day_addMonths (d : CalendarDay) (n : Int) :
    (d.addMonths n).day = min d.day (countedMonthLength (d.monthCount + n)) := rfl

theorem isValid_addMonths {d : CalendarDay} (h : 1 ≤ d.day) (n : Int) :
    (d.addMonths n).IsValid := by
  have hlength := (countedMonthLength_bounds (d.monthCount + n)).1
  exact isValid_ofMonthCount (by omega) (Nat.min_le_right _ _)

/-- Whole years on lies the same month of another year. -/
theorem addMonths_years {d : CalendarDay} (h : d.month < 12) (n : Int) :
    d.addMonths (12 * n) = ⟨d.year + n, d.month, min d.day (monthLength (d.year + n) d.month)⟩ := by
  have hyear : (d.monthCount + 12 * n) / 12 = d.year + n := by
    unfold monthCount
    omega
  have hmonth : ((d.monthCount + 12 * n) % 12).toNat = d.month := by
    unfold monthCount
    omega
  rw [addMonths, ofMonthCount, countedMonthLength, hyear, hmonth]

theorem epochDay_addMonths_le {a b : CalendarDay} (ha : a.IsValid) (hb : b.IsValid)
    (h : a.epochDay ≤ b.epochDay) (n : Int) :
    (a.addMonths n).epochDay ≤ (b.addMonths n).epochDay := by
  rw [epochDay_le_iff ha hb] at h
  rw [epochDay_le_iff (isValid_addMonths ha.2.1 n) (isValid_addMonths hb.2.1 n),
    monthCount_addMonths, monthCount_addMonths, day_addMonths, day_addMonths]
  rcases h with hmonth | ⟨hmonth, hday⟩
  · left
    omega
  · right
    rw [hmonth]
    omega

/-- Going back leads to the same day exactly when it was not clamped. -/
theorem addMonths_neg_eq_iff {d : CalendarDay} (h : d.IsValid) (n : Int) :
    (d.addMonths n).addMonths (-n) = d ↔ d.day ≤ countedMonthLength (d.monthCount + n) := by
  have hback : d.monthCount + n + -n = d.monthCount := by omega
  have hlength := h.2.2
  rw [← countedMonthLength_monthCount h.1] at hlength
  have hday : ((d.addMonths n).addMonths (-n)).day =
      min d.day (countedMonthLength (d.monthCount + n)) := by
    rw [day_addMonths, monthCount_addMonths, hback, day_addMonths]
    omega
  constructor
  · intro heq
    rw [heq] at hday
    omega
  · intro hle
    have hmonth : ((d.addMonths n).addMonths (-n)).monthCount = d.monthCount := by
      rw [monthCount_addMonths, monthCount_addMonths, hback]
    rw [← ofMonthCount_monthCount (isValid_addMonths (isValid_addMonths h.2.1 n).2.1 (-n)).1,
      hmonth, hday, Nat.min_eq_left hle, ofMonthCount_monthCount h.1]

/-- Moving twice leads to the month that one move leads to, and at most three days less far in
it. -/
theorem addMonths_addMonths (d : CalendarDay) (n m : Int) :
    ∃ day, (d.addMonths n).addMonths m = ofMonthCount (d.monthCount + (n + m)) day ∧
      day ≤ (d.addMonths (n + m)).day ∧ (d.addMonths (n + m)).day ≤ day + 3 ∧
        (d.day ≤ 28 → day = (d.addMonths (n + m)).day) := by
  have hfirst := countedMonthLength_bounds (d.monthCount + n)
  have hlast := countedMonthLength_bounds (d.monthCount + (n + m))
  have hcount : d.monthCount + n + m = d.monthCount + (n + m) := Int.add_assoc _ _ _
  refine ⟨((d.addMonths n).addMonths m).day, ?_, ?_⟩
  · rw [addMonths, monthCount_addMonths, hcount]
    rfl
  · rw [day_addMonths, monthCount_addMonths, hcount, day_addMonths, day_addMonths]
    omega

end CalendarDay

end DatePattern

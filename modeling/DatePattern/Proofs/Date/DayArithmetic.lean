import DatePattern.Proofs.Date.CalendarOrder
import DatePattern.Proofs.Date.MonthArithmetic

/-! # Moving dates by days

A date is moved by days on its count of milliseconds, and fields are moved by days by rolling over
into months and years.  Both come to the same instant (`Fields.millis_addDays`), so they agree, also
on when the result is out of the range.

* `Date.addDays_eq_ofFields`: moving a date and moving its fields.
* `Date.addDays_exact`: where a date is moved to, and when it cannot be moved. -/

namespace DatePattern

/-- Days added to the fields are added to their instant, whatever month they roll over into. -/
theorem Fields.millis_addDays (f : Fields) (n : Int) :
    { f with day := f.day + n }.millis = f.millis + n * millisPerDay := by
  simp only [millis, carriedYear, carriedMonth, millisPerDay, millisPerHour, millisPerMinute,
    millisPerSecond]
  omega

namespace Date

/-- The fields of a date with days added to them. -/
def movedFields (d : Date) (n : Int) : Fields :=
  ⟨d.year, d.month, d.day + n, d.hours, d.minutes, d.seconds, d.milliseconds⟩

theorem millis_movedFields (d : Date) (n : Int) :
    (d.movedFields n).millis = d.millis + n * millisPerDay := by
  have hparts := Fields.millis_ofParts d.month_lt d.clock
  change (Fields.ofParts d.calendarDay d.clock).millis = _ at hparts
  rw [d.millis_eq, ← hparts, ← Fields.millis_addDays]
  rfl

/-- The year of a date is within the limit, so only the range decides whether its fields, moved by
any number of days, make a date. -/
theorem addDays_eq_ofFields (d : Date) (n : Int) : d.addDays n = ofFields (d.movedFields n) := by
  have hyear := d.year_bounds
  have hcarried : (d.movedFields n).carriedYear = d.year :=
    Fields.carriedYear_ofParts d.month_lt d.clock
  rw [ofFields, hcarried, if_pos (by rw [maxYear]; omega), millis_movedFields, addDays]

/-! ### Words of 64 bits -/

/-- `addDays` on words: the number of milliseconds and the instant are checked. -/
def addDaysChecked (d : Date) (n : Int) : Except DateError Date := do
  let moved ← checked (n * millisPerDay)
  let instant ← checked (d.millis + moved)
  ofMillis instant

/-- What does not fit a word is out of the range. -/
theorem addDays_eq_error (d : Date) {n : Int}
    (h : ¬ (FitsWord (n * millisPerDay) ∧ FitsWord (d.millis + n * millisPerDay))) :
    d.addDays n = .error .outOfRange := by
  have hd := d.representable
  rw [addDays, ofMillis_eq_error_iff]
  refine ⟨fun hrange => h ?_, rfl⟩
  simp only [Representable, FitsWord, maxMillis] at *
  omega

theorem addDaysChecked_eq (d : Date) (n : Int) : d.addDaysChecked n = d.addDays n := by
  unfold addDaysChecked
  by_cases hmoved : FitsWord (n * millisPerDay)
  · rw [checked_bind hmoved]
    by_cases hinstant : FitsWord (d.millis + n * millisPerDay)
    · rw [checked_bind hinstant, addDays]
    · rw [checked_bind_of_not hinstant, addDays_eq_error d fun h => hinstant h.2]
  · rw [checked_bind_of_not hmoved, addDays_eq_error d fun h => hmoved h.1]

/-! ### Main statement -/

/-- Moving on from a date already moved is moving once. -/
theorem addDays_addDays {d e : Date} {n : Int} (h : d.addDays n = .ok e) (m : Int) :
    e.addDays m = d.addDays (n + m) := by
  rw [addDays_eq_ok_iff] at h
  rw [addDays, addDays, h, Int.add_mul, Int.add_assoc]

/-- A date can be moved by days exactly when the instant it comes to is in the range, and then it
shows the same time so many days on.  Its fields, moved by as many days and rolled over, make the
same date or fail alike; moves add up; and checking that every number fits a word changes
nothing. -/
theorem addDays_exact (d : Date) (n : Int) :
    ((d.millis + 86400000 * n).natAbs ≤ maxMillis → ∃ e, d.addDays n = .ok e ∧
      e.millis = d.millis + 86400000 * n ∧ e.clock = d.clock ∧ e.diffDays d = n) ∧
    (maxMillis < (d.millis + 86400000 * n).natAbs → d.addDays n = .error .outOfRange) ∧
    d.addDays n =
      ofFields ⟨d.year, d.month, d.day + n, d.hours, d.minutes, d.seconds, d.milliseconds⟩ ∧
    (∀ (e : Date) (m : Int), d.addDays n = .ok e → e.addDays m = d.addDays (n + m)) ∧
    d.addDaysChecked n = d.addDays n := by
  have hdays : d.millis + 86400000 * n = d.millis + n * millisPerDay := by
    rw [Int.mul_comm]
    rfl
  rw [hdays]
  refine ⟨?_, ?_, addDays_eq_ofFields d n, fun e m h => addDays_addDays h m, addDaysChecked_eq d n⟩
  · intro hle
    obtain ⟨e, he, hmillis⟩ := ofMillis_of_natAbs_le hle
    obtain ⟨hcount, hclock⟩ := addDays_eq_ok he
    refine ⟨e, he, hmillis, hclock, ?_⟩
    rw [diffDays, hcount]
    omega
  · exact ofMillis_of_lt_natAbs

/-- A leap day moved sixty days back into the year before, as its fields are, and moved on again;
and the fewest days whose milliseconds do not fit a word. -/
theorem addDays_exact_leapDay :
    (∃ d e : Date, d.fields = [2024, 1, 29, 13, 45, 30, 250] ∧
      (d.millis + 86400000 * -60).natAbs ≤ maxMillis ∧ d.addDays (-60) = .ok e ∧
      e.clock = d.clock ∧ e.diffDays d = -60 ∧
      ofFields ⟨2024, 1, -31, 13, 45, 30, 250⟩ = .ok e ∧ e.addDays 60 = .ok d) ∧
    ¬ FitsWord (106751991168 * millisPerDay) ∧
      ∃ d : Date, maxMillis < (d.millis + 86400000 * 106751991168).natAbs ∧
        d.addDays 106751991168 = .error .outOfRange := by
  constructor
  · obtain ⟨hmoved, -, hfields, hagain, -⟩ := addDays_exact ⟨1709214330250, by decide⟩ (-60)
    have hshown : (⟨1709214330250, by decide⟩ : Date).fields = [2024, 1, 29, 13, 45, 30, 250] := by
      decide +kernel
    obtain ⟨e, he, -, hclock, hdays⟩ := hmoved (by decide)
    refine ⟨_, e, hshown, by decide, he, hclock, hdays, ?_, ?_⟩
    · simp only [fields, List.cons.injEq] at hshown
      obtain ⟨hyear, hmonth, hday, hhours, hminutes, hseconds, hmillis, -⟩ := hshown
      rw [← he, hfields, hyear, hmonth, hday, hhours, hminutes, hseconds, hmillis]
      rfl
    · rw [hagain e 60 he, addDays_eq_ok_iff]
      rfl
  · obtain ⟨-, hfar, -⟩ := addDays_exact epoch 106751991168
    exact ⟨by decide, epoch, by decide, hfar (by decide)⟩

end Date

end DatePattern

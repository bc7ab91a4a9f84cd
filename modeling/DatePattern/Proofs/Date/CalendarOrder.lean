import DatePattern.Proofs.Calendar.MonthCount

/-! # Calendar order

Dates are compared as counts of milliseconds and shown as years, months, days and times.  The two
orders agree: of two dates the earlier is the one with the smaller fields, compared from the year
down to the millisecond.

* `Moment.millis_lt_iff`: the times of calendar days follow one another in the order of their fields.
* `Date.lt_iff_fields_lt`: so do dates. -/

namespace DatePattern

/-! ### Lexicographic order -/

/-- Between fronts of one length, what follows decides only where the fronts are equal. -/
theorem append_lt_append_iff {α : Type} [LT α] {front front' back back' : List α}
    (h : front.length = front'.length) :
    front ++ back < front' ++ back' ↔ front < front' ∨ front = front' ∧ back < back' := by
  induction front generalizing front' with
  | nil =>
      have hnil : front' = [] := List.length_eq_zero_iff.1 h.symm
      simp [hnil]
  | cons n front ih =>
      obtain ⟨n', front', rfl⟩ := List.exists_cons_of_length_eq_add_one h.symm
      have hlength : front.length = front'.length := by simpa using h
      simp only [List.cons_append, List.cons_lt_cons_iff, List.cons.injEq, ih hlength]
      tauto

/-! ### Days and times in order -/

/-- Year, month and day. -/
def CalendarDay.fields (d : CalendarDay) : List Int := [d.year, d.month, d.day]

/-- Hours, minutes, seconds and milliseconds. -/
def Clock.fields (c : Clock) : List Int := [c.hours, c.minutes, c.seconds, c.milliseconds]

theorem CalendarDay.epochDay_lt_iff {a b : CalendarDay} (ha : a.IsValid) (hb : b.IsValid) :
    a.epochDay < b.epochDay ↔ a.fields < b.fields := by
  have hma : a.month < 12 := ha.1
  have hmb : b.month < 12 := hb.1
  rw [← Int.not_le, epochDay_le_iff hb ha, monthCount, monthCount]
  simp only [fields, List.cons_lt_cons_iff, List.not_lt_nil, and_false, or_false]
  omega

theorem Clock.toMillis_lt_iff {a b : Clock} (ha : a.IsValid) (hb : b.IsValid) :
    a.toMillis < b.toMillis ↔ a.fields < b.fields := by
  obtain ⟨-, hma, hsa, hmsa⟩ := ha
  obtain ⟨-, hmb, hsb, hmsb⟩ := hb
  simp only [fields, List.cons_lt_cons_iff, List.not_lt_nil, and_false, or_false, toMillis,
    millisPerHour, millisPerMinute, millisPerSecond]
  omega

/-! ### Moments in order -/

theorem CalendarDay.fields_inj {a b : CalendarDay} : a.fields = b.fields ↔ a = b := by
  cases a
  cases b
  simp [fields]

theorem Clock.fields_inj {a b : Clock} : a.fields = b.fields ↔ a = b := by
  cases a
  cases b
  simp [fields]

namespace Moment

/-- Year, month, day, hours, minutes, seconds and milliseconds. -/
def fields (m : Moment) : List Int := m.day.fields ++ m.clock.fields

theorem fields_inj {a b : Moment} : a.fields = b.fields ↔ a = b := by
  have hlength : a.day.fields.length = b.day.fields.length := rfl
  rw [fields, fields, List.append_eq_append_iff_of_size_eq_left hlength, CalendarDay.fields_inj,
    Clock.fields_inj]
  cases a
  cases b
  simp

/-- Moments follow one another in the order of their fields. -/
theorem millis_lt_iff {a b : Moment} (ha : a.IsValid) (hb : b.IsValid) :
    a.millis < b.millis ↔ a.fields < b.fields := by
  have hlength : a.day.fields.length = b.day.fields.length := rfl
  rw [millis_lt_iff_parts ha hb, CalendarDay.epochDay_lt_iff ha.day hb.day,
    CalendarDay.epochDay_inj ha.day hb.day, Clock.toMillis_lt_iff ha.clock hb.clock, fields, fields,
    append_lt_append_iff hlength, CalendarDay.fields_inj]

end Moment

/-! ### Dates in order -/

namespace Date

/-- Year, month, day, hours, minutes, seconds and milliseconds of a date. -/
def fields (d : Date) : List Int :=
  [d.year, d.month, d.day, d.hours, d.minutes, d.seconds, d.milliseconds]

theorem fields_moment (d : Date) : d.moment.fields = d.fields := rfl

/-- A date is before another exactly when its fields are smaller, the year deciding first; and no
two dates have the same fields. -/
theorem lt_iff_fields_lt (a b : Date) :
    (a < b ↔ a.fields < b.fields) ∧ (a = b ↔ a.fields = b.fields) := by
  have horder := Moment.millis_lt_iff a.isValid_moment b.isValid_moment
  have hequal := Moment.millis_inj a.isValid_moment b.isValid_moment
  rw [millis_moment, millis_moment] at horder hequal
  constructor
  · exact horder
  · rw [← fields_moment, ← fields_moment, Moment.fields_inj, ← hequal, millis_inj]

end Date

end DatePattern

import DatePattern.Proofs.Date.Construction

/-! # The limit on years

`Date.ofFields` looks at the year before it adds the smaller fields, and refuses a year beyond
300,000 out of hand.  The smaller fields may be of any size, so they can carry such a year back into
the range; then the limit refuses an instant that is representable.  They have to carry it over more
than 24,000 years: nearer than 8,853,588 days to a first of a month beyond the limit there is no
representable instant (`CalendarDay.natAbs_epochDay_of_maxYear_lt`).

* `Date.ofFields_eq_ok_iff`: what fields make a date, and which.
* `ofFields_of_representable`: which fields of a representable instant are refused. -/

namespace DatePattern

/-! ### Fields below the month -/

/-- What the fields below the month add to the first of the carried month. -/
def Fields.offset (f : Fields) : Int :=
  (f.day - 1) * millisPerDay + f.hours * millisPerHour + f.minutes * millisPerMinute
    + f.seconds * millisPerSecond + f.milliseconds

theorem Fields.carriedMonth_lt (f : Fields) : f.carriedMonth < 12 := by
  rw [carriedMonth_eq]
  omega

/-- The instant of some fields, counted year by year and month by month. -/
theorem Fields.millis_eq (f : Fields) :
    f.millis = countedDays f.carriedYear f.carriedMonth * millisPerDay + f.offset := by
  rw [← CalendarDay.epochDay_eq_countedDays _ f.carriedMonth_lt, millis, offset]
  simp only [millisPerDay, millisPerHour, millisPerMinute, millisPerSecond]
  omega

/-- Fields make a date when their year is within the limit and their instant in the range. -/
theorem Date.ofFields_eq_ok_iff {f : Fields} {d : Date} :
    ofFields f = .ok d ↔ f.carriedYear.natAbs ≤ maxYear ∧ d.millis = f.millis := by
  rw [ofFields]
  split
  · rw [ofMillis_eq_ok_iff]
    simp [*]
  · simp [*]

/-! ### Beyond the limit -/

/-- The first of a month beyond the limit lies far outside of the range, which ends 100,000,000 days
from the epoch. -/
theorem CalendarDay.natAbs_epochDay_of_maxYear_lt {year : Int} {month : Nat} (hm : month < 12)
    (h : maxYear < year.natAbs) : 100000000 + 8853588 ≤ (epochDay ⟨year, month, 1⟩).natAbs := by
  have hordinal := epochDay_eq_newYear_add year hm 1
  have hpos : 1 ≤ dayOfYear year month 1 := Nat.le_add_left 1 _
  unfold maxYear at h
  rcases lt_or_ge 0 year with hafter | hbefore
  · have hlimit : epochDay ⟨300001, 0, 1⟩ = 108853588 := rfl
    have hcount := epochDay_newYear_add 300001 (year - 300001).toNat
    rw [show 300001 + ((year - 300001).toNat : Int) = year by omega] at hcount
    omega
  · have hlimit : epochDay ⟨-300000, 0, 1⟩ = -110292278 := rfl
    have hle : dayOfYear year month 1 ≤ yearLength year :=
      dayOfYear_le_yearLength year hm (one_le_monthLength year hm)
    have hsucc := epochDay_newYear_succ year
    have hcount := epochDay_newYear_add (year + 1) (-300000 - (year + 1)).toNat
    rw [show year + 1 + ((-300000 - (year + 1)).toNat : Int) = -300000 by omega] at hcount
    omega

/-- Of the fields whose instant is representable, those with a carried year within the limit make
the date of that instant; the others are refused, and their fields below the month come to
8,853,588 days or more. -/
theorem ofFields_of_representable (f : Fields) :
    let year := f.year + f.month / 12
    let offset := 86400000 * (f.day - 1) + 3600000 * f.hours + 60000 * f.minutes
      + 1000 * f.seconds + f.milliseconds
    let instant := 86400000 * countedDays year (f.month % 12).toNat + offset
    instant.natAbs ≤ maxMillis →
      (year.natAbs ≤ 300000 → ∃ d, Date.ofFields f = .ok d ∧ d.millis = instant) ∧
      (300000 < year.natAbs →
        Date.ofFields f = .error .outOfRange ∧ 86400000 * 8853588 ≤ offset.natAbs) := by
  intro year offset instant hr
  have hoffset : f.offset = offset := by
    simp only [Fields.offset, millisPerDay, millisPerHour, millisPerMinute, millisPerSecond, offset]
    omega
  have hinstant : f.millis = instant := by
    rw [Fields.millis_eq, hoffset, Fields.carriedYear_eq, Fields.carriedMonth_eq, Int.mul_comm]
    rfl
  constructor
  · intro hyear
    have hrange : Representable instant := by
      rw [Representable]
      omega
    exact ⟨⟨instant, hrange⟩, Date.ofFields_eq_ok_iff.2 ⟨hyear, hinstant.symm⟩, rfl⟩
  · intro hyear
    have hmonth : (f.month % 12).toNat < 12 := f.carriedMonth_lt
    have hfar := CalendarDay.natAbs_epochDay_of_maxYear_lt hmonth hyear
    rw [CalendarDay.epochDay_eq_countedDays year hmonth] at hfar
    refine ⟨if_neg (Nat.not_le.2 hyear), ?_⟩
    unfold maxMillis at hr
    omega

/-- The last instant of the range, counted back from New Year of the last year within the limit,
with a year carried over from the month, and from New Year of the first year beyond it. -/
theorem ofFields_of_representable_lastYear :
    (countedDays (299999 + 12 / 12) ((12 : Int) % 12).toNat = 108853222 ∧
      ((299999 : Int) + 12 / 12).natAbs ≤ 300000 ∧
      ∃ d, Date.ofFields ⟨299999, 12, -8853221, 0, 0, 0, 0⟩ = .ok d ∧ d.millis = maxMillis) ∧
    (countedDays (300001 + 0 / 12) ((0 : Int) % 12).toNat = 108853588 ∧
      300000 < ((300001 : Int) + 0 / 12).natAbs ∧
      Date.ofFields ⟨300001, 0, -8853587, 0, 0, 0, 0⟩ = .error .outOfRange) := by
  have hlast : countedDays (299999 + 12 / 12) ((12 : Int) % 12).toNat = 108853222 :=
    (CalendarDay.epochDay_eq_countedDays _ (by decide)).symm
  have hbeyond : countedDays (300001 + 0 / 12) ((0 : Int) % 12).toNat = 108853588 :=
    (CalendarDay.epochDay_eq_countedDays _ (by decide)).symm
  have hwithin : ((299999 : Int) + 12 / 12).natAbs ≤ 300000 := by decide
  have houtside : 300000 < ((300001 : Int) + 0 / 12).natAbs := by decide
  constructor
  · obtain ⟨hmade, -⟩ := ofFields_of_representable ⟨299999, 12, -8853221, 0, 0, 0, 0⟩
      (by rw [hlast]; decide)
    obtain ⟨d, hd, hmillis⟩ := hmade hwithin
    refine ⟨hlast, hwithin, d, hd, ?_⟩
    rw [hmillis, hlast]
    rfl
  · obtain ⟨-, hrefused⟩ := ofFields_of_representable ⟨300001, 0, -8853587, 0, 0, 0, 0⟩
      (by rw [hbeyond]; decide)
    exact ⟨hbeyond, houtside, (hrefused houtside).1⟩

/-- The last instant of the range, counted back from a year beyond the limit, is refused. -/
theorem ofFields_beyond_limit :
    86400000 * (countedDays 300001 0 + -8853587 - 1) = maxMillis ∧
      Date.ofFields ⟨300001, 0, -8853587, 0, 0, 0, 0⟩ = .error .outOfRange := by
  have hcount : countedDays 300001 0 = 108853588 :=
    (CalendarDay.epochDay_eq_countedDays 300001 (by decide)).symm
  constructor
  · rw [hcount]
    rfl
  · rfl

end DatePattern

import DatePattern.Date.Arithmetic
import DatePattern.Proofs.Date.CalendarOrder
import Mathlib.Order.Bounds.Basic

/-! # The start of a unit

Truncating a date goes back to the latest instant at which a unit starts, and two dates lie in the
same unit when this is the same instant for both.

The instants are those of the unbounded calendar: the month and the year in which the earliest date
lies start before it.  On all of them `Granularity.floor` gives the start of the unit; it stays where
a unit starts (`floor_eq_iff`), never goes forward (`floor_le`) and keeps the order (`floor_mono`),
because it only changes the fields at the end of the comparison.  The rest follows from these three.

* `Granularity.isGreatest_floor`: the floor is the latest start.
* `Granularity.floor_eq_floor_iff`: floors differ exactly where a unit starts in between.
* `Date.truncate_floor`: what this says of dates. -/

namespace DatePattern

namespace Granularity

/-! ### Fields below a unit -/

/-- Place of the unit among the fields, the year being 0. -/
def rank : Granularity → Nat
  | year => 0
  | month => 1
  | day => 2
  | hour => 3
  | minute => 4
  | second => 5

/-- The coarser of two units. -/
def coarser (unit other : Granularity) : Granularity :=
  if unit.rank ≤ other.rank then unit else other

/-- The fields of a moment down to that of the unit. -/
def fieldsDownTo (unit : Granularity) (m : Moment) : List Int := m.fields.take (unit.rank + 1)

/-- The fields of a moment that are smaller than the unit. -/
def fieldsBelow (unit : Granularity) (m : Moment) : List Int := m.fields.drop (unit.rank + 1)

/-- First values of the fields smaller than the unit: January, the 1st, midnight. -/
def firstsBelow (unit : Granularity) : List Int := [0, 1, 0, 0, 0, 0].drop unit.rank

/-- A unit starts at an instant where all smaller fields have their first values. -/
def StartsAt (unit : Granularity) (instant : Int) : Prop :=
  unit.fieldsBelow (.ofMillis instant) = unit.firstsBelow

instance (unit : Granularity) (instant : Int) : Decidable (unit.StartsAt instant) := by
  unfold StartsAt; infer_instance

/-! ### The start of a unit -/

/-- The start of the unit in which a moment lies. -/
def start (unit : Granularity) (m : Moment) : Moment :=
  ⟨unit.startDay m.day, unit.startClock m.clock⟩

/-- The instant at which the unit of an instant starts. -/
def floor (unit : Granularity) (instant : Int) : Int := (unit.start (.ofMillis instant)).millis

variable (unit : Granularity)

theorem fieldsDownTo_append_fieldsBelow (m : Moment) :
    unit.fieldsDownTo m ++ unit.fieldsBelow m = m.fields := List.take_append_drop _ _

theorem length_fieldsDownTo (m : Moment) : (unit.fieldsDownTo m).length = unit.rank + 1 := by
  cases unit <;> rfl

/-- The start has the fields down to the unit, and below it the first values. -/
theorem fields_start (m : Moment) :
    (unit.start m).fields = unit.fieldsDownTo m ++ unit.firstsBelow := by
  cases unit <;> rfl

theorem start_eq_iff (m : Moment) : unit.start m = m ↔ unit.fieldsBelow m = unit.firstsBelow := by
  rw [← Moment.fields_inj, fields_start, ← unit.fieldsDownTo_append_fieldsBelow m,
    List.append_cancel_left_eq, eq_comm]

theorem start_start (other : Granularity) (m : Moment) :
    other.start (unit.start m) = (unit.coarser other).start m := by
  cases unit <;> cases other <;> rfl

theorem isValid_startDay {d : CalendarDay} (h : d.IsValid) : (unit.startDay d).IsValid := by
  obtain ⟨hm, h1, hl⟩ := h
  cases unit with
  | year =>
      have hjanuary : 0 < 12 := Nat.zero_lt_succ 11
      exact ⟨hjanuary, Nat.le_refl 1, one_le_monthLength d.year hjanuary⟩
  | month => exact ⟨hm, Nat.le_refl 1, one_le_monthLength d.year hm⟩
  | _ => exact ⟨hm, h1, hl⟩

theorem isValid_startClock {c : Clock} (h : c.IsValid) : (unit.startClock c).IsValid := by
  obtain ⟨hh, hm, hs, hms⟩ := h
  cases unit <;> simp [startClock, Clock.midnight, Clock.IsValid, hh, hm, hs]

theorem isValid_start {m : Moment} (h : m.IsValid) : (unit.start m).IsValid :=
  ⟨unit.isValid_startDay h.day, unit.isValid_startClock h.clock⟩

theorem epochDay_startDay_le {d : CalendarDay} (h : d.IsValid) :
    (unit.startDay d).epochDay ≤ d.epochDay := by
  have h1 : 1 ≤ d.day := h.2.1
  rw [CalendarDay.epochDay_le_iff (unit.isValid_startDay h) h]
  cases unit with
  | year =>
      simp only [startDay, CalendarDay.monthCount]
      omega
  | month => exact .inr ⟨rfl, h1⟩
  | _ => exact .inr ⟨rfl, Nat.le_refl d.day⟩

theorem toMillis_startClock_le (c : Clock) : (unit.startClock c).toMillis ≤ c.toMillis := by
  simp only [Clock.toMillis]
  cases unit <;> simp only [startClock, Clock.midnight] <;> omega

/-! ### Instants -/

theorem ofMillis_floor (instant : Int) :
    Moment.ofMillis (unit.floor instant) = unit.start (.ofMillis instant) :=
  Moment.ofMillis_millis (unit.isValid_start (Moment.isValid_ofMillis instant))

theorem floor_eq_iff (instant : Int) : unit.floor instant = instant ↔ unit.StartsAt instant := by
  have hvalid := Moment.isValid_ofMillis instant
  have hinj := Moment.millis_inj (unit.isValid_start hvalid) hvalid
  rw [Moment.millis_ofMillis] at hinj
  exact hinj.trans (unit.start_eq_iff _)

theorem floor_floor (other : Granularity) (instant : Int) :
    other.floor (unit.floor instant) = (unit.coarser other).floor instant := by
  rw [floor, ofMillis_floor, start_start]
  rfl

theorem coarser_self : unit.coarser unit = unit := ite_self unit

theorem startsAt_floor (instant : Int) : unit.StartsAt (unit.floor instant) := by
  rw [← floor_eq_iff, floor_floor, coarser_self]

theorem floor_le (instant : Int) : unit.floor instant ≤ instant := by
  have hvalid := Moment.isValid_ofMillis instant
  have hday := unit.epochDay_startDay_le hvalid.day
  have hclock := unit.toMillis_startClock_le (Moment.ofMillis instant).clock
  have hinstant := Moment.millis_ofMillis instant
  simp only [floor, Moment.millis, start, millisPerDay, millisPerHour, millisPerMinute,
    millisPerSecond] at *
  omega

/-- A moment with a smaller start is smaller, since below the unit all starts are alike. -/
theorem fields_lt_of_start_lt {m n : Moment} (h : (unit.start m).fields < (unit.start n).fields) :
    m.fields < n.fields := by
  have hlength : (unit.fieldsDownTo m).length = (unit.fieldsDownTo n).length := by
    rw [length_fieldsDownTo, length_fieldsDownTo]
  rw [fields_start, fields_start, append_lt_append_iff hlength] at h
  rw [← unit.fieldsDownTo_append_fieldsBelow m, ← unit.fieldsDownTo_append_fieldsBelow n,
    append_lt_append_iff hlength]
  exact .inl (h.resolve_right fun hfirsts => List.lt_irrefl _ hfirsts.2)

theorem floor_mono {s t : Int} (h : s ≤ t) : unit.floor s ≤ unit.floor t := by
  have hs := Moment.isValid_ofMillis s
  have ht := Moment.isValid_ofMillis t
  by_contra hlt
  rw [Int.not_le, floor, floor,
    Moment.millis_lt_iff (unit.isValid_start ht) (unit.isValid_start hs)] at hlt
  have hback := (Moment.millis_lt_iff ht hs).2 (unit.fields_lt_of_start_lt hlt)
  rw [Moment.millis_ofMillis, Moment.millis_ofMillis] at hback
  omega

/-- The floor is the latest instant up to the given one at which the unit starts. -/
theorem isGreatest_floor (instant : Int) :
    IsGreatest {s | unit.StartsAt s ∧ s ≤ instant} (unit.floor instant) := by
  constructor
  · exact ⟨unit.startsAt_floor instant, unit.floor_le instant⟩
  · rintro s ⟨hstart, hle⟩
    rw [← (unit.floor_eq_iff s).2 hstart]
    exact unit.floor_mono hle

/-- The floors of two instants differ exactly when a unit starts after the first and not after the
second. -/
theorem floor_eq_floor_iff {s t : Int} (h : s ≤ t) :
    unit.floor s = unit.floor t ↔ ¬ ∃ r, unit.StartsAt r ∧ s < r ∧ r ≤ t := by
  constructor
  · rintro heq ⟨r, hstart, hlt, hle⟩
    have hfloor := (unit.isGreatest_floor t).2 ⟨hstart, hle⟩
    have hback := unit.floor_le s
    omega
  · intro hnone
    have hbefore : unit.floor t ≤ s := by
      by_contra hlt
      exact hnone ⟨_, unit.startsAt_floor t, Int.not_le.1 hlt, unit.floor_le t⟩
    have hback := (unit.isGreatest_floor s).2 ⟨unit.startsAt_floor t, hbefore⟩
    exact Int.le_antisymm (unit.floor_mono h) hback

end Granularity

/-! ### Dates -/

namespace Date

section
variable (unit : Granularity)

theorem truncate_eq_ofMillis (d : Date) : d.truncate unit = ofMillis (unit.floor d.millis) :=
  ofParts_eq_ofMillis (unit.isValid_startDay d.isValid_calendarDay)
    (unit.isValid_startClock d.isValid_clock)

theorem isSame_iff (a b : Date) :
    a.isSame b unit = true ↔ unit.floor a.millis = unit.floor b.millis := by
  have ha := unit.isValid_start (Moment.isValid_ofMillis a.millis)
  have hb := unit.isValid_start (Moment.isValid_ofMillis b.millis)
  rw [Granularity.floor, Granularity.floor, Moment.millis_inj ha hb]
  simp [isSame, Granularity.start, Moment.ofMillis, calendarDay, clock, epochDay, millisOfDay]

variable {unit}

theorem truncate_eq_ok_iff {d t : Date} :
    d.truncate unit = .ok t ↔ t.millis = unit.floor d.millis := by
  rw [truncate_eq_ofMillis, ofMillis_eq_ok_iff]

/-- The earliest date. -/
def earliest : Date := ⟨-maxMillis, by decide⟩

/-- The earliest date is at midnight, so only its month and its year start before it. -/
theorem startsAt_earliest (hyear : unit ≠ .year) (hmonth : unit ≠ .month) :
    unit.StartsAt earliest.millis := by
  have hfields : earliest.moment.fields = [-271821, 3, 20, 0, 0, 0, 0] := by decide +kernel
  change unit.fieldsBelow earliest.moment = unit.firstsBelow
  rw [Granularity.fieldsBelow, hfields]
  cases unit with
  | year => exact absurd rfl hyear
  | month => exact absurd rfl hmonth
  | _ => rfl

theorem representable_floor (hyear : unit ≠ .year) (hmonth : unit ≠ .month) (d : Date) :
    Representable (unit.floor d.millis) := by
  obtain ⟨hafter, hbefore⟩ := d.representable
  have hstart := startsAt_earliest hyear hmonth
  have hle := unit.floor_le d.millis
  exact ⟨(unit.isGreatest_floor d.millis).2 ⟨hstart, hafter⟩, hle.trans hbefore⟩

end

/-- A date is truncated to the latest instant up to it at which the unit starts, and cannot be
truncated when that instant is out of the range, which it never is for days and smaller units.
Truncating again changes nothing, or goes on to the start of a coarser unit as it would have done at
once; it keeps the order of dates, and stays in the same unit.  Two dates lie in the same unit when
no unit starts between them, whether or not their own can be had. -/
theorem truncate_floor (unit : Granularity) :
    (∀ d : Date, ∃ t, IsGreatest {s | unit.StartsAt s ∧ s ≤ d.millis} t ∧
      (Representable t → ∃ e, d.truncate unit = .ok e ∧ e.millis = t) ∧
      (¬ Representable t → d.truncate unit = .error .outOfRange) ∧
      (unit ≠ .year → unit ≠ .month → ∃ e, d.truncate unit = .ok e)) ∧
    (∀ d t : Date, d.truncate unit = .ok t →
      t.truncate unit = .ok t ∧ d.isSame t unit = true ∧
        ∀ other : Granularity, t.truncate other = d.truncate (unit.coarser other)) ∧
    (∀ a b s t : Date, a ≤ b → a.truncate unit = .ok s → b.truncate unit = .ok t → s ≤ t) ∧
    ∀ a b : Date, a ≤ b →
      (a.isSame b unit = true ↔ ¬ ∃ s, unit.StartsAt s ∧ a.millis < s ∧ s ≤ b.millis) := by
  refine ⟨fun d => ⟨unit.floor d.millis, unit.isGreatest_floor d.millis, ?_, ?_, ?_⟩, ?_, ?_, ?_⟩
  · intro hrange
    exact ⟨⟨_, hrange⟩, truncate_eq_ok_iff.2 rfl, rfl⟩
  · intro hrange
    rw [truncate_eq_ofMillis, ofMillis_eq_error_iff]
    exact ⟨hrange, rfl⟩
  · intro hyear hmonth
    exact ⟨⟨_, representable_floor hyear hmonth d⟩, truncate_eq_ok_iff.2 rfl⟩
  · intro d t h
    rw [truncate_eq_ok_iff] at h
    have hagain : ∀ other : Granularity, t.truncate other = d.truncate (unit.coarser other) := by
      intro other
      rw [truncate_eq_ofMillis, truncate_eq_ofMillis, h, Granularity.floor_floor]
    refine ⟨?_, ?_, hagain⟩
    · rw [hagain, Granularity.coarser_self]
      exact truncate_eq_ok_iff.2 h
    · rw [isSame_iff, h, Granularity.floor_floor, Granularity.coarser_self]
  · intro a b s t hle ha hb
    rw [truncate_eq_ok_iff] at ha hb
    change s.millis ≤ t.millis
    rw [ha, hb]
    exact unit.floor_mono hle
  · intro a b hle
    rw [isSame_iff]
    exact unit.floor_eq_floor_iff hle

/-- The month of the earliest date starts out of the range and is the same up to its last instant;
a leap day goes back to the start of February, and from there to that of its year. -/
theorem truncate_floor_months :
    (earliest.truncate .month = .error .outOfRange ∧ ∃ e, earliest.truncate .day = .ok e) ∧
    (∃ last : Date, last.millis = -8639999049600001 ∧ earliest ≤ last ∧
      earliest.isSame last .month = true ∧
      ¬ ∃ s, Granularity.month.StartsAt s ∧ earliest.millis < s ∧ s ≤ last.millis) ∧
    ∃ leapDay february march : Date, leapDay.millis = 1709214330250 ∧
      leapDay.truncate .month = .ok february ∧ february.millis = 1706745600000 ∧
      february.truncate .month = .ok february ∧ leapDay.isSame february .month = true ∧
      february.truncate .year = leapDay.truncate .year ∧
      leapDay ≤ march ∧ march.truncate .month = .ok march ∧ february ≤ march := by
  obtain ⟨hfloor, hagain, hmono, hsame⟩ := truncate_floor .month
  obtain ⟨hday, -⟩ := truncate_floor .day
  refine ⟨⟨?_, ?_⟩, ?_, ?_⟩
  · obtain ⟨t, ht, -, hout, -⟩ := hfloor earliest
    have hstart : t = Granularity.month.floor earliest.millis :=
      ht.unique (Granularity.isGreatest_floor _ _)
    apply hout
    rw [hstart]
    decide +kernel
  · obtain ⟨t, -, -, -, hnever⟩ := hday earliest
    exact hnever (by simp) (by simp)
  · have hle : earliest ≤ ⟨-8639999049600001, by decide⟩ := by decide
    have hmonth : earliest.isSame ⟨-8639999049600001, by decide⟩ .month = true := by decide +kernel
    exact ⟨_, rfl, hle, hmonth, (hsame _ _ hle).1 hmonth⟩
  · obtain ⟨t, ht, hin, -⟩ := hfloor ⟨1709214330250, by decide⟩
    have hstart : t = 1706745600000 := by
      rw [ht.unique (Granularity.isGreatest_floor _ _)]
      decide +kernel
    obtain ⟨february, hfebruary, hmillis⟩ := hin (by rw [hstart]; decide)
    obtain ⟨hfixed, hwithin, hyear⟩ := hagain _ _ hfebruary
    have hle : (⟨1709214330250, by decide⟩ : Date) ≤ ⟨1709251200000, by decide⟩ := by decide
    have hmarch : (⟨1709251200000, by decide⟩ : Date).truncate .month =
        .ok ⟨1709251200000, by decide⟩ := by decide +kernel
    exact ⟨_, february, _, rfl, hfebruary, hmillis.trans hstart, hfixed, hwithin, hyear .year, hle,
      hmarch, hmono _ _ _ _ hle hfebruary hmarch⟩

end Date

end DatePattern

import DatePattern.Proofs.Calendar.CountedDays
import DatePattern.Proofs.Machine.Calendar
import DatePattern.Proofs.Pattern.SupportedLengths

/-! # Ordinals and the days of a year

A day of a year has a month and a place in it, and it has an ordinal.  Three ways lead from one to
the other: a loop that takes off the lengths of the months, a sum of these lengths, and the
difference of two day counts, which are closed forms and know no table.  They agree on every day of
every year (`ordinalDays_correspond`).

* `dayOfYear_eq_sub_newYear`: the ordinal as a difference of day counts.
* `exists_monthDayOfOrdinal`: every ordinal up to the length of the year is that of a day.
* `Slot.read_ordinal_eq_error`, `Slot.read_ordinal_eq_ok`: what reading an ordinal comes to, once
  its number has been held against the length of the year. -/

namespace DatePattern

/-! ### Both directions -/

/-- The ordinal of a day counts the days from New Year on. -/
theorem dayOfYear_eq_sub_newYear (year : Int) {month : Nat} (h : month < 12) (day : Nat) :
    (dayOfYear year month day : Int) =
      CalendarDay.epochDay ⟨year, month, day⟩ - CalendarDay.epochDay ⟨year, 0, 1⟩ + 1 := by
  have hcount := CalendarDay.epochDay_eq_newYear_add year h day
  omega

theorem exists_monthDayOfOrdinal {year : Int} {ordinal : Nat} (h1 : 1 ≤ ordinal)
    (h : ordinal ≤ yearLength year) :
    ∃ month day, monthDayOfOrdinal year ordinal = some (month, day) ∧ month < 12 ∧ 1 ≤ day ∧
      day ≤ monthLength year month ∧ dayOfYear year month day = ordinal := by
  have hsome := monthDayOfOrdinal_isSome_iff.2 ⟨h1, h⟩
  obtain ⟨⟨month, day⟩, hfound⟩ := Option.isSome_iff_exists.1 hsome
  obtain ⟨hm, hd, hl, hordinal⟩ := monthDayOfOrdinal_eq_some_iff.1 hfound
  exact ⟨month, day, hfound, hm, hd, hl, hordinal.symm⟩

/-! ### Reading an ordinal -/

section
variable {cursor : Cursor} {draft : Draft} {len : Nat} (locale : Option Locale)

theorem Slot.read_ordinal_eq :
    (Slot.number .dayOfYear len).read locale cursor draft =
      readBounded .dayOfYear len 1 (yearLength draft.year) cursor >>= fun found =>
        match NumberField.dayOfYear.enter? draft found.1 with
        | some entered => .ok (found.2, entered)
        | none => .error (.outOfRange .dayOfYear found.1 1 (yearLength draft.year)) :=
  read_number_eq locale cursor draft len .dayOfYear

theorem Slot.read_ordinal_eq_error {cause : ParseError}
    (h : readBounded .dayOfYear len 1 (yearLength draft.year) cursor = .error cause) :
    (Slot.number .dayOfYear len).read locale cursor draft = .error cause := by
  rw [read_ordinal_eq, h]
  rfl

/-- An ordinal between the bounds is that of a day of the year, so it is entered. -/
theorem Slot.read_ordinal_eq_ok {ordinal taken : Nat}
    (h : readBounded .dayOfYear len 1 (yearLength draft.year) cursor = .ok (ordinal, taken)) :
    ∃ month day, month < 12 ∧ 1 ≤ day ∧ day ≤ monthLength draft.year month ∧
      dayOfYear draft.year month day = ordinal ∧
      (Slot.number .dayOfYear len).read locale cursor draft =
        .ok (taken, (draft.supplyMonth month).supplyDay day) := by
  obtain ⟨h1, hle⟩ := readBounded_eq_ok h
  obtain ⟨month, day, hfound, hm, hd, hl, hordinal⟩ := exists_monthDayOfOrdinal h1 hle
  refine ⟨month, day, hm, hd, hl, hordinal, ?_⟩
  have hentered : NumberField.dayOfYear.enter? draft ordinal =
      some ((draft.supplyMonth month).supplyDay day) := by
    rw [NumberField.enter?, hfound]
    rfl
  rw [read_ordinal_eq, h]
  simp only [bind, Except.bind, hentered]

end

/-! ### Main statement -/

open CalendarDay in
/-- Ordinals and days of a year correspond one to one, whatever the year: the ordinals up to its
length are those of its days, and the ordinal of a day counts the days from New Year on.  So it is
for ordinals of 16 bits and, in the years that dates lie in, for day counts of 64 bits.  An ordinal
that is within the bounds of its field is therefore always entered, and reading it ends in no error
but that of reading a number between these bounds. -/
theorem ordinalDays_correspond (year : Int) :
    (∀ ordinal, ((monthDayOfOrdinal year ordinal).isSome ↔
        1 ≤ ordinal ∧ ordinal ≤ yearLength year) ∧
      (∀ month day, monthDayOfOrdinal year ordinal = some (month, day) →
        month < 12 ∧ 1 ≤ day ∧ day ≤ monthLength year month ∧
          dayOfYear year month day = ordinal) ∧
      (ordinal < 2 ^ 16 →
        Machine.monthDayOfOrdinal year ordinal = some (monthDayOfOrdinal year ordinal))) ∧
    (∀ month day, month < 12 → 1 ≤ day → day ≤ monthLength year month →
      monthDayOfOrdinal year (dayOfYear year month day) = some (month, day) ∧
      (dayOfYear year month day : Int) =
        epochDay ⟨year, month, day⟩ - epochDay ⟨year, 0, 1⟩ + 1 ∧
      Machine.dayOfYear year month day = some (dayOfYear year month day) ∧
      (year.natAbs ≤ 300000 →
        Machine.daysFromCivil year month day = some (epochDay ⟨year, month, day⟩))) ∧
    ∀ (locale : Option Locale) (cursor : Cursor) (draft : Draft) (len : Nat), draft.year = year →
      (∀ cause, readBounded .dayOfYear len 1 (yearLength year) cursor = .error cause →
        (Slot.number .dayOfYear len).read locale cursor draft = .error cause) ∧
      ∀ ordinal taken,
        readBounded .dayOfYear len 1 (yearLength year) cursor = .ok (ordinal, taken) →
        ∃ month day, month < 12 ∧ 1 ≤ day ∧ day ≤ monthLength year month ∧
          dayOfYear year month day = ordinal ∧
          (Slot.number .dayOfYear len).read locale cursor draft =
            .ok (taken, (draft.supplyMonth month).supplyDay day) := by
  refine ⟨fun ordinal => ⟨monthDayOfOrdinal_isSome_iff, ?_, ?_⟩, ?_, ?_⟩
  · intro month day hfound
    obtain ⟨hm, hd, hl, hordinal⟩ := monthDayOfOrdinal_eq_some_iff.1 hfound
    exact ⟨hm, hd, hl, hordinal.symm⟩
  · intro hlt
    exact Machine.monthDayOfOrdinal_eq year (Nat.le_of_lt_succ hlt)
  · intro month day hm hd hl
    have h31 := hl.trans (monthLength_le year hm)
    exact ⟨monthDayOfOrdinal_dayOfYear year hm hd hl, dayOfYear_eq_sub_newYear year hm day,
      Machine.dayOfYear_eq year hm h31, fun hyear => Machine.daysFromCivil_eq hyear hm h31⟩
  · rintro locale cursor draft len rfl
    exact ⟨fun cause => Slot.read_ordinal_eq_error locale,
      fun ordinal taken => Slot.read_ordinal_eq_ok locale⟩

/-- In the leap year -4: its last ordinal, its leap day, and both sides of the bound that its length
sets. -/
theorem ordinalDays_correspond_leapYear :
    let draft := (Draft.ofReference .epoch).supplyYear (-4)
    (monthDayOfOrdinal (-4) 366 = some (11, 31) ∧ dayOfYear (-4) 11 31 = 366) ∧
    (366 < 2 ^ 16 ∧ Machine.monthDayOfOrdinal (-4) 366 = some (some (11, 31))) ∧
    (1 < 12 ∧ 1 ≤ 29 ∧ 29 ≤ monthLength (-4) 1 ∧ monthDayOfOrdinal (-4) 60 = some (1, 29) ∧
      (60 : Int) = CalendarDay.epochDay ⟨-4, 1, 29⟩ - CalendarDay.epochDay ⟨-4, 0, 1⟩ + 1 ∧
      (-4 : Int).natAbs ≤ 300000 ∧
      Machine.daysFromCivil (-4) 1 29 = some (CalendarDay.epochDay ⟨-4, 1, 29⟩)) ∧
    (readBounded .dayOfYear 1 1 366 (.start "366".toList) = .ok (366, 3) ∧
      ∃ month day, dayOfYear (-4) month day = 366 ∧
        (Slot.number .dayOfYear 1).read none (.start "366".toList) draft =
          .ok (3, (draft.supplyMonth month).supplyDay day)) ∧
    (readBounded .dayOfYear 1 1 366 (.start "367".toList) =
        .error (.outOfRange .dayOfYear 367 1 366) ∧
      (Slot.number .dayOfYear 1).read none (.start "367".toList) draft =
        .error (.outOfRange .dayOfYear 367 1 366)) := by
  intro draft
  obtain ⟨hordinals, hdays, hreading⟩ := ordinalDays_correspond (-4)
  have hlast : monthDayOfOrdinal (-4) 366 = some (11, 31) := by decide
  have hleap : 29 ≤ monthLength (-4) 1 := by decide
  have hwithin : readBounded .dayOfYear 1 1 (yearLength (-4)) (.start "366".toList) =
      .ok (366, 3) := by decide
  have hbeyond : readBounded .dayOfYear 1 1 (yearLength (-4)) (.start "367".toList) =
      .error (.outOfRange .dayOfYear 367 1 366) := by decide
  obtain ⟨-, hok⟩ := hreading none (.start "366".toList) draft 1 rfl
  obtain ⟨month, day, -, -, -, hordinal, hread⟩ := hok _ _ hwithin
  obtain ⟨hfound, hcount, -, hdayCount⟩ := hdays 1 29 (by decide) (by decide) hleap
  refine ⟨⟨hlast, ((hordinals 366).2.1 _ _ hlast).2.2.2⟩, ⟨by decide, ?_⟩,
    ⟨by decide, by decide, hleap, hfound, hcount, by decide, hdayCount (by decide)⟩,
    ⟨hwithin, month, day, hordinal, hread⟩,
    hbeyond, (hreading none (.start "367".toList) draft 1 rfl).1 _ hbeyond⟩
  rw [(hordinals 366).2.2 (by decide), hlast]

end DatePattern

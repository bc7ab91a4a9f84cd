import DatePattern.Proofs.Date.Rollover
import DatePattern.Proofs.Pattern.Replay
import Mathlib.Data.List.Permutation

/-! # Ordinal days and the order of fields

An era turns round the year that stands in the draft when it is read, and an ordinal day is placed
in it; neither is looked at again when the year changes later.  So the order of a year, an era and
an ordinal day decides whether they come to the day that was shown: the year must be the one of the
date in the end (`yearAfter`), and the ordinal must name the same day in the year where it was
placed (`Date.SameOrdinal`).

* `parse_format_ordinal`: patterns of years and eras round an ordinal day.
* `parse_format_ordinal_iff_order`: one of each, in any order. -/

namespace DatePattern

/-! ### Ordinals of two years -/

theorem isLeapYear_eq_iff {year other : Int} :
    isLeapYear year = isLeapYear other ↔ yearLength year = yearLength other := by
  unfold yearLength
  cases isLeapYear year <;> cases isLeapYear other <;> decide

/-- Two years count a day of a month alike if both or neither of them are leap years, and up to the
end of February in any case. -/
theorem dayOfYear_eq_iff (other : Int) {year : Int} {month day : Nat} (hm : month < 12)
    (h1 : 1 ≤ day) (hl : day ≤ monthLength year month) :
    dayOfYear other month day = dayOfYear year month day ↔
      isLeapYear year = isLeapYear other ∨ dayOfYear year month day ≤ daysBeforeMonth year 2 := by
  have hy := yearLength_spec year
  have hy' := yearLength_spec other
  have hlength := monthLength_eq year hm
  have hbefore := daysBeforeMonth_eq year hm.le
  have hbefore' := daysBeforeMonth_eq other hm.le
  have hmarch : daysBeforeMonth year 2 = yearLength year - 306 := by
    rw [daysBeforeMonth_eq year (by decide)]
    simp
  rw [isLeapYear_eq_iff, hmarch, dayOfYear, dayOfYear]
  rcases Nat.lt_or_ge 1 month with hmonth | hmonth
  · rw [if_neg (by omega)] at hbefore hbefore'
    omega
  · rw [if_pos hmonth] at hbefore hbefore'
    split at hlength <;> omega

namespace Date

variable (d : Date)

/-- The ordinal of the date names the same day in the year: the year is as long as the one of the
date, or the ordinal lies before its March.  The latter includes the 60th day of a leap year, which
rolls over to the 1st of March where there is no leap day. -/
def SameOrdinal (year : Int) : Prop :=
  isLeapYear year = isLeapYear d.year ∨ d.dayOfYear ≤ daysBeforeMonth year 2

/-- Every day that has a date has one at midnight. -/
theorem exists_midnight : ∃ e : Date, e.calendarDay = d.calendarDay ∧ e.clock = .midnight := by
  have hrepresentable : Representable
      (d.calendarDay.epochDay * millisPerDay + Clock.midnight.toMillis) := by
    have h := d.epochDay_bounds
    rw [epochDay_calendarDay]
    simp only [Representable, maxMillis, Clock.toMillis, Clock.midnight, millisPerDay,
      millisPerHour, millisPerMinute, millisPerSecond] at *
    omega
  obtain ⟨e, -, hday, hclock⟩ :=
    ofParts_eq_ok d.isValid_calendarDay (by decide : Clock.midnight.IsValid) hrepresentable
  exact ⟨e, hday, hclock⟩

/-- The ordinal of a date, placed in some year, and a year that replaces it in the end come to the
day of the date when the last year is the one of the date and the ordinal names the same day. -/
theorem exists_ofFields_iff {placed last : Int} {month day : Nat}
    (h : monthDayOfOrdinal placed d.dayOfYear = some (month, day)) :
    (∃ e, ofFields { year := last, month, day } = .ok e ∧ e.calendarDay = d.calendarDay) ↔
      last = d.year ∧ d.SameOrdinal placed := by
  obtain ⟨hm, h1, hl, hordinal⟩ := monthDayOfOrdinal_eq_some_iff.1 h
  have h31 : day ≤ 31 := hl.trans (monthLength_le placed hm)
  have hparts : ∀ e, ofParts ⟨last, month, day⟩ .midnight = .ok e ↔
      e.calendarDay = CalendarDay.rolledOver ⟨last, month, day⟩ ∧ e.clock = .midnight :=
    fun e => ofParts_eq_ok_iff hm h1 h31 (by decide : Clock.midnight.IsValid)
  have hrolled : CalendarDay.epochDay (.rolledOver ⟨last, month, day⟩) =
      CalendarDay.epochDay ⟨last, 0, 1⟩ + DatePattern.dayOfYear last month day - 1 :=
    (CalendarDay.epochDay_rolledOver hm h1 h31).trans
      (CalendarDay.epochDay_eq_newYear_add last hm day)
  have hshown : d.calendarDay.epochDay =
      CalendarDay.epochDay ⟨d.year, 0, 1⟩ + d.dayOfYear - 1 :=
    CalendarDay.epochDay_eq_newYear_add d.year d.month_lt d.day
  have hsame : DatePattern.dayOfYear d.year month day = d.dayOfYear ↔ d.SameOrdinal placed := by
    rw [SameOrdinal, hordinal]
    exact dayOfYear_eq_iff d.year hm h1 hl
  constructor
  · rintro ⟨e, he, hday⟩
    obtain ⟨hrolls, -⟩ := (hparts e).1 he
    rw [hday] at hrolls
    have hlast : last = d.year := by
      rw [year, hrolls, CalendarDay.rolledOver_year]
    subst hlast
    rw [← hrolls] at hrolled
    exact ⟨rfl, hsame.1 (by omega)⟩
  · rintro ⟨rfl, hplaced⟩
    obtain ⟨e, hday, hclock⟩ := d.exists_midnight
    refine ⟨e, (hparts e).2 ⟨?_, hclock⟩, hday⟩
    rw [hday]
    apply (CalendarDay.epochDay_inj d.isValid_calendarDay
      (CalendarDay.isValid_rolledOver hm h1 h31)).1
    rw [hrolled, hsame.2 hplaced, hshown]

/-- The ordinal of a date has a place in every year in which it names the same day. -/
theorem isSome_of_sameOrdinal {year : Int} (h : d.SameOrdinal year) :
    (monthDayOfOrdinal year d.dayOfYear).isSome := by
  have h1 : 1 ≤ d.dayOfYear := d.one_le_day.trans (Nat.le_add_left _ _)
  have hle : d.dayOfYear ≤ yearLength d.year :=
    dayOfYear_le_yearLength d.year d.month_lt d.day_le_monthLength
  rw [monthDayOfOrdinal_isSome_iff]
  rcases h with hleap | hmarch
  · rw [isLeapYear_eq_iff.1 hleap]
    exact ⟨h1, hle⟩
  · rw [daysBeforeMonth_eq year (by decide), if_neg (by decide)] at hmarch
    omega

end Date

/-! ### Years that are read -/

/-- The slot sets or turns round the year, and nothing else. -/
def Slot.SetsYear : Slot → Prop
  | .year _ | .name .era _ => True
  | _ => False

/-- The year after reading what the date shows in the slot. -/
def Slot.turnYear (d : Date) (year : Int) : Slot → Int
  | .year _ => yearOfEra d.year
  | .name .era _ => if d.year ≤ 0 ∧ 1 ≤ year then 1 - year else year
  | _ => year

/-- The year after reading what the date shows in some slots, one after the other. -/
def yearAfter (d : Date) (year : Int) (slots : List Slot) : Int :=
  slots.foldl (Slot.turnYear d) year

section
variable (d : Date)

theorem replay_cons (draft : Draft) (slot : Slot) (slots : List Slot) :
    replay d draft (slot :: slots) = (slot.replay d draft).bind (replay d · slots) :=
  List.foldlM_cons

theorem Slot.replay_setsYear {slot : Slot} (h : slot.SetsYear) (draft : Draft) : ∃ known,
    slot.replay d draft = some { draft with
      year := slot.turnYear d draft.year
      supplied := { draft.supplied with year := known } } := by
  cases slot with
  | year len => exact ⟨true, rfl⟩
  | name field width =>
      cases field with
      | era =>
          refine ⟨draft.supplied.year, ?_⟩
          rw [replay_of_ne d (by simp), echo_era, turnYear, Draft.beforeChrist]
          by_cases hera : d.year ≤ 0 <;> by_cases hyear : 1 ≤ draft.year <;> simp [hera, hyear]
      | _ => exact h.elim
  | _ => exact h.elim

/-- Years and eras are never refused, and leave all but the year as it is. -/
theorem replay_setsYear : ∀ {slots : List Slot}, (∀ slot ∈ slots, slot.SetsYear) →
    ∀ draft : Draft, ∃ known, replay d draft slots = some { draft with
      year := yearAfter d draft.year slots
      supplied := { draft.supplied with year := known } }
  | [], _, draft => ⟨draft.supplied.year, rfl⟩
  | slot :: slots, h, draft => by
      obtain ⟨known, hslot⟩ := Slot.replay_setsYear d (h slot List.mem_cons_self) draft
      obtain ⟨known', hslots⟩ := replay_setsYear
        (fun slot hslot => h slot (List.mem_cons_of_mem _ hslot)) { draft with
          year := slot.turnYear d draft.year
          supplied := { draft.supplied with year := known } }
      refine ⟨known', ?_⟩
      rw [replay_cons, hslot]
      exact hslots

/-- Years, eras and an ordinal day come to the place of the ordinal in the year that was read before
it, in the year that was read in the end. -/
theorem fields_replay_ordinal {before after : List Slot} (hb : ∀ slot ∈ before, slot.SetsYear)
    (ha : ∀ slot ∈ after, slot.SetsYear) (len : Nat) (reference : Date) :
    (replay d (.ofReference reference) (before ++ .number .dayOfYear len :: after)).map
        Draft.fields =
      (monthDayOfOrdinal (yearAfter d reference.year before) d.dayOfYear).map fun found =>
        { year := yearAfter d reference.year (before ++ after), month := found.1,
          day := found.2 } := by
  have hyear : yearAfter d reference.year (before ++ after) =
      yearAfter d (yearAfter d reference.year before) after := List.foldl_append
  obtain ⟨known, hbefore⟩ := replay_setsYear d hb (.ofReference reference)
  rw [replay_append, hbefore, Option.bind_some, replay_cons, Slot.replay, hyear]
  change ((Option.map _ (monthDayOfOrdinal (yearAfter d reference.year before) _)).bind _).map _ = _
  cases monthDayOfOrdinal (yearAfter d reference.year before) d.dayOfYear with
  | none => rfl
  | some found =>
      obtain ⟨known', hafter⟩ := replay_setsYear d ha (Draft.supplyDay (Draft.supplyMonth
        { Draft.ofReference reference with
          year := yearAfter d reference.year before
          supplied := { (Draft.ofReference reference).supplied with year := known } }
        found.1) found.2)
      rw [Option.map_some, Option.bind_some]
      refine (congrArg (Option.map Draft.fields) hafter).trans ?_
      simp [Draft.fields, Draft.finalMonth, Draft.finalDay, Draft.finalHours, Draft.supplyDay,
        Draft.supplyMonth, Draft.ofReference]

end

/-! ### Patterns of years and eras round an ordinal day -/

/-- A pattern of years and eras round an ordinal day is read as the day that was shown exactly when
the year is the one of the date in the end and the ordinal names the same day in the year that was
read before it. -/
theorem parse_format_ordinal {locale : Option Locale}
    (hl : locale ∈ [none, some Locale.english, some Locale.german]) (d reference : Date)
    {pattern text : String} (htext : format (.date d) pattern locale = some text)
    (hsep : Separated (tokenize pattern.toList))
    (hlegible : ∀ slot ∈ slotsOf (tokenize pattern.toList), slot.Legible d)
    {before after : List Slot} {len : Nat}
    (hslots : slotsOf (tokenize pattern.toList) = before ++ .number .dayOfYear len :: after)
    (hb : ∀ slot ∈ before, slot.SetsYear) (ha : ∀ slot ∈ after, slot.SetsYear) :
    (∃ e, parse text pattern { locale, reference := .date reference } = .ok e ∧
        e.calendarDay = d.calendarDay) ↔
      yearAfter d reference.year (before ++ after) = d.year ∧
        d.SameOrdinal (yearAfter d reference.year before) := by
  have hfields := fields_replay_ordinal d hb ha len reference
  simp only [parse_format_eq_ok_iff d hl htext hsep hlegible, hslots]
  cases hplace : monthDayOfOrdinal (yearAfter d reference.year before) d.dayOfYear with
  | none =>
      rw [hplace, Option.map_none, Option.map_eq_none_iff] at hfields
      constructor
      · rintro ⟨e, ⟨final, hfinal, -⟩, -⟩
        rw [hfields] at hfinal
        contradiction
      · rintro ⟨-, hsame⟩
        have hsome := d.isSome_of_sameOrdinal hsame
        rw [hplace] at hsome
        contradiction
  | some found =>
      rw [hplace, Option.map_some, Option.map_eq_some_iff] at hfields
      obtain ⟨final, hfinal, hfields⟩ := hfields
      rw [← d.exists_ofFields_iff hplace, ← hfields]
      simp [hfinal]

/-! ### A year, an era and an ordinal day -/

/-- The year in which an ordinal day is placed, when it is read together with a year and an era in
the order of their letters: the reference year before the year, and the year of the era before the
era. -/
def yearOfOrdinal (d reference : Date) (order : List Char) : Int :=
  if ['y', 'D'].Sublist order then
    if ['G', 'D'].Sublist order then d.year else yearOfEra d.year
  else reference.year

theorem yearOfEra_eq_iff {year : Int} : (yearOfEra year : Int) = year ↔ 0 < year := by
  rcases lt_or_ge 0 year with hpos | hneg
  · simp [yearOfEra_of_pos hpos, hpos]
  · rw [yearOfEra_of_nonpos hneg]
    omega

theorem Slot.turnYear_year (d : Date) (year : Int) (len : Nat) :
    (Slot.year len).turnYear d year = yearOfEra d.year := rfl

theorem Slot.turnYear_era_of_pos {d : Date} (h : 0 < d.year) (year : Int) (width : Width) :
    (Slot.name .era width).turnYear d year = year := by
  rw [turnYear, if_neg (by omega)]

/-- An era turns the year of the era into the year. -/
theorem Slot.turnYear_yearOfEra (d : Date) (width : Width) :
    (Slot.name .era width).turnYear d (yearOfEra d.year) = d.year := by
  rw [turnYear]
  rcases lt_or_ge 0 d.year with hpos | hneg
  · rw [if_neg (by omega), yearOfEra_of_pos hpos]
  · rw [yearOfEra_of_nonpos hneg, if_pos (by omega)]
    omega

/-- The slots of a year and an era, each of one letter. -/
def yearAndEra : List Slot := [.year 1, .name .era .abbreviated]

theorem setsYear_of_mem_yearAndEra {slot : Slot} (h : slot ∈ yearAndEra) : slot.SetsYear := by
  rw [yearAndEra, List.mem_pair] at h
  rcases h with rfl | rfl <;> trivial

theorem legible_of_mem_yearAndEra (d : Date) {slot : Slot} (h : slot ∈ yearAndEra) :
    slot.Legible d := by
  rw [yearAndEra, List.mem_pair] at h
  rcases h with rfl | rfl
  · exact .inl rfl
  · exact fun h => by cases h

theorem len_of_year_mem_yearAndEra {len : Nat} (h : .year len ∈ yearAndEra) : len = 1 := by
  simpa [yearAndEra] using h

theorem parse_format_shortOrdinal (d reference : Date) {pattern : String}
    (before after : List Slot) (hsep : Separated (tokenize pattern.toList))
    (hslots : slotsOf (tokenize pattern.toList) = before ++ .number .dayOfYear 1 :: after)
    (hb : ∀ slot ∈ before, slot ∈ yearAndEra) (ha : ∀ slot ∈ after, slot ∈ yearAndEra) :
    ∃ text, format (.date d) pattern none = some text ∧
      ((∃ e, parse text pattern { reference := .date reference } = .ok e ∧
          e.calendarDay = d.calendarDay) ↔
        yearAfter d reference.year (before ++ after) = d.year ∧
          d.SameOrdinal (yearAfter d reference.year before)) := by
  have hlegible : ∀ slot ∈ slotsOf (tokenize pattern.toList), slot.Legible d := by
    intro slot hslot
    rw [hslots, List.mem_append, List.mem_cons] at hslot
    rcases hslot with hslot | rfl | hslot
    · exact legible_of_mem_yearAndEra d (hb slot hslot)
    · exact fun _ => by decide
    · exact legible_of_mem_yearAndEra d (ha slot hslot)
  have hlen : ∀ len, .field .year len ∈ tokenize pattern.toList → len ≤ maxPadding := by
    intro len hmem
    have hslot : .year len ∈ slotsOf (tokenize pattern.toList) :=
      mem_slotsOf.2 ⟨.year, len, hmem, rfl⟩
    simp only [hslots, List.mem_append, List.mem_cons, reduceCtorEq, false_or] at hslot
    obtain rfl := len_of_year_mem_yearAndEra (hslot.elim (hb _) (ha _))
    decide
  obtain ⟨text, htext⟩ := exists_format_eq_some hlen
  exact ⟨text, htext, parse_format_ordinal List.mem_cons_self d reference htext hsep hlegible hslots
    (fun slot h => setsYear_of_mem_yearAndEra (hb slot h))
    (fun slot h => setsYear_of_mem_yearAndEra (ha slot h))⟩

/-- A year, an era and an ordinal day, in any order, can be written, and are read as the day that was
shown exactly when the era of a year that is not positive stands behind the year, and the ordinal
names the same day in the year in which it is placed. -/
theorem parse_format_ordinal_iff_order (d reference : Date) {order : List Char}
    (h : order.Perm ['y', 'G', 'D']) :
    ∃ text, format (.date d) (String.ofList (order.intersperse ' ')) none = some text ∧
      ((∃ e, parse text (String.ofList (order.intersperse ' ')) { reference := .date reference } =
            .ok e ∧ e.calendarDay = d.calendarDay) ↔
        (d.year ≤ 0 → ['y', 'G'].Sublist order) ∧
          d.SameOrdinal (yearOfOrdinal d reference order)) := by
  have horder := List.mem_permutations'.2 h
  simp only [List.permutations', List.flatMap_cons, List.flatMap_nil, List.permutations'Aux,
    List.map_cons, List.map_nil, List.append_nil, List.cons_append, List.nil_append,
    List.mem_cons, List.not_mem_nil, or_false] at horder
  rcases horder with rfl | rfl | rfl | rfl | rfl | rfl
  · refine (parse_format_shortOrdinal d reference [.year 1, .name .era .abbreviated] []
      (by decide) (by decide) (by decide) (by decide)).imp fun _ h => ⟨h.1, h.2.trans ?_⟩
    simp +decide [yearAfter, yearOfOrdinal, Slot.turnYear_year, Slot.turnYear_yearOfEra]
  · refine (parse_format_shortOrdinal d reference [.name .era .abbreviated, .year 1] []
      (by decide) (by decide) (by decide) (by decide)).imp fun _ h => ⟨h.1, h.2.trans ?_⟩
    -- the era came too early, so the year is right only if it needs no turning
    simp +decide +contextual [yearAfter, yearOfOrdinal, Slot.turnYear_year, yearOfEra_eq_iff,
      yearOfEra_of_pos]
  · refine (parse_format_shortOrdinal d reference [.name .era .abbreviated] [.year 1]
      (by decide) (by decide) (by decide) (by decide)).imp fun _ h => ⟨h.1, h.2.trans ?_⟩
    -- the era could only turn the reference year, and then the year is not right in the end
    simp +decide +contextual [yearAfter, yearOfOrdinal, Slot.turnYear_year, yearOfEra_eq_iff,
      Slot.turnYear_era_of_pos]
  · refine (parse_format_shortOrdinal d reference [.year 1] [.name .era .abbreviated]
      (by decide) (by decide) (by decide) (by decide)).imp fun _ h => ⟨h.1, h.2.trans ?_⟩
    simp +decide [yearAfter, yearOfOrdinal, Slot.turnYear_year, Slot.turnYear_yearOfEra]
  · refine (parse_format_shortOrdinal d reference [] [.year 1, .name .era .abbreviated]
      (by decide) (by decide) (by decide) (by decide)).imp fun _ h => ⟨h.1, h.2.trans ?_⟩
    simp +decide [yearAfter, yearOfOrdinal, Slot.turnYear_year, Slot.turnYear_yearOfEra]
  · refine (parse_format_shortOrdinal d reference [] [.name .era .abbreviated, .year 1]
      (by decide) (by decide) (by decide) (by decide)).imp fun _ h => ⟨h.1, h.2.trans ?_⟩
    simp +decide [yearAfter, yearOfOrdinal, Slot.turnYear_year, yearOfEra_eq_iff]

/-- The 60th day of 2023, the 1st of March: in the leap year of the reference date it is a leap day,
which rolls over. -/
theorem parse_format_ordinal_iff_order_leapReference :
    ['D', 'y', 'G'].Perm ['y', 'G', 'D'] ∧
      format (.date ⟨1677628800000, by decide⟩) "D y G" none = some "60 2023 AD" ∧
      ∃ e, parse "60 2023 AD" "D y G" { reference := .date ⟨1704067200000, by decide⟩ } = .ok e ∧
        e.calendarDay = (⟨1677628800000, by decide⟩ : Date).calendarDay := by
  have horder : ['D', 'y', 'G'].Perm ['y', 'G', 'D'] := by decide
  have hshown : format (.date ⟨1677628800000, by decide⟩) "D y G" none = some "60 2023 AD" := by
    decide +kernel
  obtain ⟨text, htext, hread⟩ := parse_format_ordinal_iff_order ⟨1677628800000, by decide⟩
    ⟨1704067200000, by decide⟩ horder
  obtain rfl : "60 2023 AD" = text := Option.some.inj (hshown.symm.trans htext)
  exact ⟨horder, hshown, hread.2 ⟨by decide +kernel, .inr (by decide +kernel)⟩⟩

/-- The 61st day of 4 BC, the 2nd of March: it is placed in the year 4, which is longer than the
year -3, and slips to the 1st. -/
theorem parse_format_ordinal_slips :
    ['y', 'D', 'G'].Perm ['y', 'G', 'D'] ∧
      format (.date ⟨-62256643200000, by decide⟩) "y D G" none = some "4 61 BC" ∧
      parse "4 61 BC" "y D G" { reference := .date ⟨-62256643200000, by decide⟩ } =
        .ok ⟨-62256729600000, by decide⟩ ∧
      (⟨-62256643200000, by decide⟩ : Date).calendarDay = ⟨-3, 2, 2⟩ ∧
      (⟨-62256729600000, by decide⟩ : Date).calendarDay = ⟨-3, 2, 1⟩ :=
  ⟨by decide, by decide +kernel, by decide +kernel, by decide +kernel, by decide +kernel⟩

end DatePattern

import DatePattern.Proofs.Date.WrittenGrammar
import DatePattern.Proofs.Pattern.Defaults
import DatePattern.Proofs.Pattern.OrdinalOrder
import Mathlib.Data.Set.Defs

/-! # Years of two digits

Two digits stand for the one year that ends in them and lies near the reference year
(`eq_nearestYear_iff`).  What a date shows in two digits are the last ones of the year of its era,
and near the reference year is where they are placed, whatever the era.  An era that is read later
turns round a positive year and leaves any other year where it was placed.

* `parse_twoDigitYear`: the day that two digits are read as, and the dates that are read back
  without an era.
* `parse_format_twoDigitYear_iff`: the dates that are read back with an era. -/

namespace DatePattern

/-! ### Years near the reference year -/

/-- The years less than 50 years before the reference year, or at most 50 years after it. -/
def yearsNear (reference : Int) : Set Int :=
  {year | reference - 50 < year ∧ year ≤ reference + 50}

/-- Of the years that end in two digits, exactly one lies near the reference year. -/
theorem eq_nearestYear_iff {twoDigits : Nat} (h : twoDigits < 100) {reference year : Int} :
    year = nearestYear twoDigits reference ↔
      year ∈ yearsNear reference ∧ year % 100 = twoDigits := by
  simp only [nearestYear, yearsNear, Set.mem_ofPred_eq]
  split
  · omega
  split
  · omega
  · omega

theorem nearestYear_spec {twoDigits : Nat} (h : twoDigits < 100) (reference : Int) :
    nearestYear twoDigits reference ∈ yearsNear reference ∧
      nearestYear twoDigits reference % 100 = twoDigits :=
  (eq_nearestYear_iff h).1 rfl

/-- Before Christ the year of the era and the year never end in the same two digits.  So an era
makes the year out of the place of these digits only where the year of the era stands there. -/
theorem turnYear_placed_eq_iff (d : Date) (width : Width) {reference placed : Int}
    (h : placed = nearestYear (yearOfEra d.year % 100) reference) :
    (Slot.name .era width).turnYear d placed = d.year ↔
      (yearOfEra d.year : Int) ∈ yearsNear reference := by
  have hlt : yearOfEra d.year % 100 < 100 := Nat.mod_lt _ (by decide)
  have hends : (yearOfEra d.year : Int) % 100 = (yearOfEra d.year % 100 : Nat) := by omega
  have hplaced : placed % 100 = (yearOfEra d.year % 100 : Nat) :=
    h ▸ (nearestYear_spec hlt reference).2
  have hnear : (yearOfEra d.year : Int) ∈ yearsNear reference ↔
      (yearOfEra d.year : Int) = placed := by
    rw [h, eq_nearestYear_iff hlt, and_iff_left hends]
  rw [hnear]
  rcases lt_or_ge 0 d.year with hpos | hneg
  · rw [Slot.turnYear_era_of_pos hpos, yearOfEra_of_pos hpos]
    exact eq_comm
  · rw [Slot.turnYear, yearOfEra_of_nonpos hneg]
    rw [yearOfEra_of_nonpos hneg] at hends
    split
    · omega
    · omega

/-! ### The start of a day -/

/-- The result is the start of the calendar day, and an error if no date has that day. -/
def StartsDay (day : CalendarDay) (result : Except ParseError Date) : Prop :=
  (∃ d, result = .ok d ∧ d.calendarDay = day ∧ d.clock = .midnight) ∨
    (result = .error .unrepresentable ∧ ∀ d : Date, d.calendarDay ≠ day)

namespace Draft

/-- The draft comes to the start of a day, before the day rolls over. -/
def OnDay (draft : Draft) (day : CalendarDay) : Prop := draft.fields = .ofParts day .midnight

variable {draft : Draft} {day : CalendarDay} (h : draft.OnDay day) (hm : day.month < 12)
  (h1 : 1 ≤ day.day) (h31 : day.day ≤ 31)
include h hm h1 h31

theorem OnDay.finish_eq_ok_iff {d : Date} :
    draft.finish = .ok d ↔ d.calendarDay = day.rolledOver ∧ d.clock = .midnight := by
  rw [Draft.finish_eq_ok_iff, h]
  exact Date.ofParts_eq_ok_iff hm h1 h31 (by decide)

theorem OnDay.startsDay_finish : StartsDay day.rolledOver draft.finish := by
  have hok := fun d => h.finish_eq_ok_iff hm h1 h31 (d := d)
  cases hresult : draft.finish with
  | ok d =>
      obtain ⟨hday, hclock⟩ := (hok d).1 hresult
      exact .inl ⟨d, rfl, hday, hclock⟩
  | error cause =>
      refine .inr ⟨by rw [finish_error hresult], fun d hday => ?_⟩
      obtain ⟨e, heday, hclock⟩ := d.exists_midnight
      rw [(hok e).2 ⟨heday.trans hday, hclock⟩] at hresult
      contradiction

end Draft

section
variable (d : Date) {draft : Draft} {year : Int} (h : draft.OnDay (d.calendarDay.inYear year))
include h

theorem Date.finish_inYear_eq_ok_iff {e : Date} : draft.finish = .ok e ↔
    e.calendarDay = (d.calendarDay.inYear year).rolledOver ∧ e.clock = .midnight :=
  h.finish_eq_ok_iff d.month_lt d.one_le_day
    (d.day_le_monthLength.trans (monthLength_le _ d.month_lt))

/-- A draft with the month and the day of a date comes to the day of the date exactly when it has
the year of the date as well. -/
theorem Date.exists_finish_iff :
    (∃ e, draft.finish = .ok e ∧ e.calendarDay = d.calendarDay) ↔ year = d.year := by
  simp only [d.finish_inYear_eq_ok_iff h]
  constructor
  · rintro ⟨e, ⟨hrolled, -⟩, hday⟩
    have hyear := CalendarDay.rolledOver_year (d.calendarDay.inYear year)
    rw [← hrolled, hday] at hyear
    exact hyear.symm
  · rintro rfl
    obtain ⟨e, hday, hclock⟩ := d.exists_midnight
    refine ⟨e, ⟨?_, hclock⟩, hday⟩
    rw [hday]
    exact (CalendarDay.rolledOver_of_le d.day_le_monthLength).symm

end

/-! ### Reading two digits -/

theorem numeralValue_twoDigits_lt {digits : List Char} (hlength : digits.length = 2)
    (hdigits : ∀ c ∈ digits, c.isDigit) : numeralValue digits < 100 := by
  have hlt := numeralValue_lt hdigits
  rwa [hlength] at hlt

theorem readNumber_two_lt {field : Field} {value taken : Nat} {cursor : Cursor}
    (h : readNumber field (.ofLength 2) cursor = .ok (value, taken)) : value < 100 := by
  obtain ⟨digits, -, -, -, -, hdigits, hspan, rfl, -⟩ := readNumber_eq_ok h
  exact numeralValue_twoDigits_lt hspan hdigits

section
variable {locale : Option Locale}

theorem Slot.read_twoDigits {digits : List Char} (hlength : digits.length = 2)
    (hdigits : ∀ c ∈ digits, c.isDigit) (tail : List Char)
    (ht : ∀ c ∈ tail.head?, c.isDigit = false) (position : Nat) (draft : Draft) :
    (Slot.year 2).read locale ⟨position, some (digits ++ tail)⟩ draft =
      .ok (digits.length,
        draft.supplyYear (nearestYear (numeralValue digits) draft.referenceYear)) := by
  have hne : digits ≠ [] := List.ne_nil_of_length_eq_add_one hlength
  have hspan : (DigitSpan.ofLength 2).Admits digits.length := by
    rw [hlength]
    exact ⟨rfl, rfl⟩
  have hmax : numeralValue digits ≤ maxNumber :=
    (numeralValue_twoDigits_lt hlength hdigits).le.trans (by decide)
  rw [read, readNumber_append hne hdigits ht hspan hmax]
  rfl

/-- Two digits alone come to the first day of the year in which they are placed. -/
theorem parseTokens_twoDigits (reference : Date) {digits : List Char}
    (hlength : digits.length = 2) (hdigits : ∀ c ∈ digits, c.isDigit) :
    parseTokens locale reference [.field .year 2] digits =
      ((Draft.ofReference reference).supplyYear
        (nearestYear (numeralValue digits) reference.year)).finish := by
  have hslot : (Token.field .year 2).slot? = some (.year 2) := rfl
  have hread : (Slot.year 2).read locale ⟨0, some (digits ++ [])⟩ (.ofReference reference) =
      .ok _ := Slot.read_twoDigits hlength hdigits [] (by simp) 0 (.ofReference reference)
  rw [List.append_nil] at hread
  have htoken := Token.read_of_slot_alone hslot hread
  rw [parseTokens, readTokens, Cursor.start, htoken]
  rfl

/-- The slots of a month, a day and an era that stand behind the two digits of a year. -/
def monthDayEra : List Slot := [.number .month 2, .number .day 2, .name .era .abbreviated]

theorem legible_of_mem_monthDayEra (d : Date) {slot : Slot} (h : slot ∈ monthDayEra) :
    slot.Legible d := by
  simp only [monthDayEra, List.mem_cons, List.not_mem_nil, or_false] at h
  rcases h with rfl | rfl | rfl
  · exact fun h => by cases h
  · exact fun h => by cases h
  · exact fun h => by cases h

section
variable (d : Date) {rest : List Token} (hsep : Separated (.field .year 2 :: rest))
  (hrest : slotsOf rest ⊆ monthDayEra)
include hsep hrest

/-- The two digits that a date shows of its year are placed near the reference year, and what stands
behind them is read back. -/
theorem readTokens_render_twoDigits {shown : List Char}
    (hshown : renderTokens none d (.field .year 2 :: rest) = some shown) (position : Nat)
    (draft : Draft) :
    readTokens none (.field .year 2 :: rest) ⟨position, some shown⟩ draft =
      .ok (⟨position + byteLength shown, some []⟩,
        echo d (draft.supplyYear (nearestYear (yearOfEra d.year % 100) draft.referenceYear))
          (slotsOf rest)) := by
  obtain ⟨digits, tail, hdigits, htail, rfl⟩ := renderTokens_cons_eq_some_iff.1 hshown
  obtain rfl : padded 2 (yearOfEra d.year % 100) = digits := Option.some.inj hdigits
  have hlength : (padded 2 (yearOfEra d.year % 100)).length = 2 :=
    length_padded_of_lt (by decide) (Nat.mod_lt _ (by decide))
  have hslot : (Token.field .year 2).slot? = some (.year 2) := rfl
  have hread : (Slot.year 2).read none ⟨position, some (padded 2 (yearOfEra d.year % 100) ++
      tail)⟩ draft = .ok _ :=
    Slot.read_twoDigits hlength (fun _ => isDigit_of_mem_padded) _ (hsep.endsAt d hslot htail)
      position draft
  rw [numeralValue_padded] at hread
  have htoken := Token.read_of_slot hslot hread
  have hlater := readTokens_render List.mem_cons_self d rest
    (draft.supplyYear (nearestYear (yearOfEra d.year % 100) draft.referenceYear))
    (position + byteLength (padded 2 (yearOfEra d.year % 100))) htail hsep.2
    (fun slot hslot => legible_of_mem_monthDayEra d (hrest hslot))
    fun before len after hsplit => by
      have hmem : .number .dayOfYear len ∈ slotsOf rest := by simp [hsplit]
      exact absurd (hrest hmem) (by simp [monthDayEra])
  rw [readTokens, htoken]
  simp only [bind, Except.bind]
  rw [hlater, byteLength_append, Nat.add_assoc]

theorem parse_format_twoDigits (reference : Date) {pattern : String}
    (hpattern : tokenize pattern.toList = .field .year 2 :: rest) :
    ∃ text, format (.date d) pattern none = some text ∧
      parse text pattern { reference := .date reference } =
        (echo d ((Draft.ofReference reference).supplyYear
          (nearestYear (yearOfEra d.year % 100) reference.year)) (slotsOf rest)).finish := by
  obtain ⟨text, htext⟩ : ∃ text, format (.date d) pattern none = some text := by
    refine exists_format_eq_some fun len hlen => ?_
    rw [hpattern, List.mem_cons] at hlen
    rcases hlen with hlen | hlen
    · cases hlen
      decide
    · have hmem : .year len ∈ slotsOf rest := mem_slotsOf.2 ⟨.year, len, hlen, rfl⟩
      exact absurd (hrest hmem) (by simp [monthDayEra])
  have hshown := format_eq_some_iff.1 htext
  rw [hpattern] at hshown
  have hread := readTokens_render_twoDigits d hsep hrest hshown 0 (.ofReference reference)
  refine ⟨text, htext, ?_⟩
  rw [parse_eq_parseTokens, hpattern, parseTokens, Cursor.start, hread]
  rfl

end

end

/-! ### Main statements -/

/-- Two digits alone are read as the first day of the one year near the reference year that ends in
them.  With its month and day, the year of a date that is not before Christ is read back as the
date was shown if it lies near the reference year. -/
theorem parse_twoDigitYear (reference : Date) :
    (∀ (locale : Option Locale) (text : String), text.toList.length = 2 →
      (∀ c ∈ text.toList, c.isDigit) → ∃ year ∈ yearsNear reference.year,
        year % 100 = numeralValue text.toList ∧
        (∀ other ∈ yearsNear reference.year, other % 100 = numeralValue text.toList →
          other = year) ∧
        StartsDay ⟨year, 0, 1⟩ (parse text "yy" { locale, reference := .date reference })) ∧
    ∀ d : Date, 1 ≤ d.year → d.year ∈ yearsNear reference.year →
      ∃ text, format (.date d) "yy-MM-dd" none = some text ∧
        ∃ e, parse text "yy-MM-dd" { reference := .date reference } = .ok e ∧
          e.calendarDay = d.calendarDay ∧ e.clock = .midnight := by
  constructor
  · intro locale text hlength hdigits
    have hvalue := numeralValue_twoDigits_lt hlength hdigits
    obtain ⟨hnear, hends⟩ := nearestYear_spec hvalue reference.year
    refine ⟨_, hnear, hends, fun other hother hotherEnds =>
      (eq_nearestYear_iff hvalue).2 ⟨hother, hotherEnds⟩, ?_⟩
    have hpattern : tokenize "yy".toList = [.field .year 2] := by decide
    rw [parse_eq_parseTokens, hpattern, parseTokens_twoDigits reference hlength hdigits]
    generalize nearestYear (numeralValue text.toList) reference.year = year
    have hday : ((Draft.ofReference reference).supplyYear year).OnDay ⟨year, 0, 1⟩ := rfl
    have hstarts := hday.startsDay_finish (Nat.zero_lt_succ _) (Nat.le_refl _) (Nat.le_add_left _ _)
    rwa [CalendarDay.rolledOver_of_le (one_le_monthLength year (Nat.zero_lt_succ _))] at hstarts
  · intro d hpos hnear
    have hpattern : tokenize "yy-MM-dd".toList = .field .year 2 ::
      [.literal '-', .field .month 2, .literal '-', .field .day 2] := by decide
    obtain ⟨text, htext, hparse⟩ :=
      parse_format_twoDigits d (by decide) (by decide) reference hpattern
    refine ⟨text, htext, ?_⟩
    rw [hparse]
    have hera := yearOfEra_of_pos (Int.lt_of_add_one_le hpos)
    have hyear : d.year = nearestYear (yearOfEra d.year % 100) reference.year :=
      (eq_nearestYear_iff (Nat.mod_lt _ (by decide))).2 ⟨hnear, by omega⟩
    rw [← hyear]
    have hday : (echo d ((Draft.ofReference reference).supplyYear d.year)
        (slotsOf [.literal '-', .field .month 2, .literal '-', .field .day 2])).OnDay
          (d.calendarDay.inYear d.year) := rfl
    obtain ⟨e, he, heday⟩ := (d.exists_finish_iff hday).2 rfl
    exact ⟨e, he, heday, (d.finish_inYear_eq_ok_iff hday).1 he |>.2⟩

/-- Near the year 30 the digits 99 mean 2 BC, and the leap day of the last year near it is read
back; near the first year of the range the digits 78 mean a year whose first day is out of it. -/
theorem parse_twoDigitYear_edges :
    let june30 : Date := ⟨-61206192000000, by decide⟩
    let leapDay80 : Date := ⟨-59637513600000, by decide⟩
    let earliest : Date := ⟨-8640000000000000, by decide⟩
    ("99".toList.length = 2 ∧ (∀ c ∈ "99".toList, c.isDigit) ∧
      StartsDay ⟨-1, 0, 1⟩ (parse "99" "yy" { reference := .date june30 })) ∧
    (1 ≤ leapDay80.year ∧ leapDay80.year ∈ yearsNear june30.year ∧
      ∃ text, format (.date leapDay80) "yy-MM-dd" none = some text ∧
        ∃ e, parse text "yy-MM-dd" { reference := .date june30 } = .ok e ∧
          e.calendarDay = leapDay80.calendarDay ∧ e.clock = .midnight) ∧
    ("78".toList.length = 2 ∧ (∀ c ∈ "78".toList, c.isDigit) ∧
      StartsDay ⟨-271822, 0, 1⟩ (parse "78" "yy" { reference := .date earliest }) ∧
        parse "78" "yy" { reference := .date earliest } = .error .unrepresentable) := by
  intro june30 leapDay80 earliest
  have hjune : june30.year = 30 := by decide +kernel
  have hleap : leapDay80.year = 80 := by decide +kernel
  have hearliest : earliest.year = -271821 := by decide +kernel
  have hdigits : ∀ text ∈ ["99", "78"], ∀ c ∈ text.toList, c.isDigit := by simp
  refine ⟨⟨rfl, hdigits _ (by decide), ?_⟩, ?_, rfl, hdigits _ (by decide), ?_, ?_⟩
  · obtain ⟨year, -, -, hunique, hstarts⟩ :=
      (parse_twoDigitYear june30).1 none "99" rfl (hdigits _ (by decide))
    rwa [← hunique (-1) (by rw [hjune]; constructor <;> decide) (by decide)] at hstarts
  · have hnear : leapDay80.year ∈ yearsNear june30.year := by
      rw [hleap, hjune]
      constructor <;> decide
    have hpos : 1 ≤ leapDay80.year := by
      rw [hleap]
      decide
    exact ⟨hpos, hnear, (parse_twoDigitYear june30).2 leapDay80 hpos hnear⟩
  · obtain ⟨year, -, -, hunique, hstarts⟩ :=
      (parse_twoDigitYear earliest).1 none "78" rfl (hdigits _ (by decide))
    rwa [← hunique (-271822) (by rw [hearliest]; constructor <;> decide) (by decide)] at hstarts
  · decide +kernel

/-- A date in two digits of its year, with its month, its day and its era, is read back as the day
that was shown exactly when the year of its era lies near the reference year. -/
theorem parse_format_twoDigitYear_iff (d reference : Date) :
    ∃ text, format (.date d) "yy-MM-dd G" none = some text ∧
      ((∃ e, parse text "yy-MM-dd G" { reference := .date reference } = .ok e ∧
          e.calendarDay = d.calendarDay) ↔
        (yearOfEra d.year : Int) ∈ yearsNear reference.year) := by
  have hpattern : tokenize "yy-MM-dd G".toList = .field .year 2 ::
    [.literal '-', .field .month 2, .literal '-', .field .day 2, .literal ' ', .field .era 1] := by
      decide
  obtain ⟨text, htext, hparse⟩ :=
    parse_format_twoDigits d (by decide) (by decide) reference hpattern
  refine ⟨text, htext, ?_⟩
  rw [hparse, ← turnYear_placed_eq_iff d .abbreviated rfl]
  generalize nearestYear (yearOfEra d.year % 100) reference.year = placed
  have hslots : slotsOf [.literal '-', .field .month 2, .literal '-', .field .day 2, .literal ' ',
      .field .era 1] = [.number .month 2, .number .day 2] ++ [.name .era .abbreviated] := rfl
  have hsets : (Slot.name .era .abbreviated).SetsYear := trivial
  obtain ⟨known, hera⟩ := Slot.replay_setsYear d hsets
    (echo d ((Draft.ofReference reference).supplyYear placed) [.number .month 2, .number .day 2])
  rw [Slot.replay_of_ne d (by simp), Option.some_inj] at hera
  apply d.exists_finish_iff
  rw [hslots, echo_append, Draft.OnDay]
  refine (congrArg Draft.fields hera).trans ?_
  cases known <;> rfl

/-- The first day of 100 BC, the year -99, is read back a year too early near itself: the last two
digits of 100 are placed in the year -100, and the era leaves that year as it is. -/
theorem parse_format_twoDigitYear_centuryBC :
    let newYear : Date := ⟨-65291356800000, by decide⟩
    newYear.calendarDay = ⟨-99, 0, 1⟩ ∧ newYear.year ∈ yearsNear newYear.year ∧
      format (.date newYear) "yy-MM-dd G" none = some "00-01-01 BC" ∧
      (∃ e, parse "00-01-01 BC" "yy-MM-dd G" { reference := .date newYear } = .ok e ∧
        e.calendarDay = ⟨-100, 0, 1⟩) ∧
      ¬ ∃ e, parse "00-01-01 BC" "yy-MM-dd G" { reference := .date newYear } = .ok e ∧
        e.calendarDay = newYear.calendarDay := by
  intro newYear
  have hday : newYear.calendarDay = ⟨-99, 0, 1⟩ := by decide +kernel
  have hformat : format (.date newYear) "yy-MM-dd G" none = some "00-01-01 BC" := by
    decide +kernel
  have hparse : parse "00-01-01 BC" "yy-MM-dd G" { reference := .date newYear } =
      .ok ⟨-65322892800000, by decide⟩ := by decide +kernel
  have hread : (⟨-65322892800000, by decide⟩ : Date).calendarDay = ⟨-100, 0, 1⟩ := by
    decide +kernel
  refine ⟨hday, ?_, hformat, ⟨_, hparse, hread⟩, ?_⟩
  · constructor <;> omega
  · rintro ⟨e, he, heday⟩
    cases hparse.symm.trans he
    rw [hread, hday] at heday
    contradiction

end DatePattern

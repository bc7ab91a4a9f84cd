import DatePattern.Proofs.Date.Rollover
import DatePattern.Proofs.Pattern.FieldEffects
import DatePattern.Proofs.Pattern.RoundTrip

/-! # What a text leaves open

A draft keeps what the reference date put there until a field writes it, and finishing a draft
replaces what is left of the reference date below a field that was read.  Followed through a run of
fields (`Changed`):

* `Changed.sameIn`: a part that no letter writes stays as it was.
* `Changed.supplied_iff`: a year, month or day is marked as read when some letter marks it.
* `Changed.inRange`: what stands in the draft is a month, a day of some month and a time of day, so
  that finishing it rolls over at most from the end of a month into the next one.

Together they tell the date that is read where the pattern does not ask for all of it
(`parse_defaults`). -/

namespace DatePattern

/-! ### Parts that stay -/

/-- The letters of the fields that write the part. -/
def Part.letters : Part → List Symbol
  | year => [.year, .era]
  | month => [.month, .standaloneMonth, .dayOfYear]
  | day => [.day, .dayOfYear]
  | hours => [.hour23, .hour24]
  | hours12 => [.hour12, .hour11]
  | isPm => [.dayPeriod]
  | minutes => [.minute]
  | seconds => [.second]
  | milliseconds => [.fractionalSecond]

/-- The drafts hold the same in the part. -/
def Draft.SameIn (before after : Draft) : Part → Prop
  | .year => after.year = before.year
  | .month => after.month = before.month
  | .day => after.day = before.day
  | .hours => after.hours = before.hours
  | .hours12 => after.hours12 = before.hours12
  | .isPm => after.isPm = before.isPm
  | .minutes => after.minutes = before.minutes
  | .seconds => after.seconds = before.seconds
  | .milliseconds => after.milliseconds = before.milliseconds

theorem Draft.SameIn.refl (draft : Draft) (part : Part) : draft.SameIn draft part := by
  cases part <;> rfl

theorem Draft.SameIn.trans {a b c : Draft} {part : Part} (hab : a.SameIn b part)
    (hbc : b.SameIn c part) : a.SameIn c part := by
  cases part <;> exact Eq.trans hbc hab

section
variable {before after : Draft}

theorem Symbol.Changes.sameIn {symbol : Symbol} {part : Part} (h : symbol.Changes before after)
    (hpart : symbol ∉ part.letters) : before.SameIn after part := by
  cases symbol with
  | year | era =>
      obtain ⟨year, rfl⟩ := h
      cases part <;> first | rfl | simp [Part.letters] at hpart
  | month | standaloneMonth | hour23 | hour24 | minute | second | fractionalSecond =>
      obtain ⟨value, -, rfl⟩ := h
      cases part <;> first | rfl | simp [Part.letters] at hpart
  | day | hour12 | hour11 =>
      obtain ⟨value, -, -, rfl⟩ := h
      cases part <;> first | rfl | simp [Part.letters] at hpart
  | dayOfYear =>
      obtain ⟨month, -, day, -, -, rfl⟩ := h
      cases part <;> first | rfl | simp [Part.letters] at hpart
  | weekday | standaloneWeekday =>
      obtain rfl := h
      exact .refl _ _
  | dayPeriod =>
      obtain ⟨isPm, rfl⟩ := h
      cases part <;> first | rfl | simp [Part.letters] at hpart

/-- A part that no letter writes stays as it was. -/
theorem Changed.sameIn {letters : List Symbol} (h : Changed before letters after) (part : Part)
    (hpart : ∀ letter ∈ part.letters, letter ∉ letters) : before.SameIn after part := by
  induction h with
  | nil draft => exact .refl draft part
  | cons hchanges _ ih =>
      refine (hchanges.sameIn fun hmem => hpart _ hmem List.mem_cons_self).trans (ih ?_)
      exact fun letter hletter hmem => hpart letter hletter (List.mem_cons_of_mem _ hmem)

/-! ### Parts that were read -/

/-- The part is marked as read. -/
def Supplied.has (supplied : Supplied) : Part → Bool
  | .year => supplied.year
  | .month => supplied.month
  | .day => supplied.day
  | _ => false

/-- The letters of the fields that mark the part as read. -/
def Part.suppliers : Part → List Symbol
  | year => [.year]
  | month => [.month, .standaloneMonth, .dayOfYear]
  | day => [.day, .dayOfYear]
  | _ => []

theorem Symbol.Changes.supplied_iff {symbol : Symbol} (h : symbol.Changes before after)
    (part : Part) :
    after.supplied.has part ↔ before.supplied.has part ∨ symbol ∈ part.suppliers := by
  cases symbol with
  | year | era =>
      obtain ⟨year, rfl⟩ := h
      cases part <;> simp [Supplied.has, Part.suppliers]
  | month | standaloneMonth | hour23 | hour24 | minute | second | fractionalSecond =>
      obtain ⟨value, -, rfl⟩ := h
      cases part <;> simp [Supplied.has, Part.suppliers]
  | day | hour12 | hour11 =>
      obtain ⟨value, -, -, rfl⟩ := h
      cases part <;> simp [Supplied.has, Part.suppliers]
  | dayOfYear =>
      obtain ⟨month, -, day, -, -, rfl⟩ := h
      cases part <;> simp [Supplied.has, Part.suppliers]
  | weekday | standaloneWeekday =>
      obtain rfl := h
      cases part <;> simp [Supplied.has, Part.suppliers]
  | dayPeriod =>
      obtain ⟨isPm, rfl⟩ := h
      cases part <;> simp [Supplied.has, Part.suppliers]

/-- A part is marked as read when it was before or when some letter marks it. -/
theorem Changed.supplied_iff {letters : List Symbol} (h : Changed before letters after)
    (part : Part) :
    after.supplied.has part ↔
      before.supplied.has part ∨ ∃ letter ∈ letters, letter ∈ part.suppliers := by
  induction h with
  | nil draft => simp
  | cons hchanges _ ih =>
      rw [ih, hchanges.supplied_iff part, or_assoc]
      simp

/-! ### Parts in range -/

/-- The month, the day and the time of day of the draft are such as a calendar and a clock show. -/
structure Draft.InRange (draft : Draft) : Prop where
  month : draft.month < 12
  one_le_day : 1 ≤ draft.day
  day_le : draft.day ≤ 31
  hours : draft.hours < 24
  minutes : draft.minutes < 60
  seconds : draft.seconds < 60
  milliseconds : draft.milliseconds < 1000

theorem Draft.inRange_ofReference (reference : Date) : (Draft.ofReference reference).InRange where
  month := reference.month_lt
  one_le_day := reference.one_le_day
  day_le := reference.day_le_monthLength.trans (monthLength_le _ reference.month_lt)
  hours := (by decide : 0 < 24)
  minutes := (by decide : 0 < 60)
  seconds := (by decide : 0 < 60)
  milliseconds := (by decide : 0 < 1000)

theorem Symbol.Changes.inRange {symbol : Symbol} (h : symbol.Changes before after)
    (hrange : before.InRange) : after.InRange := by
  cases symbol with
  | year | era =>
      obtain ⟨year, rfl⟩ := h
      exact { hrange with }
  | month | standaloneMonth =>
      obtain ⟨month, hmonth, rfl⟩ := h
      exact { hrange with month := hmonth }
  | day =>
      obtain ⟨day, h1, h31, rfl⟩ := h
      exact { hrange with one_le_day := h1, day_le := h31 }
  | dayOfYear =>
      obtain ⟨month, hmonth, day, h1, h31, rfl⟩ := h
      exact { hrange with month := hmonth, one_le_day := h1, day_le := h31 }
  | weekday | standaloneWeekday =>
      obtain rfl := h
      exact hrange
  | dayPeriod =>
      obtain ⟨isPm, rfl⟩ := h
      exact { hrange with }
  | hour12 | hour11 =>
      obtain ⟨hour, -, -, rfl⟩ := h
      exact { hrange with }
  | hour23 | hour24 =>
      obtain ⟨hours, hhours, rfl⟩ := h
      exact { hrange with hours := hhours }
  | minute =>
      obtain ⟨minutes, hminutes, rfl⟩ := h
      exact { hrange with minutes := hminutes }
  | second =>
      obtain ⟨seconds, hseconds, rfl⟩ := h
      exact { hrange with seconds := hseconds }
  | fractionalSecond =>
      obtain ⟨milliseconds, hmilliseconds, rfl⟩ := h
      exact { hrange with milliseconds := hmilliseconds }

/-- What is read stays in range. -/
theorem Changed.inRange {letters : List Symbol} (h : Changed before letters after)
    (hrange : before.InRange) : after.InRange := by
  induction h with
  | nil draft => exact hrange
  | cons hchanges _ ih => exact ih (hchanges.inRange hrange)

end

/-! ### The date of a draft in range -/

namespace Draft

/-- The calendar day that the draft comes to before it rolls over. -/
def finalCalendarDay (draft : Draft) : CalendarDay := ⟨draft.year, draft.finalMonth, draft.finalDay⟩

/-- The time of day that the draft comes to. -/
def finalClock (draft : Draft) : Clock :=
  ⟨draft.finalHours, draft.minutes, draft.seconds, draft.milliseconds⟩

variable {draft : Draft} (h : draft.InRange)
include h

theorem finalMonth_lt : draft.finalMonth < 12 := by
  rw [finalMonth]
  split
  · decide
  · exact h.month

theorem finalDay_bounds : 1 ≤ draft.finalDay ∧ draft.finalDay ≤ 31 := by
  rw [finalDay]
  split
  · decide
  · exact ⟨h.one_le_day, h.day_le⟩

theorem isValid_finalClock : draft.finalClock.IsValid := by
  refine ⟨?_, h.minutes, h.seconds, h.milliseconds⟩
  change draft.finalHours < 24
  rw [finalHours]
  split
  · split <;> omega
  · exact h.hours

/-- A draft in range comes to its own time of day on the day to which its day rolls over. -/
theorem ofFields_eq_ok {d : Date} (hd : Date.ofFields draft.fields = .ok d) :
    d.calendarDay = draft.finalCalendarDay.rolledOver ∧ d.clock = draft.finalClock := by
  have hparts : Date.ofParts draft.finalCalendarDay draft.finalClock = .ok d := hd
  obtain ⟨h1, h31⟩ := finalDay_bounds h
  exact (Date.ofParts_eq_ok_iff (finalMonth_lt h) h1 h31 (isValid_finalClock h)).1 hparts

end Draft

/-! ### What is left open -/

section
variable {letters : List Symbol} {reference : Date} {draft : Draft}
  (h : Changed (.ofReference reference) letters draft)
include h

/-- Of a draft that began with a reference date, a part is marked as read exactly when one of the
letters marks it. -/
theorem Changed.has_iff (part : Part) :
    draft.supplied.has part = true ↔ ∃ letter ∈ letters, letter ∈ part.suppliers := by
  have hnone : (Draft.ofReference reference).supplied.has part = false := by cases part <;> rfl
  rw [h.supplied_iff part, hnone]
  simp

theorem Changed.has_eq_false (part : Part)
    (hpart : ∀ letter ∈ part.suppliers, letter ∉ letters) : draft.supplied.has part = false := by
  rw [← Bool.not_eq_true, h.has_iff]
  rintro ⟨letter, hmem, hletter⟩
  exact hpart letter hletter hmem

/-- Where no field of the calendar is read, the draft comes to the day of the reference date. -/
theorem Changed.finalCalendarDay_eq
    (hnone : ∀ letter ∈ [Symbol.year, .month, .standaloneMonth, .day, .dayOfYear, .era],
      letter ∉ letters) : draft.finalCalendarDay = reference.calendarDay := by
  have hlacks : ∀ {group : List Symbol},
      group ⊆ [.year, .month, .standaloneMonth, .day, .dayOfYear, .era] →
        ∀ letter ∈ group, letter ∉ letters :=
    fun hsubset letter hletter => hnone letter (hsubset hletter)
  have hyear : draft.year = reference.year := h.sameIn .year (hlacks (by decide))
  have hmonth : draft.month = reference.month := h.sameIn .month (hlacks (by decide))
  have hday : draft.day = reference.day := h.sameIn .day (hlacks (by decide))
  have hnoYear : draft.supplied.year = false := h.has_eq_false .year (hlacks (by decide))
  have hnoMonth : draft.supplied.month = false := h.has_eq_false .month (hlacks (by decide))
  simp only [Draft.finalCalendarDay, Draft.finalMonth, Draft.finalDay, hnoYear, hnoMonth, hyear,
    hmonth, hday]
  rfl

/-- A year without a month comes to January. -/
theorem Changed.finalMonth_eq_zero (hyear : .year ∈ letters)
    (hnone : ∀ letter ∈ [Symbol.month, .standaloneMonth, .dayOfYear], letter ∉ letters) :
    draft.finalMonth = 0 := by
  have hread : draft.supplied.year = true :=
    (h.has_iff .year).2 ⟨.year, hyear, List.mem_singleton_self _⟩
  have hnoMonth : draft.supplied.month = false := h.has_eq_false .month hnone
  rw [Draft.finalMonth, hread, hnoMonth]
  rfl

/-- A year or a month without a day comes to the 1st. -/
theorem Changed.finalDay_eq_one
    (hread : ∃ letter ∈ [Symbol.year, .month, .standaloneMonth], letter ∈ letters)
    (hnone : ∀ letter ∈ [Symbol.day, .dayOfYear], letter ∉ letters) : draft.finalDay = 1 := by
  have hsupplied : (draft.supplied.year || draft.supplied.month) = true := by
    obtain ⟨letter, hletter, hmem⟩ := hread
    rw [Bool.or_eq_true_iff]
    rcases List.mem_cons.1 hletter with rfl | hletter
    · exact .inl ((h.has_iff .year).2 ⟨.year, hmem, List.mem_singleton_self _⟩)
    · have hmonths : [Symbol.month, .standaloneMonth] ⊆ Part.month.suppliers := by decide
      exact .inr ((h.has_iff .month).2 ⟨letter, hmem, hmonths hletter⟩)
  have hnoDay : draft.supplied.day = false := h.has_eq_false .day hnone
  rw [Draft.finalDay, hsupplied, hnoDay]
  rfl

/-- Without an hour, half of the day or not, the draft comes to the first hour. -/
theorem Changed.finalHours_eq_zero
    (hnone : ∀ letter ∈ [Symbol.hour12, .hour23, .hour11, .hour24], letter ∉ letters) :
    draft.finalHours = 0 := by
  have hlacks : ∀ {group : List Symbol}, group ⊆ [.hour12, .hour23, .hour11, .hour24] →
      ∀ letter ∈ group, letter ∉ letters :=
    fun hsubset letter hletter => hnone letter (hsubset hletter)
  have hhours : draft.hours = 0 := h.sameIn .hours (hlacks (by decide))
  have hhours12 : draft.hours12 = none := h.sameIn .hours12 (hlacks (by decide))
  rw [Draft.finalHours, hhours12, hhours]

end

/-- A text that is read comes to the day and the time of a draft in range, which the fields of the
pattern have made out of the reference date. -/
theorem parse_eq_ok_changed {text pattern : String} {options : ParseOptions} {reference d : Date}
    (hreference : options.reference.toDate = .ok reference)
    (h : parse text pattern options = .ok d) :
    ∃ draft : Draft, draft.InRange ∧
      Changed (.ofReference reference) (symbolsOf (tokenize pattern.toList)) draft ∧
        d.calendarDay = draft.finalCalendarDay.rolledOver ∧ d.clock = draft.finalClock := by
  have htokens : parseTokens options.locale reference (tokenize pattern.toList) text.toList =
      .ok d := by
    rw [parse, hreference] at h
    exact h
  obtain ⟨cursor, draft, hrun, -, hfields⟩ := parseTokens_eq_ok_iff_run.1 htokens
  have hchanged := readTokens_changed hrun
  have hrange := hchanged.inRange (Draft.inRange_ofReference reference)
  exact ⟨draft, hrange, hchanged, Draft.ofFields_eq_ok hrange hfields⟩

/-- The date that is read where a pattern leaves something open.  Without any field of the calendar
it lies on the day of the reference date; a year without a month means January, and a year or a
month without a day the 1st.  What is open in the time of day is zero, whatever the time of day of
the reference date. -/
theorem parse_defaults {text pattern : String} {options : ParseOptions} {reference d : Date}
    (hreference : options.reference.toDate = .ok reference)
    (h : parse text pattern options = .ok d) :
    let letters := symbolsOf (tokenize pattern.toList)
    ((∀ letter ∈ [Symbol.year, .month, .standaloneMonth, .day, .dayOfYear, .era],
      letter ∉ letters) → d.calendarDay = reference.calendarDay) ∧
    (.year ∈ letters → (∀ letter ∈ [Symbol.month, .standaloneMonth, .dayOfYear],
      letter ∉ letters) → d.month = 0) ∧
    ((∃ letter ∈ [Symbol.year, .month, .standaloneMonth], letter ∈ letters) →
      (∀ letter ∈ [Symbol.day, .dayOfYear], letter ∉ letters) → d.day = 1) ∧
    ((∀ letter ∈ [Symbol.hour12, .hour23, .hour11, .hour24], letter ∉ letters) → d.hours = 0) ∧
    (.minute ∉ letters → d.minutes = 0) ∧ (.second ∉ letters → d.seconds = 0) ∧
    (.fractionalSecond ∉ letters → d.milliseconds = 0) := by
  intro letters
  obtain ⟨draft, hrange, hchanged, hday, hclock⟩ := parse_eq_ok_changed hreference h
  refine ⟨fun hnone => ?_, fun hyear hnone => ?_, fun hread hnone => ?_, fun hnone => ?_,
    fun hnone => ?_, fun hnone => ?_, fun hnone => ?_⟩
  · rw [hday, hchanged.finalCalendarDay_eq hnone]
    exact CalendarDay.rolledOver_of_le reference.day_le_monthLength
  · have hmonth := hchanged.finalMonth_eq_zero hyear hnone
    -- no day rolls over from January
    have hle : draft.finalCalendarDay.day ≤
        monthLength draft.finalCalendarDay.year draft.finalCalendarDay.month := by
      change draft.finalDay ≤ monthLength draft.year draft.finalMonth
      rw [hmonth]
      exact (Draft.finalDay_bounds hrange).2
    rw [Date.month, hday, CalendarDay.rolledOver_of_le hle]
    exact hmonth
  · have hone := hchanged.finalDay_eq_one hread hnone
    have hle : draft.finalCalendarDay.day ≤
        monthLength draft.finalCalendarDay.year draft.finalCalendarDay.month := by
      change draft.finalDay ≤ _
      rw [hone]
      exact one_le_monthLength _ (Draft.finalMonth_lt hrange)
    rw [Date.day, hday, CalendarDay.rolledOver_of_le hle]
    exact hone
  · rw [Date.hours, hclock]
    exact hchanged.finalHours_eq_zero hnone
  · rw [Date.minutes, hclock]
    exact hchanged.sameIn .minutes (by simpa [Part.letters] using hnone)
  · rw [Date.seconds, hclock]
    exact hchanged.sameIn .seconds (by simpa [Part.letters] using hnone)
  · rw [Date.milliseconds, hclock]
    exact hchanged.sameIn .milliseconds (by simpa [Part.letters] using hnone)

/-- A leap day late in the evening as the reference date, of which an hour with a half of the day
keeps the day, a year by itself nothing, and a month by itself the year. -/
theorem parse_defaults_leapDay :
    ∃ reference clock year month : Date,
      DateInput.toDate (.timestamp 951868799999) = .ok reference ∧
      (parse "7 pm" "h a" { reference := .timestamp 951868799999 } = .ok clock ∧
        clock.calendarDay = reference.calendarDay ∧ clock.minutes = 0 ∧ clock.milliseconds = 0) ∧
      (parse "1999" "y" { reference := .timestamp 951868799999 } = .ok year ∧
        year.month = 0 ∧ year.day = 1 ∧ year.hours = 0) ∧
      parse "4:05" "M:ss" { reference := .timestamp 951868799999 } = .ok month ∧
        month.day = 1 ∧ month.hours = 0 ∧ month.milliseconds = 0 := by
  have hreference : DateInput.toDate (.timestamp 951868799999) =
      .ok ⟨951868799999, by decide⟩ := by decide
  have hclock : parse "7 pm" "h a" { reference := .timestamp 951868799999 } =
      .ok ⟨951850800000, by decide⟩ := by decide +kernel
  have hyear : parse "1999" "y" { reference := .timestamp 951868799999 } =
      .ok ⟨915148800000, by decide⟩ := by decide +kernel
  have hmonth : parse "4:05" "M:ss" { reference := .timestamp 951868799999 } =
      .ok ⟨954547205000, by decide⟩ := by decide +kernel
  have ofClock := parse_defaults hreference hclock
  have ofYear := parse_defaults hreference hyear
  have ofMonth := parse_defaults hreference hmonth
  exact ⟨_, _, _, _, hreference,
    ⟨hclock, ofClock.1 (by decide), ofClock.2.2.2.2.1 (by decide),
      ofClock.2.2.2.2.2.2 (by decide)⟩,
    ⟨hyear, ofYear.2.1 (by decide) (by decide),
      ofYear.2.2.1 ⟨.year, by decide, by decide⟩ (by decide), ofYear.2.2.2.1 (by decide)⟩,
    hmonth, ofMonth.2.2.1 ⟨.month, by decide, by decide⟩ (by decide),
      ofMonth.2.2.2.1 (by decide), ofMonth.2.2.2.2.2.2 (by decide)⟩

end DatePattern

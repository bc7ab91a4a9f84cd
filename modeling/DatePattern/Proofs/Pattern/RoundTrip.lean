import DatePattern.Pattern.Options
import DatePattern.Proofs.Pattern.ReadBack
import DatePattern.Proofs.Pattern.Tokenization
import Mathlib.Data.List.Basic

/-! # Formatting, then parsing

`Recoverable d tokens` says when a pattern shows enough of a date, in an order and in a form from
which the date can be told.  If besides the text of every field can be told from what follows it
(`Separated`), and no run of the year is too long to be written, then the text that the pattern
gives parses to that date again, whatever the reference date is (`parse_format`).

The draft is followed through the slots of the pattern.  Most of its parts are simply overwritten
(`Slot.writes`, `echo_eq`), so that only whether a slot writes them matters.  Two depend on
the order: the year, which an era turns round (`YearKnown.echo_year`), and the millisecond, of which
the last fraction keeps only some digits (`MillisecondKnown.echo_milliseconds`). -/

namespace DatePattern

/-! ### What a field writes -/

/-- The parts of a draft. -/
inductive Part where
  | year
  | month
  | day
  | hours
  | hours12
  | isPm
  | minutes
  | seconds
  | milliseconds
deriving DecidableEq, Repr

/-- A field of the letter writes the part.  An era writes no year; it turns round the one that is
there. -/
def Symbol.writes : Symbol → Part → Bool
  | year, .year => true
  | month, .month | standaloneMonth, .month => true
  | day, .day => true
  | dayOfYear, .month | dayOfYear, .day => true
  | hour23, .hours | hour24, .hours => true
  | hour12, .hours12 | hour11, .hours12 => true
  | dayPeriod, .isPm => true
  | minute, .minutes => true
  | second, .seconds => true
  | fractionalSecond, .milliseconds => true
  | _, _ => false

/-- The token is a field that writes the part. -/
def Token.Writes (part : Part) : Token → Prop
  | .field symbol len => symbol.Supports len ∧ symbol.writes part
  | _ => False

instance (part : Part) : ∀ token : Token, Decidable (token.Writes part)
  | .field symbol len => inferInstanceAs (Decidable (symbol.Supports len ∧ symbol.writes part))
  | .literal _ | .escapedQuote | .quoted _ | .unclosed _ => inferInstanceAs (Decidable False)

/-- Some of the tokens writes the part. -/
def Shows (part : Part) (tokens : List Token) : Prop := ∃ token ∈ tokens, token.Writes part

instance (part : Part) (tokens : List Token) : Decidable (Shows part tokens) := by
  unfold Shows; infer_instance

/-! ### Patterns that show enough -/

/-- After the tokens the year of the date is known: the last year is followed by an era, unless the
year of the era is the year itself. -/
def YearKnown (d : Date) (tokens : List Token) : Prop :=
  ∃ before len after, tokens = before ++ .field .year len :: after ∧ ¬ Shows .year after ∧
    (d.year ≤ 0 → ∃ count, Symbol.era.Supports count ∧ .field .era count ∈ after)

/-- The millisecond of the date is known after the tokens: the last fraction shows all its digits
that are not zero. -/
def MillisecondKnown (d : Date) (tokens : List Token) : Prop :=
  (∃ before len after, tokens = before ++ .field .fractionalSecond len :: after ∧
    Symbol.fractionalSecond.Supports len ∧ ¬ Shows .milliseconds after ∧
    10 ^ (3 - len) ∣ d.milliseconds) ∨
  ¬ Shows .milliseconds tokens ∧ d.milliseconds = 0

/-- The tokens show enough of the date to tell it from the text alone. -/
structure Recoverable (d : Date) (tokens : List Token) : Prop where
  /-- Every year shows all digits of the year of the era. -/
  fullYear : ∀ len, .field .year len ∈ tokens → len = 1 ∨ 4 ≤ len ∧ yearOfEra d.year < 10 ^ len
  yearKnown : YearKnown d tokens
  /-- No month is shown by one letter. -/
  fullMonth : .field .month 5 ∉ tokens ∧ .field .standaloneMonth 5 ∉ tokens
  /-- An ordinal day has any number of digits or three. -/
  fullOrdinal : .field .dayOfYear 2 ∉ tokens
  /-- An ordinal day stands where the year is known already. -/
  ordinalAfterYear : ∀ before len after, tokens = before ++ .field .dayOfYear len :: after →
    Symbol.dayOfYear.Supports len → YearKnown d before
  month : Shows .month tokens ∨ d.month = 0
  day : Shows .day tokens ∨ d.day = 1
  /-- An hour on a 12-hour clock needs a half of the day, in the afternoon at least; otherwise the
  hour is one on a 24-hour clock. -/
  hours : Shows .hours12 tokens ∧ (Shows .isPm tokens ∨ d.hours < 12) ∨
    ¬ Shows .hours12 tokens ∧ (Shows .hours tokens ∨ d.hours = 0)
  minutes : Shows .minutes tokens ∨ d.minutes = 0
  seconds : Shows .seconds tokens ∨ d.seconds = 0
  millisecondKnown : MillisecondKnown d tokens

/-! ### What a slot writes -/

/-- The slot writes the part. -/
def Slot.writes : Slot → Part → Bool
  | .year _, .year => true
  | .number .month _, .month | .name .month _, .month => true
  | .number .day _, .day => true
  | .number .dayOfYear _, .month | .number .dayOfYear _, .day => true
  | .number .hour23 _, .hours | .number .hour24 _, .hours => true
  | .number .hour12 _, .hours12 | .number .hour11 _, .hours12 => true
  | .name .dayPeriod _, .isPm => true
  | .number .minute _, .minutes => true
  | .number .second _, .seconds => true
  | .fraction _, .milliseconds => true
  | _, _ => false

/-- Some of the slots writes the part. -/
def Written (part : Part) (slots : List Slot) : Prop := ∃ slot ∈ slots, slot.writes part

instance (part : Part) (slots : List Slot) : Decidable (Written part slots) := by
  unfold Written; infer_instance

theorem not_written_nil (part : Part) : ¬ Written part [] := by simp [Written]

theorem written_cons {part : Part} {slot : Slot} {rest : List Slot} :
    Written part (slot :: rest) ↔ slot.writes part ∨ Written part rest := by
  simp [Written]

/-- The slot of a field writes what its letter says. -/
theorem Symbol.writes_of_slot? {symbol : Symbol} {len : Nat} {slot : Slot}
    (h : symbol.slot? len = some slot) : slot.writes = symbol.writes := by
  funext part
  cases symbol with
  | year =>
      cases h
      cases part <;> rfl
  | month | standaloneMonth =>
      obtain ⟨-, rfl⟩ | ⟨-, width, -, rfl⟩ := monthSlot?_eq_some_iff.1 h
      · cases part <;> rfl
      · cases part <;> rfl
  | weekday | standaloneWeekday | era | dayPeriod =>
      obtain ⟨width, -, rfl⟩ := NameField.slot?_eq_some_iff.1 h
      cases part <;> rfl
  | fractionalSecond =>
      obtain ⟨-, rfl⟩ := fractionSlot?_eq_some_iff.1 h
      cases part <;> rfl
  | _ =>
      obtain ⟨-, rfl⟩ := NumberField.slot?_eq_some_iff.1 h
      cases part <;> rfl

theorem written_slotsOf_iff {part : Part} {tokens : List Token} :
    Written part (slotsOf tokens) ↔ Shows part tokens := by
  constructor
  · rintro ⟨slot, hmem, hwrites⟩
    obtain ⟨symbol, len, hmem, hslot⟩ := mem_slotsOf.1 hmem
    refine ⟨.field symbol len, hmem, Symbol.isSome_slot?_iff.1 (by rw [hslot]; rfl), ?_⟩
    rwa [← Symbol.writes_of_slot? hslot]
  · rintro ⟨token, hmem, hwrites⟩
    cases token with
    | field symbol len =>
        obtain ⟨slot, hslot⟩ := Option.isSome_iff_exists.1 (Symbol.isSome_slot?_iff.2 hwrites.1)
        refine ⟨slot, mem_slotsOf.2 ⟨symbol, len, hmem, hslot⟩, ?_⟩
        rw [Symbol.writes_of_slot? hslot]
        exact hwrites.2
    | _ => exact hwrites.elim

/-! ### Parts that are overwritten -/

section
variable (d : Date)

theorem Slot.echo_era (draft : Draft) (width : Width) :
    (Slot.name .era width).echo d draft = if d.year ≤ 0 then draft.beforeChrist else draft := by
  have h : (NameField.era.index d = Era.bc.index) ↔ d.year ≤ 0 := by
    rw [NameField.index, Era.ofYear]
    split <;> simp [Era.index, *]
  simp only [echo, NameField.enter, h]

/-- All that a slot does to a draft, the year and the millisecond apart. -/
theorem Slot.echo_eq (draft : Draft) (slot : Slot) :
    slot.echo d draft =
      { year := (slot.echo d draft).year
        month := if slot.writes .month then d.month else draft.month
        day := if slot.writes .day then d.day else draft.day
        hours := if slot.writes .hours then d.hours else draft.hours
        minutes := if slot.writes .minutes then d.minutes else draft.minutes
        seconds := if slot.writes .seconds then d.seconds else draft.seconds
        milliseconds := (slot.echo d draft).milliseconds
        isPm := if slot.writes .isPm then some (decide (12 ≤ d.hours)) else draft.isPm
        hours12 := if slot.writes .hours12 then some (halfDayHour d.hours) else draft.hours12
        initialDay := draft.initialDay
        referenceYear := draft.referenceYear
        supplied :=
          { year := if slot.writes .year then true else draft.supplied.year
            month := if slot.writes .month then true else draft.supplied.month
            day := if slot.writes .day then true else draft.supplied.day } } := by
  cases slot with
  | year len => rfl
  | number field len => cases field <;> rfl
  | fraction len => rfl
  | name field width =>
      cases field with
      | era =>
          rw [echo_era, Draft.beforeChrist]
          split
          · split <;> rfl
          · rfl
      | month => rfl
      | weekday => rfl
      | dayPeriod =>
          have h : ((DayPeriod.ofHours d.hours).index == DayPeriod.pm.index) =
              decide (12 ≤ d.hours) := by
            unfold DayPeriod.ofHours
            split <;> simp [DayPeriod.index] <;> omega
          simp only [Slot.echo, NameField.enter, NameField.index, h]
          rfl

/-- Whether a later slot or this one writes a part, it holds the same value afterwards. -/
theorem ite_written_cons {α : Type} (part : Part) (slot : Slot) (rest : List Slot)
    (value other : α) :
    (if Written part rest then value else if slot.writes part then value else other) =
      if Written part (slot :: rest) then value else other := by
  by_cases hrest : Written part rest
  · rw [if_pos hrest, if_pos (written_cons.2 (.inr hrest))]
  · simp only [written_cons, hrest, if_false, or_false]

/-- All that slots do to a draft, the year and the millisecond apart: a part that some slot writes
holds the value of the date, and every other part stays. -/
theorem echo_eq (slots : List Slot) (draft : Draft) :
    echo d draft slots =
      { year := (echo d draft slots).year
        month := if Written .month slots then d.month else draft.month
        day := if Written .day slots then d.day else draft.day
        hours := if Written .hours slots then d.hours else draft.hours
        minutes := if Written .minutes slots then d.minutes else draft.minutes
        seconds := if Written .seconds slots then d.seconds else draft.seconds
        milliseconds := (echo d draft slots).milliseconds
        isPm := if Written .isPm slots then some (decide (12 ≤ d.hours)) else draft.isPm
        hours12 := if Written .hours12 slots then some (halfDayHour d.hours) else draft.hours12
        initialDay := draft.initialDay
        referenceYear := draft.referenceYear
        supplied :=
          { year := if Written .year slots then true else draft.supplied.year
            month := if Written .month slots then true else draft.supplied.month
            day := if Written .day slots then true else draft.supplied.day } } := by
  induction slots generalizing draft with
  | nil =>
      simp only [not_written_nil, if_false]
      rfl
  | cons slot rest ih =>
      have hcons : echo d draft (slot :: rest) = echo d (slot.echo d draft) rest := rfl
      have hslot := Slot.echo_eq d draft slot
      rw [hcons]
      generalize slot.echo d draft = entered at hslot ⊢
      refine (ih entered).trans ?_
      rw [hslot]
      simp only [ite_written_cons]

end

/-! ### Parts that depend on the order -/

section
variable (d : Date) {slots : List Slot} {draft : Draft}

theorem yearOfEra_of_pos {year : Int} (h : 0 < year) : (yearOfEra year : Int) = year := by
  unfold yearOfEra
  split <;> omega

theorem yearOfEra_of_nonpos {year : Int} (h : year ≤ 0) : (yearOfEra year : Int) = 1 - year := by
  unfold yearOfEra
  split <;> omega

/-- The era of the date turns the year of the era into the year, and leaves the year alone. -/
theorem Slot.echo_era_year {width : Width}
    (h : draft.year = d.year ∨ draft.year = yearOfEra d.year) :
    ((Slot.name .era width).echo d draft).year = d.year := by
  rw [echo_era]
  rcases le_or_gt d.year 0 with hd | hd
  · rw [yearOfEra_of_nonpos hd] at h
    rw [if_pos hd, Draft.beforeChrist]
    split
    · dsimp only
      omega
    · omega
  · rw [yearOfEra_of_pos hd] at h
    rw [if_neg (not_le.2 hd)]
    exact h.elim id id

/-- A slot that writes no year leaves the year alone, unless it is an era. -/
theorem Slot.echo_year_eq {slot : Slot} (h : slot.writes .year = false)
    (he : ∀ width, slot ≠ .name .era width) : (slot.echo d draft).year = draft.year := by
  cases slot with
  | year len => simp [writes] at h
  | number field len => cases field <;> rfl
  | fraction len => rfl
  | name field width =>
      cases field with
      | era => exact absurd rfl (he width)
      | _ => rfl

/-- The year of the date stays through slots that write no year. -/
theorem echo_year_of_eq : ∀ {slots : List Slot} {draft : Draft}, ¬ Written .year slots →
    draft.year = d.year → (echo d draft slots).year = d.year
  | [], _, _, h => h
  | slot :: rest, draft, hw, h => by
      obtain ⟨hslot, hrest⟩ := not_or.1 (written_cons.not.1 hw)
      have hcons : echo d draft (slot :: rest) = echo d (slot.echo d draft) rest := rfl
      rw [hcons]
      apply echo_year_of_eq hrest
      by_cases hera : ∃ width, slot = .name .era width
      · obtain ⟨width, rfl⟩ := hera
        exact Slot.echo_era_year d (.inl h)
      · rw [Slot.echo_year_eq d (by simpa using hslot) fun width hs => hera ⟨width, hs⟩, h]

/-- The year of the era becomes the year of the date at the first era. -/
theorem echo_year_of_era : ∀ {slots : List Slot} {draft : Draft}, ¬ Written .year slots →
    draft.year = yearOfEra d.year → (∃ width, .name .era width ∈ slots) →
      (echo d draft slots).year = d.year
  | [], _, _, _, he => by simp at he
  | slot :: rest, draft, hw, h, he => by
      obtain ⟨hslot, hrest⟩ := not_or.1 (written_cons.not.1 hw)
      have hcons : echo d draft (slot :: rest) = echo d (slot.echo d draft) rest := rfl
      rw [hcons]
      by_cases hera : ∃ width, slot = .name .era width
      · obtain ⟨width, rfl⟩ := hera
        exact echo_year_of_eq d hrest (Slot.echo_era_year d (.inr h))
      · apply echo_year_of_era hrest
        · rw [Slot.echo_year_eq d (by simpa using hslot) fun width hs => hera ⟨width, hs⟩, h]
        · obtain ⟨width, hmem⟩ := he
          rcases List.mem_cons.1 hmem with hs | hs
          · exact absurd ⟨width, hs.symm⟩ hera
          · exact ⟨width, hs⟩

/-- Where the year is known, the draft has it. -/
theorem YearKnown.echo_year {tokens : List Token} (h : YearKnown d tokens) (draft : Draft) :
    (echo d draft (slotsOf tokens)).year = d.year := by
  obtain ⟨before, len, after, rfl, hafter, hera⟩ := h
  rw [← written_slotsOf_iff] at hafter
  have hread : (Slot.echo d (echo d draft (slotsOf before)) (.year len)).year =
      yearOfEra d.year := rfl
  have hsplit : echo d draft (slotsOf (before ++ .field .year len :: after)) =
      echo d (Slot.echo d (echo d draft (slotsOf before)) (.year len)) (slotsOf after) := by
    rw [slotsOf_append, echo_append]
    rfl
  rw [hsplit]
  rcases le_or_gt d.year 0 with hd | hd
  · obtain ⟨count, hcount, hmem⟩ := hera hd
    obtain ⟨h1, h5⟩ := (Symbol.supports_iff rfl count).1 hcount
    obtain ⟨width, hslot⟩ := NameField.era.exists_slot? h1 h5
    exact echo_year_of_era d hafter hread ⟨width, mem_slotsOf.2 ⟨.era, count, hmem, hslot⟩⟩
  · rw [yearOfEra_of_pos hd] at hread
    exact echo_year_of_eq d hafter hread

theorem YearKnown.shows {tokens : List Token} (h : YearKnown d tokens) : Shows .year tokens := by
  obtain ⟨before, len, after, rfl, -, -⟩ := h
  exact ⟨.field .year len, by simp, Symbol.supports_year len, rfl⟩

theorem Slot.echo_milliseconds_eq {slot : Slot} (h : slot.writes .milliseconds = false) :
    (slot.echo d draft).milliseconds = draft.milliseconds := by
  cases slot with
  | year len => rfl
  | number field len => cases field <;> rfl
  | fraction len => simp [writes] at h
  | name field width =>
      cases field with
      | era =>
          rw [echo_era, Draft.beforeChrist]
          split
          · split <;> rfl
          · rfl
      | _ => rfl

theorem echo_milliseconds_of_not_written : ∀ {slots : List Slot} {draft : Draft},
    ¬ Written .milliseconds slots → (echo d draft slots).milliseconds = draft.milliseconds
  | [], _, _ => rfl
  | slot :: rest, draft, hw => by
      obtain ⟨hslot, hrest⟩ := not_or.1 (written_cons.not.1 hw)
      have hcons : echo d draft (slot :: rest) = echo d (slot.echo d draft) rest := rfl
      rw [hcons, echo_milliseconds_of_not_written hrest,
        Slot.echo_milliseconds_eq d (by simpa using hslot)]

theorem MillisecondKnown.echo_milliseconds {tokens : List Token} (h : MillisecondKnown d tokens)
    {draft : Draft} (hdraft : draft.milliseconds = 0) :
    (echo d draft (slotsOf tokens)).milliseconds = d.milliseconds := by
  simp only [MillisecondKnown, ← written_slotsOf_iff] at h
  rcases h with ⟨before, len, after, rfl, hlen, hafter, hdvd⟩ | ⟨hnone, hzero⟩
  · have hslot : Symbol.fractionalSecond.slot? len = some (.fraction len) :=
      Symbol.fractionSlot?_eq_some_iff.2 ⟨(Symbol.supports_iff rfl len).1 hlen, rfl⟩
    have hsplit : echo d draft (slotsOf (before ++ .field .fractionalSecond len :: after)) =
        echo d (Slot.echo d (echo d draft (slotsOf before)) (.fraction len)) (slotsOf after) := by
      rw [slotsOf_append, slotsOf_cons, Token.slot?, hslot, echo_append]
      rfl
    rw [hsplit, echo_milliseconds_of_not_written d hafter]
    exact Nat.div_mul_cancel hdvd
  · rw [echo_milliseconds_of_not_written d hnone, hdraft, hzero]

end

/-! ### What the draft comes to -/

section
variable (d reference : Date) {slots : List Slot}

theorem finalMonth_echo (hyear : Written .year slots) (h : Written .month slots ∨ d.month = 0) :
    (echo d (.ofReference reference) slots).finalMonth = d.month := by
  rw [Draft.finalMonth, echo_eq]
  by_cases hw : Written .month slots
  · simp [hw]
  · simp [hw, hyear, Draft.ofReference, h.resolve_left hw]

theorem finalDay_echo (hyear : Written .year slots) (h : Written .day slots ∨ d.day = 1) :
    (echo d (.ofReference reference) slots).finalDay = d.day := by
  rw [Draft.finalDay, echo_eq]
  by_cases hw : Written .day slots
  · simp [hw]
  · simp [hw, hyear, Draft.ofReference, h.resolve_left hw]

/-- An hour on a 12-hour clock and the half of the day make the hour. -/
theorem finalHours_echo
    (h : Written .hours12 slots ∧ (Written .isPm slots ∨ d.hours < 12) ∨
      ¬ Written .hours12 slots ∧ (Written .hours slots ∨ d.hours = 0)) :
    (echo d (.ofReference reference) slots).finalHours = d.hours := by
  have hh : d.hours < 24 := d.isValid_clock.1
  have hhalf : halfDayHour d.hours % 12 = d.hours % 12 := by
    unfold halfDayHour
    split <;> omega
  rw [Draft.finalHours, echo_eq]
  rcases h with ⟨hw, hpm⟩ | ⟨hw, hhour⟩
  · simp only [hw, if_true, hhalf]
    by_cases hpm' : Written .isPm slots
    · simp only [hpm', if_true, Option.some.injEq, decide_eq_true_eq]
      split <;> omega
    · have hlt := hpm.resolve_left hpm'
      simp only [hpm', if_false, Draft.ofReference, reduceCtorEq]
      omega
  · simp only [hw, if_false, Draft.ofReference]
    split
    · rfl
    · exact (hhour.resolve_left ‹_›).symm

theorem minutes_echo (h : Written .minutes slots ∨ d.minutes = 0) :
    (echo d (.ofReference reference) slots).minutes = d.minutes := by
  rw [echo_eq]
  by_cases hw : Written .minutes slots
  · simp [hw]
  · simp [hw, Draft.ofReference, h.resolve_left hw]

theorem seconds_echo (h : Written .seconds slots ∨ d.seconds = 0) :
    (echo d (.ofReference reference) slots).seconds = d.seconds := by
  rw [echo_eq]
  by_cases hw : Written .seconds slots
  · simp [hw]
  · simp [hw, Draft.ofReference, h.resolve_left hw]

end

/-! ### The round trip -/

section
variable {d : Date} {tokens : List Token}

theorem Recoverable.legible (h : Recoverable d tokens) :
    ∀ slot ∈ slotsOf tokens, slot.Legible d := by
  intro slot hslot
  obtain ⟨symbol, len, hmem, hslot⟩ := mem_slotsOf.1 hslot
  cases slot with
  | year count =>
      obtain ⟨rfl, rfl⟩ := Symbol.slot?_eq_year_iff.1 hslot
      exact h.fullYear len hmem
  | number field count =>
      rintro rfl rfl
      obtain ⟨rfl, -, rfl⟩ := Symbol.slot?_eq_dayOfYear_iff.1 hslot
      exact h.fullOrdinal hmem
  | fraction count => trivial
  | name field width =>
      rintro rfl rfl
      obtain ⟨rfl | rfl, rfl⟩ := Symbol.of_slot?_eq_narrowMonth hslot
      · exact h.fullMonth.1 hmem
      · exact h.fullMonth.2 hmem

/-- An ordinal day is read when the year of the date has been read. -/
theorem Recoverable.year_before_ordinal (h : Recoverable d tokens) (draft : Draft) :
    ∀ before len after, slotsOf tokens = before ++ .number .dayOfYear len :: after →
      (echo d draft before).year = d.year := by
  intro before len after hsplit
  obtain ⟨front, symbol, count, rest, rfl, rfl, hslot⟩ := exists_of_slotsOf_eq_append hsplit
  obtain ⟨rfl, hcount, -⟩ := Symbol.slot?_eq_dayOfYear_iff.1 hslot
  have hknown := h.ordinalAfterYear front count rest rfl ((Symbol.supports_iff rfl count).2 hcount)
  exact hknown.echo_year d draft

/-- Once all slots have entered the values of the date, the draft comes to the date. -/
theorem Recoverable.finish_echo (h : Recoverable d tokens) (reference : Date) :
    (echo d (.ofReference reference) (slotsOf tokens)).finish = .ok d := by
  obtain ⟨-, hyear, -, -, -, hmonth, hday, hhours, hminutes, hseconds, hmilliseconds⟩ := h
  have hwritten := hyear.shows
  simp only [← written_slotsOf_iff] at hwritten hmonth hday hhours hminutes hseconds
  have hfields : (echo d (.ofReference reference) (slotsOf tokens)).fields =
      .ofParts d.calendarDay d.clock := by
    rw [Draft.fields, hyear.echo_year, finalMonth_echo d reference hwritten hmonth,
      finalDay_echo d reference hwritten hday, finalHours_echo d reference hhours,
      minutes_echo d reference hminutes, seconds_echo d reference hseconds,
      hmilliseconds.echo_milliseconds d rfl]
    rfl
  have hdate : Date.ofFields (.ofParts d.calendarDay d.clock) = .ok d := d.ofParts_parts
  rw [Draft.finish, hfields, hdate]
  rfl

end

/-- New Year at midnight is told from a run of the year alone. -/
theorem recoverable_epoch {len : Nat} (h : 4 ≤ len) : Recoverable .epoch [.field .year len] := by
  have hyear : yearOfEra Date.epoch.year < 10 ^ 4 := by decide +kernel
  refine
    { fullYear := fun count hmem => ?_
      yearKnown := ⟨[], len, [], rfl, by simp [Shows], fun hneg => absurd hneg (by decide +kernel)⟩
      fullMonth := by simp
      fullOrdinal := by simp
      ordinalAfterYear := fun before count after hsplit => ?_
      month := .inr (by decide +kernel)
      day := .inr (by decide +kernel)
      hours := .inr ⟨by simp [Shows, Token.Writes, Symbol.writes], .inr (by decide +kernel)⟩
      minutes := .inr (by decide +kernel)
      seconds := .inr (by decide +kernel)
      millisecondKnown := .inr ⟨by simp [Shows, Token.Writes, Symbol.writes], by decide +kernel⟩ }
  · obtain ⟨-, rfl⟩ := Token.field.inj (List.mem_singleton.1 hmem)
    exact .inr ⟨h, hyear.trans_le (Nat.pow_le_pow_right (by decide) h)⟩
  · have hmem : .field .dayOfYear count ∈ [Token.field .year len] :=
      hsplit ▸ List.mem_append_cons_self
    simp at hmem

end DatePattern

import DatePattern.Proofs.Pattern.CursorSafety
import DatePattern.Proofs.Pattern.ReadBack

/-! # What the reference date decides

A draft begins with the calendar day of the reference date, so two parses of one text begin with
different drafts.  They stay alike in all that was read from the text (`Draft.SameRead`), error for
error, as long as no reader looks at what was not read: a year of two digits looks at the reference
year, and an ordinal day at the year that stands in the draft.  Once a year was read, finishing
looks at nothing else.

* `Slot.read_sameRead`, `readTokens_sameRead`: one reader and a whole run, seen twice.
* `parse_congr_reference`: a pattern with a year in front of its ordinal days (`Anchored`) does not
  depend on the reference date, and no pattern depends on its time of day. -/

namespace DatePattern

/-! ### Drafts that were read alike -/

/-- The drafts agree in all that was read from the text; a year, month or day that was not read may
differ. -/
structure Draft.SameRead (a b : Draft) : Prop where
  supplied : a.supplied = b.supplied
  year : a.supplied.year = true → a.year = b.year
  month : a.supplied.month = true → a.month = b.month
  day : a.supplied.day = true → a.day = b.day
  hours : a.hours = b.hours
  minutes : a.minutes = b.minutes
  seconds : a.seconds = b.seconds
  milliseconds : a.milliseconds = b.milliseconds
  isPm : a.isPm = b.isPm
  hours12 : a.hours12 = b.hours12

namespace Draft.SameRead

theorem ofReference (reference other : Date) :
    (Draft.ofReference reference).SameRead (.ofReference other) where
  supplied := rfl
  year h := by contradiction
  month h := by contradiction
  day h := by contradiction
  hours := rfl
  minutes := rfl
  seconds := rfl
  milliseconds := rfl
  isPm := rfl
  hours12 := rfl

variable {a b : Draft} (h : a.SameRead b)
include h

theorem supplyYear (year : Int) : (a.supplyYear year).SameRead (b.supplyYear year) :=
  { h with
    supplied := congrArg (fun supplied : Supplied => { supplied with year := true }) h.supplied
    year := fun _ => rfl }

theorem supplyMonth (month : Nat) : (a.supplyMonth month).SameRead (b.supplyMonth month) :=
  { h with
    supplied := congrArg (fun supplied : Supplied => { supplied with month := true }) h.supplied
    month := fun _ => rfl }

theorem supplyDay (day : Nat) : (a.supplyDay day).SameRead (b.supplyDay day) :=
  { h with
    supplied := congrArg (fun supplied : Supplied => { supplied with day := true }) h.supplied
    day := fun _ => rfl }

/-- An era turns round whatever year there is, but a year that was read in the same way. -/
theorem beforeChrist : a.beforeChrist.SameRead b.beforeChrist := by
  have heq : ∀ draft : Draft, draft.beforeChrist =
      { draft with year := if 1 ≤ draft.year then 1 - draft.year else draft.year } := by
    intro draft
    unfold Draft.beforeChrist
    split <;> rfl
  rw [heq a, heq b]
  refine { h with year := fun hyear => ?_ }
  rw [h.year hyear]

/-- Where a year was read, finishing looks only at what was read. -/
theorem finish (hyear : a.supplied.year = true) : a.finish = b.finish := by
  have hmonth : a.finalMonth = b.finalMonth := by
    rw [finalMonth, finalMonth, ← h.supplied]
    cases hm : a.supplied.month with
    | false => rw [hyear]; rfl
    | true => simp [h.month hm]
  have hday : a.finalDay = b.finalDay := by
    rw [finalDay, finalDay, ← h.supplied]
    cases hd : a.supplied.day with
    | false => rw [hyear]; rfl
    | true => simp [h.day hd]
  have hhours : a.finalHours = b.finalHours := by
    rw [finalHours, finalHours, h.hours12, h.isPm, h.hours]
  have hfields : a.fields = b.fields := by
    rw [fields, fields, h.year hyear, hmonth, hday, hhours, h.minutes, h.seconds, h.milliseconds]
  rw [Draft.finish, Draft.finish, hfields]

end Draft.SameRead

/-! ### Outcomes that are read alike -/

/-- Both readers fail for the same reason, or both take the same and leave drafts that were read
alike. -/
inductive SameOutcome {α : Type} :
    Except ParseError (α × Draft) → Except ParseError (α × Draft) → Prop
  | ok (taken : α) {a b : Draft} : a.SameRead b → SameOutcome (.ok (taken, a)) (.ok (taken, b))
  | error (cause : ParseError) : SameOutcome (.error cause) (.error cause)

theorem SameOutcome.bind {α β : Type} {x y : Except ParseError (α × Draft)}
    {f : α × Draft → Except ParseError (β × Draft)} (h : SameOutcome x y)
    (hf : ∀ taken a b, x = .ok (taken, a) → a.SameRead b →
      SameOutcome (f (taken, a)) (f (taken, b))) :
    SameOutcome (x >>= f) (y >>= f) := by
  cases h with
  | ok taken hread => exact hf taken _ _ rfl hread
  | error cause => exact .error cause

/-- What comes after a number or a name that does not depend on the draft. -/
theorem SameOutcome.bind_left {α β : Type} (x : Except ParseError α)
    {f g : α → Except ParseError (β × Draft)} (h : ∀ found, SameOutcome (f found) (g found)) :
    SameOutcome (x >>= f) (x >>= g) := by
  cases x with
  | ok found => exact h found
  | error cause => exact .error cause

section
variable {locale : Option Locale} {a b : Draft} (h : a.SameRead b)

/-! ### One reader -/

include h in
theorem NumberField.enter?_sameRead (field : NumberField)
    (hyear : field = .dayOfYear → a.supplied.year = true) (value : Nat) :
    Option.Rel Draft.SameRead (field.enter? a value) (field.enter? b value) := by
  cases field with
  | month => exact .some (h.supplyMonth _)
  | day => exact .some (h.supplyDay _)
  | dayOfYear =>
      rw [enter?, enter?, h.year (hyear rfl)]
      cases monthDayOfOrdinal b.year value with
      | none => exact .none
      | some found => exact .some ((h.supplyMonth _).supplyDay _)
  | hour12 => exact .some { h with hours12 := rfl }
  | hour11 => exact .some { h with hours12 := rfl }
  | hour23 => exact .some { h with hours := rfl }
  | hour24 => exact .some { h with hours := rfl }
  | minute => exact .some { h with minutes := rfl }
  | second => exact .some { h with seconds := rfl }

include h in
theorem NameField.enter_sameRead (field : NameField) (index : Nat) :
    (field.enter a index).SameRead (field.enter b index) := by
  cases field with
  | era =>
      rw [enter, enter]
      split
      · exact h.beforeChrist
      · exact h
  | month => exact h.supplyMonth index
  | weekday => exact h
  | dayPeriod => exact { h with isPm := rfl }

include h in
/-- A slot looks only at what was read, but for a year of two digits and for an ordinal day where no
year was read. -/
theorem Slot.read_sameRead (cursor : Cursor) {slot : Slot} (hyear : slot ≠ .year 2)
    (hordinal : ∀ len, slot = .number .dayOfYear len → a.supplied.year = true) :
    SameOutcome (slot.read locale cursor a) (slot.read locale cursor b) := by
  cases slot with
  | year len =>
      have hlen : len ≠ 2 := by
        rintro rfl
        exact hyear rfl
      refine .bind_left _ fun ⟨value, taken⟩ => .ok taken ?_
      rw [if_neg hlen, if_neg hlen]
      exact h.supplyYear value
  | number field len =>
      have hfield : field = .dayOfYear → a.supplied.year = true := fun heq =>
        hordinal len (by rw [heq])
      have hbounds : field.bounds a = field.bounds b := by
        cases field with
        | dayOfYear => rw [NumberField.bounds, NumberField.bounds, h.year (hfield rfl)]
        | _ => rfl
      refine .bind_left _ fun ⟨value, taken⟩ => ?_
      dsimp only
      rw [hbounds]
      split
      · exact .error _
      have hentered := field.enter?_sameRead h hfield value
      generalize field.enter? a value = x at hentered ⊢
      generalize field.enter? b value = y at hentered ⊢
      cases hentered with
      | some hread => exact .ok taken hread
      | none => exact .error _
  | fraction len =>
      exact .bind_left _ fun ⟨value, taken⟩ => .ok taken { h with milliseconds := rfl }
  | name field width =>
      exact .bind_left _ fun ⟨index, taken⟩ => .ok taken (field.enter_sameRead h index)

include h in
theorem Token.read_sameRead (cursor : Cursor) {token : Token} (hyear : .year 2 ∉ token.slot?)
    (hordinal : ∀ len, .number .dayOfYear len ∈ token.slot? → a.supplied.year = true) :
    SameOutcome (token.read locale cursor a) (token.read locale cursor b) := by
  rw [Token.read, Token.read]
  cases hslot : token.slot? with
  | none => exact .bind_left _ fun taken => .ok _ h
  | some slot =>
      rw [hslot] at hyear hordinal
      have hread : SameOutcome (slot.read locale cursor a) (slot.read locale cursor b) := by
        apply Slot.read_sameRead h cursor
        · rintro rfl
          exact hyear rfl
        · rintro len rfl
          exact hordinal len rfl
      exact hread.bind fun taken _ _ _ hentered => .ok _ hentered

end

/-! ### Years that were read -/

/-- The slot reads a year. -/
def Slot.isYear : Slot → Bool
  | .year _ => true
  | _ => false

theorem NumberField.enter?_supplied_year {field : NumberField} {draft entered : Draft} {value : Nat}
    (h : field.enter? draft value = some entered) :
    entered.supplied.year = draft.supplied.year := by
  cases field with
  | dayOfYear =>
      obtain ⟨found, -, rfl⟩ := Option.map_eq_some_iff.1 h
      rfl
  | _ =>
      cases h
      rfl

theorem NameField.enter_supplied_year (field : NameField) (draft : Draft) (index : Nat) :
    (field.enter draft index).supplied.year = draft.supplied.year := by
  cases field with
  | era =>
      rw [enter, Draft.beforeChrist]
      split
      · split <;> rfl
      · rfl
  | _ => rfl

section
variable {locale : Option Locale}

theorem Slot.read_supplied_year {cursor : Cursor} {draft entered : Draft} {slot : Slot}
    {taken : Nat} (h : slot.read locale cursor draft = .ok (taken, entered)) :
    entered.supplied.year = (draft.supplied.year || slot.isYear) := by
  cases slot with
  | year len =>
      obtain ⟨found, -, heq⟩ := bind_eq_ok.1 h
      cases heq
      simp [Draft.supplyYear, isYear]
  | number field len =>
      obtain ⟨found, -, heq⟩ := bind_eq_ok.1 h
      dsimp only at heq
      split at heq
      · contradiction
      split at heq
      · rename_i hentered
        cases heq
        simp [NumberField.enter?_supplied_year hentered, isYear]
      · contradiction
  | fraction len =>
      obtain ⟨found, -, heq⟩ := bind_eq_ok.1 h
      cases heq
      simp [isYear]
  | name field width =>
      obtain ⟨found, -, heq⟩ := bind_eq_ok.1 h
      cases heq
      simp [field.enter_supplied_year, isYear]

theorem Token.read_supplied_year {cursor next : Cursor} {draft entered : Draft} {token : Token}
    (h : token.read locale cursor draft = .ok (next, entered)) :
    entered.supplied.year = (draft.supplied.year || token.slot?.any Slot.isYear) := by
  rw [Token.read] at h
  cases hslot : token.slot? with
  | none =>
      rw [hslot] at h
      obtain ⟨taken, -, heq⟩ := bind_eq_ok.1 h
      cases heq
      simp
  | some slot =>
      rw [hslot] at h
      obtain ⟨⟨taken, filled⟩, hread, heq⟩ := bind_eq_ok.1 h
      cases heq
      exact Slot.read_supplied_year hread

/-- A year was read when one was before or one of the tokens reads one. -/
theorem readTokens_supplied_year : ∀ {tokens : List Token} {cursor last : Cursor}
    {draft final : Draft}, readTokens locale tokens cursor draft = .ok (last, final) →
      final.supplied.year = (draft.supplied.year || (slotsOf tokens).any Slot.isYear)
  | [], _, _, _, _, h => by
      cases h
      simp [slotsOf]
  | token :: tokens, _, _, draft, final, h => by
      rw [readTokens] at h
      obtain ⟨⟨next, entered⟩, hread, hrun⟩ := bind_eq_ok.1 h
      rw [readTokens_supplied_year hrun, Token.read_supplied_year hread, slotsOf_cons,
        List.any_append, Bool.or_assoc]
      cases token.slot? <;> simp

/-! ### Whole runs -/

/-- Tokens look only at what was read, when none is a year of two digits and no ordinal day stands
in front of every year. -/
theorem readTokens_sameRead : ∀ {tokens : List Token} {cursor : Cursor} {a b : Draft},
    a.SameRead b → .year 2 ∉ slotsOf tokens →
      (a.supplied.year = true ∨
        ∀ len, .number .dayOfYear len ∉ (slotsOf tokens).takeWhile (!·.isYear)) →
      SameOutcome (readTokens locale tokens cursor a) (readTokens locale tokens cursor b)
  | [], cursor, _, _, h, _, _ => .ok cursor h
  | token :: tokens, cursor, a, b, h, hyear, hordinal => by
      rw [slotsOf_cons] at hyear hordinal
      have hfirst : ∀ len, .number .dayOfYear len ∈ token.slot? → a.supplied.year = true := by
        intro len hslot
        refine hordinal.resolve_right fun hnone => hnone len ?_
        simp [Option.mem_def.1 hslot, Slot.isYear]
      have hread : SameOutcome (token.read locale cursor a) (token.read locale cursor b) :=
        Token.read_sameRead h cursor
          (fun hslot => hyear (List.mem_append_left _ (Option.mem_toList.2 hslot))) hfirst
      refine hread.bind fun next entered other hentered hsame => ?_
      apply readTokens_sameRead hsame fun hlater => hyear (List.mem_append_right _ hlater)
      rw [Token.read_supplied_year hentered]
      -- the token was a year, or what stands in front of the first year goes on after it
      cases hslot : token.slot? with
      | none => simpa [hslot] using hordinal
      | some slot =>
          cases hkind : slot.isYear with
          | true => simp [hkind]
          | false =>
              refine hordinal.imp (fun h => by simp [h]) fun hnone len hlen => hnone len ?_
              simp [hslot, hkind, hlen]

end

/-! ### Anchored patterns -/

/-- The slots read a year, none in two digits, and no ordinal day in front of the first one. -/
structure Anchored (slots : List Slot) : Prop where
  year : ∃ len, .year len ∈ slots
  fullYear : .year 2 ∉ slots
  ordinalAfterYear : ∀ len, .number .dayOfYear len ∉ slots.takeWhile (!·.isYear)

theorem parseTokens_eq_of_anchored {locale : Option Locale} {tokens : List Token}
    (h : Anchored (slotsOf tokens)) (reference other : Date) (text : List Char) :
    parseTokens locale reference tokens text = parseTokens locale other tokens text := by
  have hruns : SameOutcome (readTokens locale tokens (.start text) (.ofReference reference))
      (readTokens locale tokens (.start text) (.ofReference other)) :=
    readTokens_sameRead (.ofReference reference other) h.fullYear (.inr h.ordinalAfterYear)
  have hyear : (slotsOf tokens).any Slot.isYear = true := by
    obtain ⟨len, hlen⟩ := h.year
    exact List.any_eq_true.2 ⟨_, hlen, rfl⟩
  rw [parseTokens, parseTokens]
  generalize hrun : readTokens locale tokens (.start text) (.ofReference reference) = x at hruns ⊢
  generalize readTokens locale tokens (.start text) (.ofReference other) = y at hruns ⊢
  cases hruns with
  | error cause => rfl
  | ok last hread =>
      have hsupplied := readTokens_supplied_year hrun
      rw [hyear, Bool.or_true] at hsupplied
      simp only [bind, Except.bind, hread.finish hsupplied]

/-- A text that is read with an anchored pattern comes to the same date, or fails for the same
reason, whatever the reference date is; with any pattern it does so for two reference dates on one
calendar day. -/
theorem parse_congr_reference (text pattern : String) (locale : Option Locale)
    (reference other : Date)
    (h : Anchored (slotsOf (tokenize pattern.toList)) ∨
      reference.calendarDay = other.calendarDay) :
    parse text pattern { locale, reference := .date reference } =
      parse text pattern { locale, reference := .date other } := by
  rw [parse_eq_parseTokens, parse_eq_parseTokens]
  rcases h with hanchored | hday
  · exact parseTokens_eq_of_anchored hanchored reference other text.toList
  · have hdraft : Draft.ofReference reference = .ofReference other := by
      simp only [Draft.ofReference, Date.year, Date.month, Date.day, hday]
    rw [parseTokens, parseTokens, hdraft]

/-- An era in front of the year turns round the year of the reference date, if that is of our era,
and is overruled; the year of two digits and the ordinal day after it depend on the day alone. -/
theorem parse_congr_reference_eraFirst :
    (Anchored (slotsOf (tokenize "d G y".toList)) ∧
      (⟨1709164800000, by decide⟩ : Date).calendarDay = ⟨2024, 1, 29⟩ ∧
      (⟨-65000000000000, by decide⟩ : Date).calendarDay = ⟨-90, 2, 27⟩ ∧
      parse "3 BC 7" "d G y" { reference := .date ⟨1709164800000, by decide⟩ } =
        .ok ⟨-61946121600000, by decide⟩ ∧
      parse "3 BC 7" "d G y" { reference := .date ⟨1709164800000, by decide⟩ } =
        parse "3 BC 7" "d G y" { reference := .date ⟨-65000000000000, by decide⟩ }) ∧
    ((⟨1709164800000, by decide⟩ : Date).calendarDay =
        (⟨1709251199999, by decide⟩ : Date).calendarDay ∧
      ¬ Anchored (slotsOf (tokenize "D yy".toList)) ∧
      parse "60 24" "D yy" { reference := .date ⟨1709164800000, by decide⟩ } =
        parse "60 24" "D yy" { reference := .date ⟨1709251199999, by decide⟩ }) := by
  have hslots : slotsOf (tokenize "d G y".toList) =
      [.number .day 1, .name .era .abbreviated, .year 1] := by decide
  have hanchored : Anchored (slotsOf (tokenize "d G y".toList)) := by
    rw [hslots]
    exact ⟨⟨1, by decide⟩, by decide, fun len => by simp [Slot.isYear]⟩
  have hday : (⟨1709164800000, by decide⟩ : Date).calendarDay =
      (⟨1709251199999, by decide⟩ : Date).calendarDay := by decide +kernel
  exact ⟨⟨hanchored, by decide +kernel, by decide +kernel, by decide +kernel,
      parse_congr_reference _ _ _ _ _ (.inl hanchored)⟩,
    hday, fun h => h.fullYear (by decide), parse_congr_reference _ _ _ _ _ (.inr hday)⟩

end DatePattern

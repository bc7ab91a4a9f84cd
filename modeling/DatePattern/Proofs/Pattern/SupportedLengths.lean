import DatePattern.Pattern.ByLetter
import DatePattern.Proofs.Pattern.Consumption
import DatePattern.Proofs.Pattern.Fields

/-! # Lengths that writing and reading support

Letter by letter, writing a field and reading one test the length of its run in ways of their own:
by a greatest length, by a width that is missing, by ranges of lengths.  All these tests come to the
same lengths (`Symbol.Supports`), so that a run is written as a field exactly when it is read as
one.

* `Symbol.isSome_render?_iff`, `Symbol.isSome_read?_iff`: what the tests of a letter come to.
* `Token.renderByLetter_eq`, `Token.readByLetter_eq`: letter by letter the same is written and read
  as with the slots of tokens. -/

namespace DatePattern

/-! ### What the tests come to -/

section
variable (len : Nat)

theorem isSome_renderNumber?_iff (value max : Nat) :
    (renderNumber? value len max).isSome ↔ 1 ≤ len ∧ len ≤ max := by
  unfold renderNumber?
  split <;> simp [*]

theorem isSome_renderName?_iff (locale : Locale) (field : NameField) (index : Nat) :
    (renderName? locale field index len).isSome ↔ 1 ≤ len ∧ len ≤ 5 := by
  unfold renderName?
  rw [Option.isSome_map]
  exact Width.isSome_ofLength?_iff

theorem isSome_renderMonth?_iff (locale : Locale) (month : Nat) :
    (renderMonth? locale month len).isSome ↔ 1 ≤ len ∧ len ≤ 5 := by
  unfold renderMonth?
  split
  · simp [isSome_renderNumber?_iff]
  · simp [isSome_renderNumber?_iff]
  · exact isSome_renderName?_iff len locale .month month

theorem isSome_renderFraction?_iff (milliseconds : Nat) :
    (renderFraction? milliseconds len).isSome ↔ 1 ≤ len ∧ len ≤ 3 := by
  unfold renderFraction?
  rw [Option.isSome_map]
  constructor
  · intro h
    unfold fractionDivisor? at h
    split at h <;> first | contradiction | omega
  · rintro ⟨h1, h3⟩
    interval_cases len <;> rfl

/-- A run of the letter is written as a field when its length is supported. -/
theorem Symbol.isSome_render?_iff (locale : Locale) (d : Date) (symbol : Symbol) :
    (symbol.render? locale d len).isSome ↔ symbol.Supports len := by
  cases symbol with
  | year => exact iff_of_true rfl (supports_year len)
  | month | standaloneMonth =>
      rw [supports_iff rfl]
      exact isSome_renderMonth?_iff len locale d.month
  | weekday | standaloneWeekday | era | dayPeriod =>
      rw [supports_iff rfl]
      exact isSome_renderName?_iff len locale _ _
  | fractionalSecond =>
      rw [supports_iff rfl]
      exact isSome_renderFraction?_iff len d.milliseconds
  | _ =>
      rw [supports_iff rfl]
      exact isSome_renderNumber?_iff len _ _

theorem isSome_forLengths_iff {α : Type} (min max : Nat) (reading : α) :
    (forLengths min max len reading).isSome ↔ min ≤ len ∧ len ≤ max := by
  unfold forLengths
  split <;> simp [*]

/-- A run of the letter is read as a field when its length is supported. -/
theorem Symbol.isSome_read?_iff (locale : Option Locale) (cursor : Cursor) (draft : Draft)
    (symbol : Symbol) : (symbol.read? locale cursor draft len).isSome ↔ symbol.Supports len := by
  cases symbol with
  | year => exact iff_of_true rfl (supports_year len)
  | month | standaloneMonth =>
      rw [supports_iff rfl, read?, Option.orElse_eq_orElse, Option.orElse_eq_or, Option.isSome_or,
        Bool.or_eq_true, isSome_forLengths_iff, isSome_forLengths_iff]
      omega
  | _ =>
      rw [supports_iff rfl]
      exact isSome_forLengths_iff len _ _ _

end

/-! ### Writing by slots -/

section
variable (locale : Locale) (d : Date) (len : Nat)

theorem NumberField.renderNumber?_eq (field : NumberField) :
    renderNumber? (field.value d) len field.maxLength =
      (field.slot? len).map (Slot.render locale d) := by
  unfold renderNumber? slot?
  split
  · rfl
  · rfl

theorem NameField.renderName?_eq (field : NameField) :
    renderName? locale field (field.index d) len =
      (field.slot? len).map (Slot.render locale d) := by
  rw [slot?, Option.map_map]
  rfl

theorem renderMonth?_eq :
    renderMonth? locale d.month len = (monthSlot? len).map (Slot.render locale d) := by
  unfold renderMonth?
  split
  · exact NumberField.month.renderNumber?_eq locale d 1
  · exact NumberField.month.renderNumber?_eq locale d 2
  · rename_i hone htwo
    unfold monthSlot?
    split
    · -- a run of no letters is neither a number nor a name
      obtain rfl : len = 0 := by grind
      rfl
    · exact NameField.month.renderName?_eq locale d len

theorem renderFraction?_eq :
    renderFraction? d.milliseconds len =
      (Symbol.fractionalSecond.slot? len).map (Slot.render locale d) := by
  rw [Symbol.slot?]
  split
  · rename_i hlen
    obtain ⟨h1, h3⟩ := hlen
    interval_cases len <;> rfl
  · rename_i hlen
    rw [← isSome_renderFraction?_iff len d.milliseconds, Option.not_isSome_iff_eq_none] at hlen
    exact hlen

theorem Symbol.render?_eq (symbol : Symbol) :
    symbol.render? locale d len = (symbol.slot? len).map (Slot.render locale d) := by
  cases symbol with
  | year => rfl
  | month | standaloneMonth => exact renderMonth?_eq locale d len
  | day => exact NumberField.day.renderNumber?_eq locale d len
  | dayOfYear => exact NumberField.dayOfYear.renderNumber?_eq locale d len
  | weekday | standaloneWeekday => exact NameField.weekday.renderName?_eq locale d len
  | era => exact NameField.era.renderName?_eq locale d len
  | dayPeriod => exact NameField.dayPeriod.renderName?_eq locale d len
  | hour12 => exact NumberField.hour12.renderNumber?_eq locale d len
  | hour23 => exact NumberField.hour23.renderNumber?_eq locale d len
  | hour11 => exact NumberField.hour11.renderNumber?_eq locale d len
  | hour24 => exact NumberField.hour24.renderNumber?_eq locale d len
  | minute => exact NumberField.minute.renderNumber?_eq locale d len
  | second => exact NumberField.second.renderNumber?_eq locale d len
  | fractionalSecond => exact renderFraction?_eq locale d len

end

/-- Letter by letter a date shows for a token what it shows in the slot of the token. -/
theorem Token.renderByLetter_eq (locale : Option Locale) (d : Date) (token : Token) :
    token.renderByLetter locale d = token.render locale d := by
  cases token with
  | field symbol len =>
      rw [renderByLetter, Symbol.render?_eq, render, slot?]
      cases symbol.slot? len with
      | none => rfl
      | some slot => rfl
  | _ => rfl

/-! ### Reading by slots -/

theorem readBounded_eq_ok {field : Field} {len min max value taken : Nat} {cursor : Cursor}
    (h : readBounded field len min max cursor = .ok (value, taken)) :
    min ≤ value ∧ value ≤ max := by
  obtain ⟨found, -, hfound⟩ := bind_eq_ok.1 h
  dsimp only at hfound
  split at hfound
  · contradiction
  · cases hfound
    omega

section
variable (locale : Option Locale) (cursor : Cursor) (draft : Draft) (len : Nat)

theorem forLengths_eq {min max : Nat} {reading : Except ParseError (Nat × Draft)} {slot : Slot}
    (h : reading = slot.read locale cursor draft) :
    forLengths min max len reading =
      (if min ≤ len ∧ len ≤ max then some slot else none).map (Slot.read locale cursor draft) := by
  unfold forLengths
  split
  · rw [h]
    rfl
  · rfl

/-- A number is read between its bounds and entered. -/
theorem Slot.read_number_eq (field : NumberField) :
    (Slot.number field len).read locale cursor draft =
      readBounded field.field len (field.bounds draft).1 (field.bounds draft).2 cursor >>=
        fun found =>
          match field.enter? draft found.1 with
          | some entered => .ok (found.2, entered)
          | none => .error (.outOfRange field.field found.1 (field.bounds draft).1
              (field.bounds draft).2) := by
  rw [Slot.read, readBounded]
  cases readNumber field.field (.ofLength len) cursor with
  | error cause => rfl
  | ok found =>
      by_cases hbounds : found.1 < (field.bounds draft).1 ∨ (field.bounds draft).2 < found.1
      · simp only [bind, Except.bind, if_pos hbounds]
      · cases hentered : field.enter? draft found.1 with
        | none => simp only [bind, Except.bind, if_neg hbounds, hentered]
        | some entered => simp only [bind, Except.bind, if_neg hbounds, hentered]

theorem NumberField.read?_eq (field : NumberField) {enter : Nat → Draft}
    (h : ∀ value, field.enter? draft value = some (enter value)) :
    forLengths 1 field.maxLength len
        (entering (readBounded field.field len (field.bounds draft).1 (field.bounds draft).2 cursor)
          enter) =
      (field.slot? len).map (Slot.read locale cursor draft) := by
  apply forLengths_eq
  rw [Slot.read_number_eq, entering]
  simp only [h]

theorem readOrdinal?_eq :
    forLengths 1 3 len (readOrdinal len cursor draft) =
      (NumberField.dayOfYear.slot? len).map (Slot.read locale cursor draft) := by
  apply forLengths_eq
  rw [Slot.read_number_eq, readOrdinal]
  congr 1
  funext found
  simp only [NumberField.enter?]
  cases monthDayOfOrdinal draft.year found.1 with
  | none => rfl
  | some ordinal => rfl

theorem NameField.read?_eq (field : NameField) {enter : Nat → Draft}
    (h : ∀ index, field.enter draft index = enter index) :
    forLengths 1 5 len (entering (readName locale field cursor) enter) =
      (field.slot? len).map (Slot.read locale cursor draft) := by
  have hread : ∀ width, (Slot.name field width).read locale cursor draft =
      entering (readName locale field cursor) enter := by
    intro width
    rw [Slot.read, entering]
    simp only [h]
  have hlen : (Width.ofLength? len).isSome ↔ 1 ≤ len ∧ len ≤ 5 := Width.isSome_ofLength?_iff
  unfold forLengths slot?
  cases hwidth : Width.ofLength? len with
  | none =>
      rw [if_neg (by rw [← hlen, hwidth]; simp)]
      rfl
  | some width =>
      rw [if_pos (by rw [← hlen, hwidth]; rfl), ← hread width]
      rfl

theorem readMonth?_eq :
    (forLengths 1 2 len (entering (readBounded .month len 1 12 cursor) fun value =>
          draft.supplyMonth (value - 1))
        <|> forLengths 3 5 len (entering (readName locale .month cursor) draft.supplyMonth)) =
      (monthSlot? len).map (Slot.read locale cursor draft) := by
  rw [Option.orElse_eq_orElse, Option.orElse_eq_or]
  unfold monthSlot?
  split
  · have hnone : forLengths 3 5 len (entering (readName locale .month cursor)
        draft.supplyMonth) = none := if_neg (by omega)
    rw [hnone, Option.or_none]
    exact NumberField.month.read?_eq locale cursor draft len fun _ => rfl
  · have hnone : forLengths 1 2 len (entering (readBounded .month len 1 12 cursor) fun value =>
        draft.supplyMonth (value - 1)) = none := if_neg (by omega)
    -- more than two letters are at least three, so both bounds from below come to the same
    have hbounds : (3 ≤ len ∧ len ≤ 5) = (1 ≤ len ∧ len ≤ 5) := by
      rw [eq_iff_iff]
      omega
    have hname : forLengths 1 5 len (entering (readName locale .month cursor)
        draft.supplyMonth) = (NameField.month.slot? len).map (Slot.read locale cursor draft) :=
      NameField.month.read?_eq locale cursor draft len fun _ => rfl
    rw [hnone, Option.none_or, ← hname]
    simp only [forLengths, hbounds]

theorem readFraction?_eq :
    forLengths 1 3 len (readFraction len cursor draft) =
      (Symbol.fractionalSecond.slot? len).map (Slot.read locale cursor draft) := by
  rw [Symbol.slot?, forLengths]
  split
  · rename_i hlen
    have hscale : fractionScale len = fractionUnit len := by
      obtain ⟨h1, h3⟩ := hlen
      interval_cases len <;> rfl
    rw [readFraction, hscale]
    rfl
  · rfl

theorem Symbol.read?_eq (symbol : Symbol) :
    symbol.read? locale cursor draft len =
      (symbol.slot? len).map (Slot.read locale cursor draft) := by
  cases symbol with
  | year => rfl
  | month | standaloneMonth => exact readMonth?_eq locale cursor draft len
  | day => exact NumberField.day.read?_eq locale cursor draft len fun _ => rfl
  | dayOfYear => exact readOrdinal?_eq locale cursor draft len
  | weekday | standaloneWeekday =>
      exact NameField.weekday.read?_eq locale cursor draft len fun _ => rfl
  | era =>
      refine NameField.era.read?_eq locale cursor draft len fun index => ?_
      rw [NameField.enter, Draft.beforeChrist]
      split <;> simp [*]
  | dayPeriod => exact NameField.dayPeriod.read?_eq locale cursor draft len fun _ => rfl
  | hour12 => exact NumberField.hour12.read?_eq locale cursor draft len fun _ => rfl
  | hour23 => exact NumberField.hour23.read?_eq locale cursor draft len fun _ => rfl
  | hour11 => exact NumberField.hour11.read?_eq locale cursor draft len fun _ => rfl
  | hour24 => exact NumberField.hour24.read?_eq locale cursor draft len fun _ => rfl
  | minute => exact NumberField.minute.read?_eq locale cursor draft len fun _ => rfl
  | second => exact NumberField.second.read?_eq locale cursor draft len fun _ => rfl
  | fractionalSecond => exact readFraction?_eq locale cursor draft len

/-- Letter by letter a token is read as by its slot. -/
theorem Token.readByLetter_eq (token : Token) :
    token.readByLetter locale cursor draft = token.read locale cursor draft := by
  cases token with
  | field symbol len =>
      rw [readByLetter, Symbol.read?_eq, read, slot?]
      cases symbol.slot? len with
      | none => rfl
      | some slot => rfl
  | _ => rfl

end

end DatePattern

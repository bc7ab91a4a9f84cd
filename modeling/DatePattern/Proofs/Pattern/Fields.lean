import DatePattern.Pattern.Slot
import Mathlib.Tactic.IntervalCases

/-! # Fields and their lengths

Which runs of letters stand for a field, told by the letters: of the year runs of any length, of
every other letter those of at least one and at most the longest (`Symbol.Supports`).  The slots that
tokens leave agree with this (`Token.isSome_slot?_iff`), and with what the letters say about names
and numbers (`Symbol.ShowsName`). -/

namespace DatePattern

/-! ### Letters -/

/-- Longest run of the letter that is filled in; of the year it is any. -/
def Symbol.longest? : Symbol → Option Nat
  | year => none
  | month | standaloneMonth | weekday | standaloneWeekday | era | dayPeriod => some 5
  | dayOfYear | fractionalSecond => some 3
  | day | hour12 | hour23 | hour11 | hour24 | minute | second => some 2

/-- Runs of so many of the letter are filled in: of the year any, of every other letter those of at
least one and at most the longest. -/
def Symbol.Supports (len : Nat) (symbol : Symbol) : Prop :=
  ∀ longest ∈ symbol.longest?, 1 ≤ len ∧ len ≤ longest

instance (len : Nat) (symbol : Symbol) : Decidable (symbol.Supports len) := by
  unfold Symbol.Supports; infer_instance

theorem Symbol.supports_year (len : Nat) : Symbol.year.Supports len := by
  intro longest h
  contradiction

theorem Symbol.supports_iff {symbol : Symbol} {longest : Nat}
    (h : symbol.longest? = some longest) (len : Nat) :
    symbol.Supports len ↔ 1 ≤ len ∧ len ≤ longest := by
  simp [Supports, h]

/-- A run of so many of the letter shows a name, and no number. -/
def Symbol.ShowsName (len : Nat) : Symbol → Prop
  | month | standaloneMonth => 3 ≤ len
  | weekday | standaloneWeekday | era | dayPeriod => True
  | _ => False

instance (len : Nat) : ∀ symbol : Symbol, Decidable (symbol.ShowsName len)
  | .month | .standaloneMonth => inferInstanceAs (Decidable (3 ≤ len))
  | .weekday | .standaloneWeekday | .era | .dayPeriod => .isTrue trivial
  | .year | .day | .dayOfYear | .hour12 | .hour23 | .hour11 | .hour24 | .minute | .second
  | .fractionalSecond => .isFalse id

/-- The token is a field of a supported length. -/
def Token.IsField : Token → Prop
  | field symbol len => symbol.Supports len
  | _ => False

instance : DecidablePred Token.IsField
  | .field symbol len => inferInstanceAs (Decidable (symbol.Supports len))
  | .literal _ | .escapedQuote | .quoted _ | .unclosed _ => inferInstanceAs (Decidable False)

/-! ### Slots of supported lengths -/

section
variable {len : Nat}

theorem Width.isSome_ofLength?_iff : (Width.ofLength? len).isSome ↔ 1 ≤ len ∧ len ≤ 5 := by
  constructor
  · intro h
    unfold ofLength? at h
    split at h <;> first | contradiction | omega
  · rintro ⟨h1, h5⟩
    interval_cases len <;> rfl

theorem NumberField.slot?_of_le {field : NumberField} (h1 : 1 ≤ len)
    (h : len ≤ field.maxLength) : field.slot? len = some (.number field len) :=
  if_pos ⟨h1, h⟩

theorem NumberField.isSome_slot?_iff {field : NumberField} :
    (field.slot? len).isSome ↔ 1 ≤ len ∧ len ≤ field.maxLength := by
  unfold slot?
  split <;> simp [*]

theorem NameField.exists_slot? (field : NameField) (h1 : 1 ≤ len) (h : len ≤ 5) :
    ∃ width, field.slot? len = some (.name field width) := by
  rw [slot?]
  interval_cases len <;> exact ⟨_, rfl⟩

theorem NameField.isSome_slot?_iff {field : NameField} :
    (field.slot? len).isSome ↔ 1 ≤ len ∧ len ≤ 5 := by
  rw [slot?, Option.isSome_map, Width.isSome_ofLength?_iff]

/-- A run of a letter leaves a slot when its length is supported. -/
theorem Symbol.isSome_slot?_iff {symbol : Symbol} :
    (symbol.slot? len).isSome ↔ symbol.Supports len := by
  cases symbol with
  | year => exact iff_of_true rfl (supports_year len)
  | month | standaloneMonth =>
      rw [supports_iff rfl, slot?, monthSlot?]
      split
      · have hmax : NumberField.month.maxLength = 2 := rfl
        rw [NumberField.isSome_slot?_iff, hmax]
        omega
      · exact NameField.isSome_slot?_iff
  | weekday | standaloneWeekday | era | dayPeriod =>
      rw [supports_iff rfl]
      exact NameField.isSome_slot?_iff
  | fractionalSecond =>
      rw [supports_iff rfl, slot?]
      split <;> simp [*]
  | _ =>
      rw [supports_iff rfl]
      exact NumberField.isSome_slot?_iff

theorem Token.isSome_slot?_iff {token : Token} : token.slot?.isSome ↔ token.IsField := by
  cases token with
  | field symbol len => exact Symbol.isSome_slot?_iff
  | _ => exact iff_of_false nofun id

theorem Token.slot?_eq_none_iff {token : Token} : token.slot? = none ↔ ¬ token.IsField := by
  rw [← isSome_slot?_iff, Option.not_isSome_iff_eq_none]

/-- Only a run of a letter leaves a slot. -/
theorem Token.exists_symbol_of_slot? {token : Token} {slot : Slot} (h : token.slot? = some slot) :
    ∃ symbol len, token = .field symbol len ∧ symbol.slot? len = some slot := by
  cases token with
  | field symbol len => exact ⟨symbol, len, rfl, h⟩
  | _ => contradiction

end

/-! ### What a slot tells of its letter -/

section
variable {symbol : Symbol} {len : Nat} {slot : Slot}

theorem NumberField.slot?_eq_some_iff {field : NumberField} :
    field.slot? len = some slot ↔ (1 ≤ len ∧ len ≤ field.maxLength) ∧ slot = .number field len := by
  unfold slot?
  split
  · simp [*, eq_comm]
  · simp [*]

theorem NameField.slot?_eq_some_iff {field : NameField} :
    field.slot? len = some slot ↔
      ∃ width, Width.ofLength? len = some width ∧ slot = .name field width := by
  simp [slot?, eq_comm]

theorem monthSlot?_eq_some_iff :
    monthSlot? len = some slot ↔ (1 ≤ len ∧ len ≤ 2) ∧ slot = .number .month len ∨
      3 ≤ len ∧ ∃ width, Width.ofLength? len = some width ∧ slot = .name .month width := by
  have hmax : NumberField.month.maxLength = 2 := rfl
  unfold monthSlot?
  split
  · rw [NumberField.slot?_eq_some_iff, hmax]
    grind
  · rw [NameField.slot?_eq_some_iff]
    grind

theorem Symbol.fractionSlot?_eq_some_iff :
    Symbol.fractionalSecond.slot? len = some slot ↔
      (1 ≤ len ∧ len ≤ 3) ∧ slot = .fraction len := by
  rw [Symbol.slot?]
  split
  · simp [*, eq_comm]
  · simp [*]

theorem Symbol.slot?_eq_year_iff {count : Nat} :
    symbol.slot? len = some (.year count) ↔ symbol = .year ∧ len = count := by
  cases symbol with
  | year => simp [slot?]
  | month | standaloneMonth => simp [slot?, monthSlot?_eq_some_iff]
  | weekday | standaloneWeekday | era | dayPeriod => simp [slot?, NameField.slot?]
  | fractionalSecond => simp [slot?]
  | _ => simp [slot?, NumberField.slot?]

theorem Symbol.slot?_eq_dayOfYear_iff {count : Nat} :
    symbol.slot? len = some (.number .dayOfYear count) ↔
      symbol = .dayOfYear ∧ (1 ≤ len ∧ len ≤ 3) ∧ len = count := by
  cases symbol with
  | dayOfYear => simp [slot?, NumberField.slot?_eq_some_iff, NumberField.maxLength, eq_comm]
  | month | standaloneMonth => simp [slot?, monthSlot?_eq_some_iff]
  | _ => simp [slot?, NumberField.slot?, NameField.slot?]

theorem Symbol.of_slot?_eq_narrowMonth (h : symbol.slot? len = some (.name .month .narrow)) :
    (symbol = .month ∨ symbol = .standaloneMonth) ∧ len = 5 := by
  cases symbol with
  | month | standaloneMonth =>
      obtain ⟨-, ⟨⟩⟩ | ⟨-, width, hwidth, ⟨⟩⟩ := monthSlot?_eq_some_iff.1 h
      unfold Width.ofLength? at hwidth
      split at hwidth <;> simp_all
  | _ => simp [slot?, NumberField.slot?, NameField.slot?] at h

theorem Token.slot?_eq_year_iff {token : Token} :
    token.slot? = some (.year len) ↔ token = .field .year len := by
  cases token with
  | field symbol count => simp [slot?, Symbol.slot?_eq_year_iff]
  | _ => simp [slot?]

/-- Exactly the runs that show names leave the slot of one. -/
theorem Symbol.showsName_iff (h : symbol.slot? len = some slot) :
    symbol.ShowsName len ↔ ∃ field width, slot = .name field width := by
  cases symbol with
  | year =>
      cases h
      simp [ShowsName]
  | month | standaloneMonth =>
      obtain ⟨hlen, rfl⟩ | ⟨hlen, width, -, rfl⟩ := monthSlot?_eq_some_iff.1 h
      · simp only [ShowsName, reduceCtorEq, exists_false, iff_false]
        omega
      · exact iff_of_true hlen ⟨_, width, rfl⟩
  | weekday | standaloneWeekday | era | dayPeriod =>
      obtain ⟨width, -, rfl⟩ := NameField.slot?_eq_some_iff.1 h
      exact iff_of_true trivial ⟨_, width, rfl⟩
  | fractionalSecond =>
      obtain ⟨-, rfl⟩ := fractionSlot?_eq_some_iff.1 h
      simp [ShowsName]
  | _ =>
      obtain ⟨-, rfl⟩ := NumberField.slot?_eq_some_iff.1 h
      simp [ShowsName]

/-- The slot has a length that its field supports. -/
def Slot.Supported : Slot → Prop
  | .number field len => 1 ≤ len ∧ len ≤ field.maxLength
  | .fraction len => 1 ≤ len ∧ len ≤ 3
  | _ => True

theorem Symbol.supported_of_slot? (h : symbol.slot? len = some slot) : slot.Supported := by
  cases symbol with
  | year =>
      cases h
      trivial
  | month | standaloneMonth =>
      obtain ⟨hlen, rfl⟩ | ⟨-, width, -, rfl⟩ := monthSlot?_eq_some_iff.1 h
      · exact hlen
      · trivial
  | weekday | standaloneWeekday | era | dayPeriod =>
      obtain ⟨width, -, rfl⟩ := NameField.slot?_eq_some_iff.1 h
      trivial
  | fractionalSecond =>
      obtain ⟨hlen, rfl⟩ := fractionSlot?_eq_some_iff.1 h
      exact hlen
  | _ =>
      obtain ⟨hlen, rfl⟩ := NumberField.slot?_eq_some_iff.1 h
      exact hlen

theorem Token.supported_of_slot? {token : Token} (h : token.slot? = some slot) :
    slot.Supported := by
  obtain ⟨symbol, len, -, hslot⟩ := exists_symbol_of_slot? h
  exact Symbol.supported_of_slot? hslot

end

/-! ### Slots of tokens -/

/-- The slots that tokens leave to be filled in. -/
def slotsOf (tokens : List Token) : List Slot := tokens.filterMap Token.slot?

theorem slotsOf_cons (token : Token) (rest : List Token) :
    slotsOf (token :: rest) = token.slot?.toList ++ slotsOf rest := by
  cases h : token.slot? <;> simp [slotsOf, h]

theorem slotsOf_append (before after : List Token) :
    slotsOf (before ++ after) = slotsOf before ++ slotsOf after := List.filterMap_append

theorem mem_slotsOf {slot : Slot} {tokens : List Token} :
    slot ∈ slotsOf tokens ↔ ∃ symbol len, .field symbol len ∈ tokens ∧
      symbol.slot? len = some slot := by
  rw [slotsOf, List.mem_filterMap]
  constructor
  · rintro ⟨token, hmem, hslot⟩
    obtain ⟨symbol, len, rfl, hslot⟩ := Token.exists_symbol_of_slot? hslot
    exact ⟨symbol, len, hmem, hslot⟩
  · rintro ⟨symbol, len, hmem, hslot⟩
    exact ⟨.field symbol len, hmem, hslot⟩

/-- Behind some slots of tokens, the next one is that of a field behind the tokens of the others. -/
theorem exists_of_slotsOf_eq_append {tokens : List Token} {before after : List Slot} {slot : Slot}
    (h : slotsOf tokens = before ++ slot :: after) : ∃ front symbol len rest,
      tokens = front ++ .field symbol len :: rest ∧ slotsOf front = before ∧
        symbol.slot? len = some slot := by
  obtain ⟨front, later, rfl, hfront, hlater⟩ := List.filterMap_eq_append_iff.1 h
  obtain ⟨skipped, token, rest, rfl, hskipped, htoken, -⟩ := List.filterMap_eq_cons_iff.1 hlater
  obtain ⟨symbol, len, rfl, hslot⟩ := Token.exists_symbol_of_slot? htoken
  refine ⟨front ++ skipped, symbol, len, rest, (List.append_assoc _ _ _).symm, ?_, hslot⟩
  have hnone : slotsOf skipped = [] := List.filterMap_eq_nil_iff.2 hskipped
  rw [slotsOf_append, hnone, List.append_nil]
  exact hfront

end DatePattern

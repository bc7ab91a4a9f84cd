import DatePattern.Pattern.InPlace
import DatePattern.Proofs.Locale.LongestMatch
import DatePattern.Proofs.Pattern.ReadBack

/-! # What tokens do to a draft

A field of a supported length writes those parts of a draft that belong to its letter
(`Symbol.Changes`), with values that a calendar and a clock show; no other token writes anything.
A token that cannot be read leaves the draft as it was: all that can fail comes before the first
part is written.  Only an ordinal day looks at the draft before it decides whether it can be read.

* `Token.readInPlace_eq`: reading in place leaves the draft that reading gives, and the draft there
  was where reading fails.
* `Token.readInPlace_effects`: what one token does.
* `readTokens_changed`: a run of tokens does what its fields do, one after the other. -/

namespace DatePattern

/-! ### In place and aside -/

/-- What reading in place comes to when reading aside gives the result: nothing is written where
reading fails. -/
def keeping {α : Type} (draft : Draft) :
    Except ParseError (α × Draft) → EStateM.Result ParseError Draft α
  | .ok (found, entered) => .ok found entered
  | .error cause => .error cause draft

theorem keeping_ok_bind {α β : Type} (draft : Draft) (found : α)
    (f : α → Except ParseError (β × Draft)) :
    keeping draft (.ok found >>= f) = keeping draft (f found) := rfl

namespace InPlace

variable {α β : Type} (draft : Draft)

theorem bind_apply (x : InPlace α) (f : α → InPlace β) :
    (x >>= f) draft =
      match x draft with
      | .ok found left => f found left
      | .error cause left => .error cause left := by
  change EStateM.bind x f draft = _
  rw [EStateM.bind]
  cases x draft <;> rfl

theorem get_bind (f : Draft → InPlace β) : (get >>= f) draft = f draft draft := rfl

theorem ofExcept_bind (x : Except ParseError α) (f : α → InPlace β) :
    ((ofExcept x : InPlace α) >>= f) draft =
      match x with
      | .ok found => f found draft
      | .error cause => .error cause draft := by
  cases x <;> rfl

end InPlace

section
variable {locale : Option Locale} (cursor : Cursor) (draft : Draft)

/-- A number is written as it is entered; an ordinal day that the year does not have is refused
before its month is written. -/
theorem NumberField.write_eq (field : NumberField) (value : Nat) :
    field.write value draft =
      match field.enter? draft value with
      | some entered => .ok () entered
      | none => .error (.outOfRange field.field value (field.bounds draft).1
          (field.bounds draft).2) draft := by
  cases field with
  | dayOfYear =>
      rw [enter?, write, InPlace.get_bind]
      cases monthDayOfOrdinal draft.year value with
      | none => rfl
      | some found => rfl
  | _ => rfl

theorem NameField.write_eq (field : NameField) (index : Nat) :
    field.write index draft = .ok () (field.enter draft index) := by
  cases field with
  | era =>
      rw [enter, Draft.beforeChrist, write, InPlace.get_bind]
      by_cases hindex : index = Era.bc.index
      · by_cases hyear : 1 ≤ draft.year
        · simp only [hindex, hyear, and_self, if_true]
          rfl
        · simp only [hindex, hyear, and_false, if_false, if_true]
          rfl
      · simp only [hindex, false_and, if_false]
        rfl
  | _ => rfl

theorem Slot.readInPlace_eq (slot : Slot) :
    slot.readInPlace locale cursor draft = keeping draft (slot.read locale cursor draft) := by
  cases slot with
  | year len =>
      rw [readInPlace, read, InPlace.ofExcept_bind]
      cases readNumber .year (.ofLength len) cursor with
      | ok found => rfl
      | error cause => rfl
  | number field len =>
      rw [readInPlace, read, InPlace.get_bind]
      dsimp only
      rw [InPlace.ofExcept_bind]
      cases readNumber field.field (.ofLength len) cursor with
      | error cause => rfl
      | ok found =>
          rw [keeping_ok_bind]
          dsimp only
          split
          · rfl
          · rw [InPlace.bind_apply, NumberField.write_eq]
            cases field.enter? draft found.1 with
            | none => rfl
            | some entered => rfl
  | fraction len =>
      rw [readInPlace, read, InPlace.ofExcept_bind]
      cases readNumber .millisecond (fractionSpan len) cursor with
      | ok found => rfl
      | error cause => rfl
  | name field width =>
      rw [readInPlace, read, InPlace.ofExcept_bind]
      cases readName locale field cursor with
      | error cause => rfl
      | ok found =>
          dsimp only
          rw [InPlace.bind_apply, NameField.write_eq]
          rfl

/-- Reading a token in place leaves what reading it gives, or the draft as it was. -/
theorem Token.readInPlace_eq (token : Token) :
    token.readInPlace locale cursor draft = keeping draft (token.read locale cursor draft) := by
  rw [readInPlace, read]
  cases token.slot? with
  | some slot =>
      dsimp only
      rw [InPlace.bind_apply, Slot.readInPlace_eq]
      cases slot.read locale cursor draft with
      | ok found => rfl
      | error cause => rfl
  | none =>
      cases readLiteral token.literalText cursor with
      | ok taken => rfl
      | error cause => rfl

end

/-! ### What is written -/

/-- What a field of the letter may do to a draft: it writes its own parts, and marks the year, the
month and the day that it supplies.  An era marks nothing. -/
def Symbol.Changes (before after : Draft) : Symbol → Prop
  | year => ∃ year,
    after = { before with year, supplied := { before.supplied with year := true } }
  | month | standaloneMonth => ∃ month < 12,
    after = { before with month, supplied := { before.supplied with month := true } }
  | day => ∃ day, 1 ≤ day ∧ day ≤ 31 ∧
    after = { before with day, supplied := { before.supplied with day := true } }
  | dayOfYear => ∃ month < 12, ∃ day, 1 ≤ day ∧ day ≤ 31 ∧
    after = { before with
      month, day, supplied := { before.supplied with month := true, day := true } }
  | weekday | standaloneWeekday => after = before
  | era => ∃ year, after = { before with year }
  | dayPeriod => ∃ isPm, after = { before with isPm := some isPm }
  | hour12 | hour11 => ∃ hour, 1 ≤ hour ∧ hour ≤ 12 ∧ after = { before with hours12 := some hour }
  | hour23 | hour24 => ∃ hours < 24, after = { before with hours }
  | minute => ∃ minutes < 60, after = { before with minutes }
  | second => ∃ seconds < 60, after = { before with seconds }
  | fractionalSecond => ∃ milliseconds < 1000, after = { before with milliseconds }

/-- The letter of a field of a length that the letter supports. -/
def Token.symbol? : Token → Option Symbol
  | field symbol len => if (symbol.slot? len).isSome then some symbol else none
  | _ => none

/-- The letters of the fields of supported lengths, in their order. -/
def symbolsOf (tokens : List Token) : List Symbol := tokens.filterMap Token.symbol?

theorem Token.symbol?_eq_none_iff {token : Token} : token.symbol? = none ↔ token.slot? = none := by
  cases token with
  | field symbol len =>
      simp only [symbol?, slot?]
      cases symbol.slot? len <;> simp
  | _ => exact iff_of_true rfl rfl

theorem Token.symbol?_eq_some_iff {token : Token} {symbol : Symbol} :
    token.symbol? = some symbol ↔ ∃ len slot, token = .field symbol len ∧
      symbol.slot? len = some slot := by
  constructor
  · intro h
    cases token with
    | field letter len =>
        rw [symbol?] at h
        split at h
        · rename_i hslot
          cases h
          obtain ⟨slot, hslot⟩ := Option.isSome_iff_exists.1 hslot
          exact ⟨len, slot, rfl, hslot⟩
        · contradiction
    | _ => contradiction
  · rintro ⟨len, slot, rfl, hslot⟩
    rw [symbol?, hslot]
    rfl

/-! ### Values that are written -/

theorem NameField.index_lt_of_mem_aliases (field : NameField) :
    ∀ name ∈ field.aliases, name.index < field.count := by
  cases field <;> decide

theorem NameField.index_lt_of_mem_initials (field : NameField) :
    ∀ initial ∈ field.initials, initial.2 < field.count := by
  cases field <;> decide

theorem NameField.index_lt_of_mem_pool {field : NameField} {locale : Option Locale} {name : Name}
    (h : name ∈ field.pool locale) : name.index < field.count := by
  rcases List.mem_append.1 (List.mem_filter.1 h).1 with hname | hname
  · obtain ⟨locale, -, hname⟩ := List.mem_flatMap.1 hname
    obtain ⟨width, index, hindex, rfl⟩ := mem_namesIn.1 hname
    exact hindex
  · exact field.index_lt_of_mem_aliases name hname

/-- The index of a name that is read is one of the field. -/
theorem readName_lt_count {locale : Option Locale} {field : NameField} {cursor : Cursor}
    {index taken : Nat} (h : readName locale field cursor = .ok (index, taken)) :
    index < field.count := by
  rw [readName] at h
  split at h
  · contradiction
  split at h
  case h_2 => contradiction
  rename_i found hfound
  cases h
  rw [NameField.recognize] at hfound
  split at hfound
  · rename_i name hname
    cases hfound
    exact NameField.index_lt_of_mem_pool (longestMatch_eq_some hname).1
  · obtain ⟨initial, hinitial, heq⟩ := Option.map_eq_some_iff.1 hfound
    cases heq
    obtain ⟨c, tail, letter, -, hmem, -⟩ := matchInitial_eq_some hinitial
    exact field.index_lt_of_mem_initials _ hmem

/-- A fraction of up to three digits counts less than a second. -/
theorem fraction_lt {len value taken : Nat} {cursor : Cursor} (h1 : 1 ≤ len) (h3 : len ≤ 3)
    (h : readNumber .millisecond (fractionSpan len) cursor = .ok (value, taken)) :
    value * fractionUnit len < 1000 := by
  obtain ⟨digits, -, -, -, -, hdigits, hspan, rfl, -⟩ := readNumber_eq_ok h
  have hlength : digits.length ≤ len := by
    rw [fractionSpan] at hspan
    split at hspan
    · exact hspan.trans h1
    · exact hspan.le
  calc numeralValue digits * fractionUnit len
      < 10 ^ digits.length * 10 ^ (3 - len) :=
        Nat.mul_lt_mul_of_pos_right (numeralValue_lt hdigits) (Nat.pow_pos (by decide))
    _ ≤ 10 ^ len * 10 ^ (3 - len) :=
        Nat.mul_le_mul_right _ (Nat.pow_le_pow_right (by decide) hlength)
    _ = 1000 := by rw [← Nat.pow_add, Nat.add_sub_cancel' h3]

/-! ### What a token does -/

section
variable {locale : Option Locale} {cursor : Cursor} {draft entered : Draft} {len taken : Nat}
  {slot : Slot}

theorem NumberField.read_eq_ok {field : NumberField} (hslot : field.slot? len = some slot)
    (h : slot.read locale cursor draft = .ok (taken, entered)) :
    ∃ value, (field.bounds draft).1 ≤ value ∧ value ≤ (field.bounds draft).2 ∧
      field.enter? draft value = some entered := by
  rw [slot?] at hslot
  split at hslot
  case isFalse => contradiction
  cases hslot
  obtain ⟨⟨value, count⟩, -, heq⟩ := bind_eq_ok.1 h
  dsimp only at heq
  split at heq
  · contradiction
  rename_i hbounds
  split at heq
  · rename_i henter
    cases heq
    exact ⟨value, by omega, by omega, henter⟩
  · contradiction

theorem NameField.read_eq_ok {field : NameField} (hslot : field.slot? len = some slot)
    (h : slot.read locale cursor draft = .ok (taken, entered)) :
    ∃ index < field.count, field.enter draft index = entered := by
  obtain ⟨width, -, rfl⟩ := Option.map_eq_some_iff.1 hslot
  obtain ⟨⟨index, count⟩, hname, heq⟩ := bind_eq_ok.1 h
  cases heq
  exact ⟨index, readName_lt_count hname, rfl⟩

/-- A slot writes what belongs to its letter. -/
theorem Symbol.changes_of_read {symbol : Symbol} (hslot : symbol.slot? len = some slot)
    (h : slot.read locale cursor draft = .ok (taken, entered)) :
    symbol.Changes draft entered := by
  cases symbol with
  | year =>
      cases hslot
      obtain ⟨found, -, heq⟩ := bind_eq_ok.1 h
      cases heq
      exact ⟨_, rfl⟩
  | month | standaloneMonth =>
      rw [slot?, monthSlot?] at hslot
      split at hslot
      · obtain ⟨value, hmin, hmax, henter⟩ := NumberField.read_eq_ok hslot h
        cases henter
        exact ⟨value - 1, by simp only [NumberField.bounds] at hmin hmax; omega, rfl⟩
      · obtain ⟨index, hindex, rfl⟩ := NameField.read_eq_ok hslot h
        exact ⟨index, hindex, rfl⟩
  | day =>
      obtain ⟨value, hmin, hmax, henter⟩ := NumberField.read_eq_ok hslot h
      cases henter
      exact ⟨value, hmin, hmax, rfl⟩
  | dayOfYear =>
      obtain ⟨value, -, -, henter⟩ := NumberField.read_eq_ok hslot h
      obtain ⟨⟨month, day⟩, hfound, rfl⟩ := Option.map_eq_some_iff.1 henter
      obtain ⟨hm, h1, hl, -⟩ := monthDayOfOrdinal_eq_some_iff.1 hfound
      exact ⟨month, hm, day, h1, hl.trans (monthLength_le _ hm), rfl⟩
  | weekday | standaloneWeekday =>
      obtain ⟨index, -, rfl⟩ := NameField.read_eq_ok hslot h
      rfl
  | era =>
      obtain ⟨index, -, rfl⟩ := NameField.read_eq_ok hslot h
      rw [NameField.enter, Draft.beforeChrist]
      split
      · split
        · exact ⟨_, rfl⟩
        · exact ⟨_, rfl⟩
      · exact ⟨_, rfl⟩
  | dayPeriod =>
      obtain ⟨index, -, rfl⟩ := NameField.read_eq_ok hslot h
      exact ⟨_, rfl⟩
  | hour12 =>
      obtain ⟨value, hmin, hmax, henter⟩ := NumberField.read_eq_ok hslot h
      cases henter
      exact ⟨value, hmin, hmax, rfl⟩
  | hour11 =>
      obtain ⟨value, -, hmax, henter⟩ := NumberField.read_eq_ok hslot h
      cases henter
      simp only [NumberField.bounds] at hmax
      exact ⟨if value = 0 then 12 else value, by split <;> omega, by split <;> omega, rfl⟩
  | hour24 =>
      obtain ⟨value, -, -, henter⟩ := NumberField.read_eq_ok hslot h
      cases henter
      exact ⟨value % 24, Nat.mod_lt _ (by decide), rfl⟩
  | hour23 | minute | second =>
      obtain ⟨value, -, hmax, henter⟩ := NumberField.read_eq_ok hslot h
      cases henter
      exact ⟨value, Nat.lt_succ_of_le hmax, rfl⟩
  | fractionalSecond =>
      rw [slot?] at hslot
      split at hslot
      case isFalse => contradiction
      rename_i hlen
      cases hslot
      obtain ⟨⟨value, count⟩, hnumber, heq⟩ := bind_eq_ok.1 h
      cases heq
      exact ⟨_, fraction_lt hlen.1 hlen.2 hnumber, rfl⟩

/-- A field of a supported length writes what belongs to its letter, and any other token nothing. -/
theorem Token.read_changes {token : Token} {next : Cursor}
    (h : token.read locale cursor draft = .ok (next, entered)) :
    match token.symbol? with
    | some symbol => symbol.Changes draft entered
    | none => entered = draft := by
  rw [read] at h
  cases hsymbol : token.symbol? with
  | none =>
      rw [symbol?_eq_none_iff.1 hsymbol] at h
      obtain ⟨count, -, heq⟩ := bind_eq_ok.1 h
      cases heq
      rfl
  | some symbol =>
      obtain ⟨len, slot, rfl, hslot⟩ := symbol?_eq_some_iff.1 hsymbol
      rw [slot?, hslot] at h
      obtain ⟨⟨count, filled⟩, hread, heq⟩ := bind_eq_ok.1 h
      cases heq
      exact symbol.changes_of_read hslot hread

end

/-! ### What a token asks of a draft -/

section
variable {locale : Option Locale} (cursor : Cursor) {draft other : Draft}

/-- Readers that differ only in what they do with a draft take the same. -/
theorem map_fst_bind_congr {α β : Type} (x : Except ParseError α)
    {f g : α → Except ParseError (β × Draft)}
    (h : ∀ found, (f found).map Prod.fst = (g found).map Prod.fst) :
    (x >>= f).map Prod.fst = (x >>= g).map Prod.fst := by
  cases x with
  | ok found => exact h found
  | error cause => rfl

theorem map_fst_advance (x : Except ParseError (Nat × Draft)) :
    (x >>= fun (taken, entered) => .ok (cursor.advance taken, entered)).map Prod.fst =
      (x.map Prod.fst).map cursor.advance := by
  cases x <;> rfl

theorem NumberField.bounds_congr {field : NumberField}
    (h : field = .dayOfYear → other.year = draft.year) :
    field.bounds other = field.bounds draft := by
  cases field with
  | dayOfYear => rw [bounds, bounds, h rfl]
  | _ => rfl

theorem NumberField.isSome_enter?_congr {field : NumberField}
    (h : field = .dayOfYear → other.year = draft.year) (value : Nat) :
    (field.enter? other value).isSome = (field.enter? draft value).isSome := by
  cases field with
  | dayOfYear => rw [enter?, enter?, h rfl, Option.isSome_map, Option.isSome_map]
  | _ => rfl

/-- What a slot takes, and why it fails, does not depend on the draft; an ordinal day alone looks at
the year. -/
theorem Slot.read_map_fst {slot : Slot}
    (h : ∀ len, slot = .number .dayOfYear len → other.year = draft.year) :
    (slot.read locale cursor other).map Prod.fst =
      (slot.read locale cursor draft).map Prod.fst := by
  cases slot with
  | year len => exact map_fst_bind_congr _ fun found => rfl
  | number field len =>
      have hfield : field = .dayOfYear → other.year = draft.year := fun heq => h len (by rw [heq])
      refine map_fst_bind_congr _ fun ⟨value, count⟩ => ?_
      have hsome := NumberField.isSome_enter?_congr hfield value
      dsimp only
      rw [NumberField.bounds_congr hfield]
      split
      · rfl
      cases hother : field.enter? other value with
      | some filled =>
          rw [hother, Option.isSome_some, eq_comm, Option.isSome_iff_exists] at hsome
          obtain ⟨entered, hentered⟩ := hsome
          rw [hentered]
          rfl
      | none =>
          rw [hother, Option.isSome_none, eq_comm, Option.isSome_eq_false_iff] at hsome
          rw [Option.isNone_iff_eq_none.1 hsome]
  | fraction len => exact map_fst_bind_congr _ fun found => rfl
  | name field width => exact map_fst_bind_congr _ fun found => rfl

theorem Token.read_map_fst {token : Token}
    (h : token.symbol? = some .dayOfYear → other.year = draft.year) :
    (token.read locale cursor other).map Prod.fst =
      (token.read locale cursor draft).map Prod.fst := by
  rw [read, read]
  cases hslot : token.slot? with
  | none => exact map_fst_bind_congr _ fun found => rfl
  | some slot =>
      have hread : (slot.read locale cursor other).map Prod.fst =
          (slot.read locale cursor draft).map Prod.fst := by
        apply Slot.read_map_fst
        rintro count rfl
        cases token with
        | field symbol len =>
            obtain ⟨rfl, -⟩ := Symbol.slot?_eq_dayOfYear_iff.1 hslot
            exact h (symbol?_eq_some_iff.2 ⟨len, _, rfl, hslot⟩)
        | _ => contradiction
      exact (map_fst_advance cursor _).trans
        ((congrArg (Except.map cursor.advance) hread).trans (map_fst_advance cursor _).symm)

end

/-! ### One token -/

/-- What a reader with a draft at hand gives, whatever it has written. -/
def outcome {α : Type} : EStateM.Result ParseError Draft α → Except ParseError α
  | .ok found _ => .ok found
  | .error cause _ => .error cause

theorem outcome_keeping {α : Type} (draft : Draft) (read : Except ParseError (α × Draft)) :
    outcome (keeping draft read) = read.map Prod.fst := by
  cases read <;> rfl

/-- A token that cannot be read leaves the draft as it was.  A token that is read writes what
belongs to its letter and nothing else: nothing at all if it is not a field of a supported length.
What it takes, and why it fails, does not depend on the draft, but for an ordinal day, which looks
at the year. -/
theorem Token.readInPlace_effects (locale : Option Locale) (token : Token) (cursor : Cursor)
    (draft : Draft) :
    (∀ cause left, token.readInPlace locale cursor draft = .error cause left → left = draft) ∧
    (∀ next left, token.readInPlace locale cursor draft = .ok next left →
      match token.symbol? with
      | some symbol => symbol.Changes draft left
      | none => left = draft) ∧
    ∀ other : Draft, (token.symbol? = some .dayOfYear → other.year = draft.year) →
      outcome (token.readInPlace locale cursor other) =
        outcome (token.readInPlace locale cursor draft) := by
  refine ⟨fun cause left h => ?_, fun next left h => ?_, fun other hyear => ?_⟩
  · rw [readInPlace_eq] at h
    cases hread : token.read locale cursor draft with
    | ok found =>
        rw [hread] at h
        contradiction
    | error _ =>
        rw [hread] at h
        cases h
        rfl
  · rw [readInPlace_eq] at h
    cases hread : token.read locale cursor draft with
    | ok found =>
        rw [hread] at h
        cases h
        exact read_changes hread
    | error _ =>
        rw [hread] at h
        contradiction
  · rw [readInPlace_eq, readInPlace_eq, outcome_keeping, outcome_keeping]
    exact read_map_fst cursor hyear

/-- The 366th day, which 1970 does not have and 1972 has, the name of a weekday, and an hour that
does not depend on the year. -/
theorem Token.readInPlace_effects_ordinal :
    let common := Draft.ofReference .epoch
    let leap : Draft := { common with year := 1972 }
    (∃ cause left, (Token.field .dayOfYear 3).readInPlace none (.start "366".toList) common =
        .error cause left ∧ left = common) ∧
    (∃ next left, (Token.field .dayOfYear 3).readInPlace none (.start "366".toList) leap =
        .ok next left ∧ Symbol.dayOfYear.Changes leap left) ∧
    (∃ next left, (Token.field .weekday 4).readInPlace none (.start "sunday".toList) leap =
        .ok next left ∧ Symbol.weekday.Changes leap left) ∧
    ((Token.field .hour23 2).symbol? ≠ some .dayOfYear ∧
      outcome ((Token.field .hour23 2).readInPlace none (.start "24".toList) common) =
        outcome ((Token.field .hour23 2).readInPlace none (.start "24".toList) leap)) := by
  intro common leap
  have hrefused : (Token.field .dayOfYear 3).read none (.start "366".toList) common =
      .error (.outOfRange .dayOfYear 366 1 365) := by decide +kernel
  have hordinal : (Token.field .dayOfYear 3).read none (.start "366".toList) leap =
      .ok (⟨3, some []⟩, (leap.supplyMonth 11).supplyDay 31) := by decide +kernel
  have hweekday : (Token.field .weekday 4).read none (.start "sunday".toList) leap =
      .ok (⟨6, some []⟩, leap) := by decide +kernel
  have hrefused' := (readInPlace_eq (.start "366".toList) common _).trans (congrArg _ hrefused)
  have hordinal' := (readInPlace_eq (.start "366".toList) leap _).trans (congrArg _ hordinal)
  have hweekday' := (readInPlace_eq (.start "sunday".toList) leap _).trans (congrArg _ hweekday)
  exact ⟨⟨_, _, hrefused', (readInPlace_effects _ _ _ _).1 _ _ hrefused'⟩,
    ⟨_, _, hordinal', (readInPlace_effects _ _ _ _).2.1 _ _ hordinal'⟩,
    ⟨_, _, hweekday', (readInPlace_effects _ _ _ _).2.1 _ _ hweekday'⟩,
    by decide, (readInPlace_effects _ _ _ _).2.2 common (fun h => absurd h (by decide))⟩

/-! ### A run of tokens -/

/-- Fields of the letters, one after the other, take the first draft to the last. -/
inductive Changed : Draft → List Symbol → Draft → Prop
  | nil (draft : Draft) : Changed draft [] draft
  | cons {symbol : Symbol} {symbols : List Symbol} {before between after : Draft} :
      symbol.Changes before between → Changed between symbols after →
        Changed before (symbol :: symbols) after

/-- Tokens that are read do what their fields do, one after the other. -/
theorem readTokens_changed {locale : Option Locale} : ∀ {tokens : List Token}
    {cursor last : Cursor} {draft final : Draft},
    readTokens locale tokens cursor draft = .ok (last, final) →
      Changed draft (symbolsOf tokens) final
  | [], _, _, _, _, h => by
      cases h
      exact .nil _
  | token :: tokens, cursor, last, draft, final, h => by
      obtain ⟨⟨next, entered⟩, hread, hrun⟩ := bind_eq_ok.1 h
      have hchanges := Token.read_changes hread
      have ih := readTokens_changed hrun
      rw [symbolsOf, List.filterMap_cons]
      cases hsymbol : token.symbol? with
      | none =>
          rw [hsymbol] at hchanges
          exact hchanges ▸ ih
      | some symbol =>
          rw [hsymbol] at hchanges
          exact .cons hchanges ih

end DatePattern

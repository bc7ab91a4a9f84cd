import DatePattern.Proofs.Pattern.CursorSafety
import DatePattern.Proofs.Pattern.RoundTrip

/-! # Patterns of numbers

A pattern whose fields are all numbers, each told from what follows it (`Separated`), describes the
texts that split into one piece for each token: digits for a field, the text itself for a literal
(`Token.Admits`).  Reading is greedy and never goes back, and yet it finds the split whenever there
is one, because the digits of a field end where its piece does (`readTokens_of_admits`); what it
finds is always a split (`admits_of_readTokens`).

The date comes from the last piece of each kind, as `fieldsOf` says.

* `parseTokens_eq_ok_iff`: the texts that tokens read, and the dates they read them as.
* `parse_eq_ok_iff_pieces`: the same of the tokens of a pattern. -/

namespace DatePattern

/-! ### The grammar -/

/-- A run of so many of the letter is a number whose value is understood by itself: two digits of a
year need a reference, ordinal days a year, and hours on a 12-hour clock a half of the day. -/
def Symbol.Numeric (len : Nat) : Symbol → Prop
  | year => len = 1 ∨ 3 ≤ len
  | month | standaloneMonth => len ≤ 2
  | day | hour23 | hour24 | minute | second | fractionalSecond => True
  | dayOfYear | weekday | standaloneWeekday | era | dayPeriod | hour12 | hour11 => False

/-- So many digits fill a run of so many of the letter: as many as there are letters, or any number
for a single letter that is not one of a fraction. -/
def Symbol.Counts (len count : Nat) (symbol : Symbol) : Prop :=
  if len = 1 ∧ symbol ≠ fractionalSecond then 1 ≤ count else count = len

/-- The value lies in the range of the letter. -/
def Symbol.Holds (value : Nat) : Symbol → Prop
  | month | standaloneMonth => 1 ≤ value ∧ value ≤ 12
  | day => 1 ≤ value ∧ value ≤ 31
  | hour23 => value ≤ 23
  | hour24 => 1 ≤ value ∧ value ≤ 24
  | minute | second => value ≤ 59
  | _ => True

/-- The piece fills a run of so many of the letter. -/
structure Symbol.Admits (len : Nat) (piece : List Char) (symbol : Symbol) : Prop where
  isDigit : ∀ c ∈ piece, c.isDigit
  counts : symbol.Counts len piece.length
  le_maxNumber : numeralValue piece ≤ maxNumber
  holds : symbol.Holds (numeralValue piece)

/-- The token is no field, or one of a number whose value is understood by itself. -/
def Token.Numeric : Token → Prop
  | .field symbol len => symbol.Supports len → symbol.Numeric len
  | _ => True

/-- The piece fills the field, or is what a token that is no field stands for. -/
def Token.Admits (token : Token) (piece : List Char) : Prop :=
  match token with
  | .field symbol len =>
    if symbol.Supports len then symbol.Admits len piece else piece = token.literalText
  | _ => piece = token.literalText

instance (len : Nat) : ∀ symbol : Symbol, Decidable (symbol.Numeric len)
  | .year => inferInstanceAs (Decidable (len = 1 ∨ 3 ≤ len))
  | .month | .standaloneMonth => inferInstanceAs (Decidable (len ≤ 2))
  | .day | .hour23 | .hour24 | .minute | .second | .fractionalSecond => .isTrue trivial
  | .dayOfYear | .weekday | .standaloneWeekday | .era | .dayPeriod | .hour12 | .hour11 =>
    .isFalse id

instance (len count : Nat) (symbol : Symbol) : Decidable (symbol.Counts len count) := by
  unfold Symbol.Counts; infer_instance

instance (value : Nat) : ∀ symbol : Symbol, Decidable (symbol.Holds value)
  | .month | .standaloneMonth => inferInstanceAs (Decidable (1 ≤ value ∧ value ≤ 12))
  | .day => inferInstanceAs (Decidable (1 ≤ value ∧ value ≤ 31))
  | .hour23 => inferInstanceAs (Decidable (value ≤ 23))
  | .hour24 => inferInstanceAs (Decidable (1 ≤ value ∧ value ≤ 24))
  | .minute | .second => inferInstanceAs (Decidable (value ≤ 59))
  | .year | .dayOfYear | .weekday | .standaloneWeekday | .era | .dayPeriod | .hour12 | .hour11
  | .fractionalSecond => .isTrue trivial

theorem Symbol.admits_iff (len : Nat) (piece : List Char) (symbol : Symbol) :
    symbol.Admits len piece ↔ piece.all Char.isDigit ∧ symbol.Counts len piece.length ∧
      numeralValue piece ≤ maxNumber ∧ symbol.Holds (numeralValue piece) := by
  rw [List.all_eq_true]
  constructor
  · rintro ⟨isDigit, counts, le_maxNumber, holds⟩
    exact ⟨isDigit, counts, le_maxNumber, holds⟩
  · rintro ⟨isDigit, counts, le_maxNumber, holds⟩
    exact ⟨isDigit, counts, le_maxNumber, holds⟩

instance (len : Nat) (piece : List Char) (symbol : Symbol) : Decidable (symbol.Admits len piece) :=
  decidable_of_iff' _ (symbol.admits_iff len piece)

instance (piece : List Char) : ∀ token : Token, Decidable (token.Admits piece)
  | .field symbol len => inferInstanceAs (Decidable
      (if symbol.Supports len then symbol.Admits len piece
        else piece = (Token.field symbol len).literalText))
  | .literal c => inferInstanceAs (Decidable (piece = (Token.literal c).literalText))
  | .escapedQuote => inferInstanceAs (Decidable (piece = Token.escapedQuote.literalText))
  | .quoted text => inferInstanceAs (Decidable (piece = (Token.quoted text).literalText))
  | .unclosed text => inferInstanceAs (Decidable (piece = (Token.unclosed text).literalText))

instance : DecidablePred Token.Numeric
  | .field symbol len => inferInstanceAs (Decidable (symbol.Supports len → symbol.Numeric len))
  | .literal _ | .escapedQuote | .quoted _ | .unclosed _ => .isTrue trivial

theorem Token.admits_field {symbol : Symbol} {len : Nat} (h : symbol.Supports len)
    {piece : List Char} : (Token.field symbol len).Admits piece ↔ symbol.Admits len piece := by
  rw [Admits, if_pos h]

theorem Token.admits_of_not_isField {token : Token} (h : ¬ token.IsField) {piece : List Char} :
    token.Admits piece ↔ piece = token.literalText := by
  cases token with
  | field symbol len =>
      have hlen : ¬ symbol.Supports len := h
      rw [Admits, if_neg hlen]
  | _ => rfl

/-! ### What pieces come to -/

/-- A number that was read in a field. -/
structure Reading where
  symbol : Symbol
  len : Nat
  value : Nat

/-- The number that a piece gives to a field. -/
def Token.reading? (token : Token) (piece : List Char) : Option Reading :=
  match token with
  | .field symbol len =>
    if symbol.Supports len then some ⟨symbol, len, numeralValue piece⟩ else none
  | _ => none

theorem Token.reading?_of_not_isField {token : Token} (h : ¬ token.IsField) (piece : List Char) :
    token.reading? piece = none := by
  cases token with
  | field symbol len => exact if_neg h
  | _ => rfl

theorem Token.reading?_field {symbol : Symbol} {len : Nat} (h : symbol.Supports len)
    (piece : List Char) :
    (Token.field symbol len).reading? piece = some ⟨symbol, len, numeralValue piece⟩ := if_pos h

/-- The numbers that pieces give to the fields of tokens. -/
def readings : List Token → List (List Char) → List Reading
  | token :: tokens, piece :: pieces => (token.reading? piece).toList ++ readings tokens pieces
  | _, _ => []

/-- What a reading says about a part of the date: months count from 0, and the 24th hour is the
first. -/
def Reading.value? (part : Part) (reading : Reading) : Option Nat :=
  match part, reading.symbol with
  | .year, .year => some reading.value
  | .month, .month | .month, .standaloneMonth => some (reading.value - 1)
  | .day, .day => some reading.value
  | .hours, .hour23 => some reading.value
  | .hours, .hour24 => some (reading.value % 24)
  | .minutes, .minute => some reading.value
  | .seconds, .second => some reading.value
  | .milliseconds, .fractionalSecond => some (reading.value * 10 ^ (3 - reading.len))
  | _, _ => none

/-- The last that the readings say about a part of the date. -/
def lastValue (part : Part) (read : List Reading) : Option Nat :=
  read.reverse.findSome? (Reading.value? part)

/-- The fields that the readings come to: times of day start at midnight, months and days at the
first when a larger unit was read, and all else is taken from the reference date. -/
def fieldsOf (reference : Date) (read : List Reading) : Fields where
  year := (lastValue .year read).elim reference.year Int.ofNat
  month := ((lastValue .month read).getD
    (if (lastValue .year read).isSome then 0 else reference.month) : Nat)
  day := ((lastValue .day read).getD
    (if (lastValue .year read).isSome || (lastValue .month read).isSome then 1
      else reference.day) : Nat)
  hours := ((lastValue .hours read).getD 0 : Nat)
  minutes := ((lastValue .minutes read).getD 0 : Nat)
  seconds := ((lastValue .seconds read).getD 0 : Nat)
  milliseconds := ((lastValue .milliseconds read).getD 0 : Nat)

/-! ### Reading a slot -/

/-- The draft with a number that was read. -/
def Reading.fill (draft : Draft) (reading : Reading) : Draft :=
  match reading.symbol with
  | .year => draft.supplyYear reading.value
  | .month | .standaloneMonth => draft.supplyMonth (reading.value - 1)
  | .day => draft.supplyDay reading.value
  | .hour23 => { draft with hours := reading.value }
  | .hour24 => { draft with hours := reading.value % 24 }
  | .minute => { draft with minutes := reading.value }
  | .second => { draft with seconds := reading.value }
  | .fractionalSecond =>
    { draft with milliseconds := reading.value * 10 ^ (3 - reading.len) }
  | _ => draft

/-- How many digits a run of so many of the letter takes from a run of digits. -/
def Symbol.digitSpan (len : Nat) (symbol : Symbol) : DigitSpan :=
  if symbol = fractionalSecond then fractionSpan len else .ofLength len

/-- The slot reads a number in the range of the letter, whatever was read before, and enters it. -/
def Slot.ReadsNumber (symbol : Symbol) (len : Nat) (slot : Slot) : Prop :=
  ∀ (locale : Option Locale) (cursor : Cursor) (draft entered : Draft) (taken : Nat),
    slot.read locale cursor draft = .ok (taken, entered) ↔
      ∃ value, readNumber slot.field (symbol.digitSpan len) cursor = .ok (value, taken) ∧
        symbol.Holds value ∧ entered = Reading.fill draft ⟨symbol, len, value⟩

section
variable {symbol : Symbol} {len : Nat}

theorem Slot.readsNumber_year (h : len = 1 ∨ 3 ≤ len) : (Slot.year len).ReadsNumber .year len := by
  intro locale cursor draft entered taken
  have hlen : len ≠ 2 := by omega
  rw [Slot.read, bind_eq_ok]
  simp only [if_neg hlen, Prod.exists]
  constructor
  · rintro ⟨value, count, hnumber, heq⟩
    cases heq
    exact ⟨value, hnumber, trivial, rfl⟩
  · rintro ⟨value, hnumber, -, rfl⟩
    exact ⟨value, taken, hnumber, rfl⟩

theorem Slot.readsNumber_fraction : (Slot.fraction len).ReadsNumber .fractionalSecond len := by
  intro locale cursor draft entered taken
  rw [Slot.read, bind_eq_ok]
  simp only [Prod.exists]
  constructor
  · rintro ⟨value, count, hnumber, heq⟩
    cases heq
    exact ⟨value, hnumber, trivial, rfl⟩
  · rintro ⟨value, hnumber, -, rfl⟩
    exact ⟨value, taken, hnumber, rfl⟩

theorem Slot.readsNumber_number {field : NumberField} (hspan : symbol.digitSpan len = .ofLength len)
    (hbounds : ∀ draft value, symbol.Holds value ↔
      (field.bounds draft).1 ≤ value ∧ value ≤ (field.bounds draft).2)
    (henter : ∀ draft value,
      field.enter? draft value = some (Reading.fill draft ⟨symbol, len, value⟩)) :
    (Slot.number field len).ReadsNumber symbol len := by
  intro locale cursor draft entered taken
  rw [Slot.read, bind_eq_ok, hspan]
  simp only [Prod.exists, hbounds draft, henter]
  constructor
  · rintro ⟨value, count, hnumber, heq⟩
    split at heq
    · contradiction
    · cases heq
      exact ⟨value, hnumber, by omega, rfl⟩
  · rintro ⟨value, hnumber, hholds, rfl⟩
    exact ⟨value, taken, hnumber, if_neg (by omega)⟩

/-- A run of a letter that is a number leaves a slot which reads it. -/
theorem Symbol.exists_slot_readsNumber (hs : symbol.Numeric len) (hlen : symbol.Supports len) :
    ∃ slot, symbol.slot? len = some slot ∧ slot.ReadsNumber symbol len := by
  cases symbol with
  | year => exact ⟨.year len, rfl, Slot.readsNumber_year hs⟩
  | month | standaloneMonth =>
      obtain ⟨h1, -⟩ := (supports_iff rfl len).1 hlen
      exact ⟨_, monthSlot?_eq_some_iff.2 (.inl ⟨⟨h1, hs⟩, rfl⟩),
        Slot.readsNumber_number rfl (fun _ _ => Iff.rfl) fun _ _ => rfl⟩
  | day | hour24 =>
      obtain ⟨h1, h2⟩ := (supports_iff rfl len).1 hlen
      exact ⟨_, NumberField.slot?_of_le h1 h2,
        Slot.readsNumber_number rfl (fun _ _ => Iff.rfl) fun _ _ => rfl⟩
  | hour23 | minute | second =>
      obtain ⟨h1, h2⟩ := (supports_iff rfl len).1 hlen
      exact ⟨_, NumberField.slot?_of_le h1 h2,
        Slot.readsNumber_number rfl (fun _ value => (and_iff_right (Nat.zero_le value)).symm)
          fun _ _ => rfl⟩
  | fractionalSecond =>
      exact ⟨_, fractionSlot?_eq_some_iff.2 ⟨(supports_iff rfl len).1 hlen, rfl⟩,
        Slot.readsNumber_fraction⟩
  | _ => exact hs.elim

theorem Symbol.counts_of_allows {count : Nat} (hcount : 1 ≤ count)
    (h : (symbol.digitSpan len).Allows count) : symbol.Counts len count := by
  rw [Counts]
  by_cases hfraction : symbol = .fractionalSecond
  · rw [digitSpan, if_pos hfraction, fractionSpan] at h
    rw [if_neg fun hsingle => hsingle.2 hfraction]
    split at h
    · simp only [DigitSpan.Allows] at h
      omega
    · exact h
  · rw [digitSpan, if_neg hfraction, DigitSpan.ofLength] at h
    simp only [ne_eq, hfraction, not_false_eq_true, and_true]
    split at h
    · rwa [if_pos ‹_›]
    · rwa [if_neg ‹_›]

theorem Symbol.Numeric.one_le (hs : symbol.Numeric len) (hlen : symbol.Supports len) :
    1 ≤ len := by
  cases symbol with
  | year =>
      rw [Numeric] at hs
      omega
  | _ => exact ((supports_iff rfl len).1 hlen).1

theorem Symbol.Counts.pos {count : Nat} (hlen : 1 ≤ len) (h : symbol.Counts len count) :
    1 ≤ count := by
  rw [Counts] at h
  split at h <;> omega

theorem Symbol.Counts.admits_digitSpan (hlen : symbol.Supports len) {count : Nat}
    (h : symbol.Counts len count) : (symbol.digitSpan len).Admits count := by
  rw [Counts] at h
  rw [digitSpan]
  split
  · rename_i hfraction
    rw [if_neg fun hsingle => hsingle.2 hfraction] at h
    subst hfraction h
    exact admits_fraction ((supports_iff rfl count).1 hlen)
  · rename_i hfraction
    simp only [ne_eq, hfraction, not_false_eq_true, and_true] at h
    rw [DigitSpan.ofLength]
    split
    · exact ⟨rfl, rfl⟩
    · rw [if_neg ‹_›] at h
      exact ⟨by rw [DigitSpan.mismatch?, if_pos h], by rw [DigitSpan.taken, h]⟩

end

/-! ### Reading tokens -/

/-- The draft with the numbers of some readings, one after the other. -/
def fillAll (draft : Draft) (read : List Reading) : Draft := read.foldl Reading.fill draft

theorem fillAll_readings_cons (draft : Draft) (token : Token) (tokens : List Token)
    (piece : List Char) (pieces : List (List Char)) :
    fillAll draft (readings (token :: tokens) (piece :: pieces)) =
      fillAll (fillAll draft (token.reading? piece).toList) (readings tokens pieces) :=
  List.foldl_append

section
variable {locale : Option Locale}

theorem Token.admits_of_read {token : Token} (hs : token.Numeric) {cursor next : Cursor}
    {draft entered : Draft} (h : token.read locale cursor draft = .ok (next, entered)) :
    ∃ piece, cursor.Takes piece next ∧ token.Admits piece ∧
      entered = fillAll draft (token.reading? piece).toList := by
  rw [Token.read] at h
  by_cases hfield : token.IsField
  · cases token with
    | field symbol len =>
        obtain ⟨slot, hslot, hreads⟩ := Symbol.exists_slot_readsNumber (hs hfield) hfield
        rw [slot?, hslot] at h
        obtain ⟨⟨taken, filled⟩, hread, heq⟩ := bind_eq_ok.1 h
        cases heq
        obtain ⟨value, hnumber, hholds, rfl⟩ := (hreads _ _ _ _ _).1 hread
        obtain ⟨piece, tail, hrest, rfl, hne, hdigits, hspan, rfl, hmax⟩ :=
          readNumber_eq_ok hnumber
        have hcounts := Symbol.counts_of_allows (List.length_pos_iff.2 hne) hspan
        refine ⟨piece, Cursor.takes_advance hrest,
          (admits_field hfield).2 ⟨hdigits, hcounts, hmax, hholds⟩, ?_⟩
        rw [reading?_field hfield]
        rfl
    | _ => exact hfield.elim
  · rw [slot?_eq_none_iff.2 hfield] at h
    obtain ⟨taken, hread, heq⟩ := bind_eq_ok.1 h
    cases heq
    obtain ⟨rfl, tail, hrest⟩ := readLiteral_eq_ok hread
    refine ⟨token.literalText, Cursor.takes_advance hrest, (admits_of_not_isField hfield).2 rfl, ?_⟩
    rw [reading?_of_not_isField hfield]
    rfl

theorem Token.read_of_admits {token : Token} (hs : token.Numeric) {piece tail : List Char}
    (h : token.Admits piece) (ht : token.IsField → ∀ c ∈ tail.head?, c.isDigit = false)
    (position : Nat) (draft : Draft) :
    token.read locale ⟨position, some (piece ++ tail)⟩ draft =
      .ok (⟨position + byteLength piece, some tail⟩,
        fillAll draft (token.reading? piece).toList) := by
  rw [Token.read, ← Cursor.advance_append]
  by_cases hfield : token.IsField
  · cases token with
    | field symbol len =>
        obtain ⟨slot, hslot, hreads⟩ := Symbol.exists_slot_readsNumber (hs hfield) hfield
        rw [admits_field hfield] at h
        have hpos := h.counts.pos ((hs hfield).one_le hfield)
        have hnumber : readNumber slot.field (symbol.digitSpan len)
            ⟨position, some (piece ++ tail)⟩ = .ok (numeralValue piece, piece.length) :=
          readNumber_append (List.length_pos_iff.1 hpos) h.isDigit (ht hfield)
            (h.counts.admits_digitSpan hfield) h.le_maxNumber
        have hread : slot.read locale ⟨position, some (piece ++ tail)⟩ draft = .ok (_, _) :=
          (hreads _ _ _ _ _).2 ⟨_, hnumber, h.holds, rfl⟩
        rw [slot?, hslot, reading?_field hfield]
        dsimp only
        rw [hread]
        rfl
    | _ => exact hfield.elim
  · rw [slot?_eq_none_iff.2 hfield, (admits_of_not_isField hfield).1 h,
      reading?_of_not_isField hfield]
    dsimp only
    rw [readLiteral_append]
    rfl

/-- What tokens read splits into pieces that they admit. -/
theorem admits_of_readTokens : ∀ {tokens : List Token} {cursor last : Cursor}
    {draft final : Draft} {text : List Char}, (∀ token ∈ tokens, token.Numeric) →
      cursor.rest? = some text → readTokens locale tokens cursor draft = .ok (last, final) →
        ∃ pieces, List.Forall₂ Token.Admits tokens pieces ∧
          cursor.Takes pieces.flatten last ∧ final = fillAll draft (readings tokens pieces)
  | [], cursor, last, draft, final, text, _, hrest, h => by
      cases h
      exact ⟨[], .nil, Cursor.takes_nil hrest, rfl⟩
  | token :: tokens, cursor, last, draft, final, text, hs, hrest, h => by
      obtain ⟨htoken, htokens⟩ := List.forall_mem_cons.1 hs
      rw [readTokens] at h
      obtain ⟨⟨next, entered⟩, hread, h⟩ := bind_eq_ok.1 h
      obtain ⟨piece, htakes, hadmits, hentered⟩ := Token.admits_of_read htoken hread
      obtain ⟨rest, -, hnext⟩ := id htakes
      obtain ⟨pieces, hpieces, hlast, hfinal⟩ := admits_of_readTokens htokens (by rw [hnext]) h
      refine ⟨piece :: pieces, .cons hadmits hpieces, htakes.trans hlast, ?_⟩
      rw [hfinal, fillAll_readings_cons, hentered]

theorem Symbol.Numeric.not_showsName {symbol : Symbol} {len : Nat} (h : symbol.Numeric len) :
    ¬ symbol.ShowsName len := by
  cases symbol with
  | month | standaloneMonth => exact Nat.not_le.2 (Nat.lt_succ_of_le h)
  | weekday | standaloneWeekday | era | dayPeriod => exact h.elim
  | _ => exact id

/-- The digits of a field end where the piece of the next token begins. -/
theorem Separated.not_digit {token : Token} {tokens : List Token}
    (hsep : Separated (token :: tokens)) (hfield : token.IsField) (hs : token.Numeric)
    {pieces : List (List Char)} (h : List.Forall₂ Token.Admits tokens pieces) :
    ∀ c ∈ pieces.flatten.head?, c.isDigit = false := by
  have hends := hsep.1 hfield
  cases token with
  | field symbol len =>
      cases h with
      | nil => simp
      | cons hadmits _ =>
          obtain ⟨hnext, c, htext, hc⟩ := hends
          obtain ⟨text, htext⟩ := List.head?_eq_some_iff.1 htext
          rw [Token.admits_of_not_isField hnext, htext] at hadmits
          rw [Token.EndsAt, if_neg (hs hfield).not_showsName] at hc
          rw [hadmits]
          rintro c' ⟨⟩
          exact hc
  | _ => exact hfield.elim

/-- Pieces that tokens admit are read by them, one after the other. -/
theorem readTokens_of_admits : ∀ {tokens : List Token} {pieces : List (List Char)},
    List.Forall₂ Token.Admits tokens pieces → (∀ token ∈ tokens, token.Numeric) →
      Separated tokens → ∀ (position : Nat) (draft : Draft),
        readTokens locale tokens ⟨position, some pieces.flatten⟩ draft =
          .ok (⟨position + byteLength pieces.flatten, some []⟩,
            fillAll draft (readings tokens pieces))
  | [], [], _, _, _, _, _ => rfl
  | [], _ :: _, h, _, _, _, _ => by cases h
  | _ :: _, [], h, _, _, _, _ => by cases h
  | token :: tokens, piece :: pieces, h, hs, hsep, position, draft => by
      obtain ⟨hadmits, hpieces⟩ := List.forall₂_cons.1 h
      obtain ⟨htoken, htokens⟩ := List.forall_mem_cons.1 hs
      have hread : token.read locale ⟨position, some (piece ++ pieces.flatten)⟩ draft = .ok _ :=
        Token.read_of_admits htoken hadmits
          (fun hfield => hsep.not_digit hfield htoken hpieces) position draft
      have ih := readTokens_of_admits hpieces htokens hsep.2
      rw [List.flatten_cons, readTokens, hread]
      simp only [bind, Except.bind]
      rw [ih, byteLength_append, Nat.add_assoc, fillAll_readings_cons]

end

/-! ### What readings leave in a draft -/

theorem lastValue_cons (part : Part) (reading : Reading) (read : List Reading) :
    lastValue part (reading :: read) = (lastValue part read).or (reading.value? part) := by
  rw [lastValue, lastValue, List.reverse_cons, List.findSome?_append]
  simp

/-- A reading writes what it says about each part, and leaves the others alone. -/
theorem Reading.fill_eq (draft : Draft) (reading : Reading) :
    reading.fill draft =
      { draft with
        year := (reading.value? .year).elim draft.year Int.ofNat
        month := (reading.value? .month).getD draft.month
        day := (reading.value? .day).getD draft.day
        hours := (reading.value? .hours).getD draft.hours
        minutes := (reading.value? .minutes).getD draft.minutes
        seconds := (reading.value? .seconds).getD draft.seconds
        milliseconds := (reading.value? .milliseconds).getD draft.milliseconds
        supplied :=
          { year := (reading.value? .year).isSome || draft.supplied.year
            month := (reading.value? .month).isSome || draft.supplied.month
            day := (reading.value? .day).isSome || draft.supplied.day } } := by
  obtain ⟨symbol, len, value⟩ := reading
  cases symbol <;> rfl

/-- The last value that was read for a part is the one that stays. -/
theorem fillAll_eq (draft : Draft) (read : List Reading) : fillAll draft read =
      { draft with
        year := (lastValue .year read).elim draft.year Int.ofNat
        month := (lastValue .month read).getD draft.month
        day := (lastValue .day read).getD draft.day
        hours := (lastValue .hours read).getD draft.hours
        minutes := (lastValue .minutes read).getD draft.minutes
        seconds := (lastValue .seconds read).getD draft.seconds
        milliseconds := (lastValue .milliseconds read).getD draft.milliseconds
        supplied :=
          { year := (lastValue .year read).isSome || draft.supplied.year
            month := (lastValue .month read).isSome || draft.supplied.month
            day := (lastValue .day read).isSome || draft.supplied.day } } := by
  induction read generalizing draft with
  | nil => rfl
  | cons reading read ih =>
      have hcons : fillAll draft (reading :: read) = fillAll (reading.fill draft) read := rfl
      rw [hcons, ih, Reading.fill_eq]
      simp only [lastValue_cons, Option.getD_or, Option.isSome_or, Bool.or_assoc]
      cases lastValue .year read <;> rfl

/-- Readings that follow each other from a reference date come to the fields that they say. -/
theorem fields_fillAll (reference : Date) (read : List Reading) :
    (fillAll (.ofReference reference) read).fields = fieldsOf reference read := by
  rw [fillAll_eq]
  simp only [Draft.fields, Draft.finalMonth, Draft.finalDay, Draft.finalHours, Draft.ofReference,
    fieldsOf, Bool.or_false]
  cases lastValue .year read <;> cases lastValue .month read <;> cases lastValue .day read <;> rfl

/-! ### Whole texts -/

section
variable {locale : Option Locale} {reference d : Date}

/-- Tokens read the texts that split into pieces which they admit, as the date that the last pieces
of each kind come to. -/
theorem parseTokens_eq_ok_iff {tokens : List Token} (hs : ∀ token ∈ tokens, token.Numeric)
    (hsep : Separated tokens) {text : List Char} :
    parseTokens locale reference tokens text = .ok d ↔
      ∃ pieces, List.Forall₂ Token.Admits tokens pieces ∧ pieces.flatten = text ∧
        Date.ofFields (fieldsOf reference (readings tokens pieces)) = .ok d := by
  constructor
  · intro h
    obtain ⟨cursor, draft, hrun, hrest, hfinish⟩ := parseTokens_eq_ok_iff_run.1 h
    obtain ⟨pieces, hpieces, htakes, rfl⟩ := admits_of_readTokens hs rfl hrun
    obtain ⟨tail, htext, rfl⟩ := htakes
    cases hrest
    refine ⟨pieces, hpieces, ?_, ?_⟩
    · rw [List.append_nil] at htext
      exact (Option.some.inj htext).symm
    · rwa [fields_fillAll] at hfinish
  · rintro ⟨pieces, hpieces, rfl, hdate⟩
    have hrun : readTokens locale tokens (.start pieces.flatten) (.ofReference reference) =
        .ok _ := readTokens_of_admits hpieces hs hsep 0 (.ofReference reference)
    rw [← fields_fillAll] at hdate
    exact parseTokens_eq_ok_iff_run.2 ⟨_, _, hrun, rfl, hdate⟩

/-- A pattern of numbers, each told from what follows it, reads exactly the texts that split into
one piece for each token: the text of a literal, and for a field as many digits as it has letters,
or any number of them for a single letter other than that of a fraction, with a value that fits into
64 bits and lies in the range of the field.  The date that is read is the one made of the last piece
of each kind, if there is one. -/
theorem parse_eq_ok_iff_pieces {pattern : String}
    (hs : ∀ token ∈ tokenize pattern.toList, token.Numeric)
    (hsep : Separated (tokenize pattern.toList)) (text : String) :
    parse text pattern { locale, reference := .date reference } = .ok d ↔
      ∃ pieces, List.Forall₂ Token.Admits (tokenize pattern.toList) pieces ∧
        pieces.flatten = text.toList ∧
        Date.ofFields (fieldsOf reference (readings (tokenize pattern.toList) pieces)) =
          .ok d := by
  rw [parse_eq_parseTokens, parseTokens_eq_ok_iff hs hsep]

/-- Of two months the last one counts, and the 24th hour is that of midnight. -/
theorem parse_eq_ok_iff_pieces_lastMonth :
    (∀ token ∈ tokenize "M/MM y, k:s.S".toList, token.Numeric) ∧
      Separated (tokenize "M/MM y, k:s.S".toList) ∧
      (∃ pieces, List.Forall₂ Token.Admits (tokenize "M/MM y, k:s.S".toList) pieces ∧
        pieces.flatten = "7/02 2023, 24:5.9".toList ∧
          Date.ofFields (fieldsOf .epoch (readings (tokenize "M/MM y, k:s.S".toList) pieces)) =
            .ok ⟨1675209605900, by decide⟩) ∧
      parse "7/02 2023, 24:5.9" "M/MM y, k:s.S" { reference := .date .epoch } =
        .ok ⟨1675209605900, by decide⟩ := by
  have hs : ∀ token ∈ tokenize "M/MM y, k:s.S".toList, token.Numeric := by decide
  have hsep : Separated (tokenize "M/MM y, k:s.S".toList) := by decide
  have hpieces : ∃ pieces, List.Forall₂ Token.Admits (tokenize "M/MM y, k:s.S".toList) pieces ∧
      pieces.flatten = "7/02 2023, 24:5.9".toList ∧
        Date.ofFields (fieldsOf .epoch (readings (tokenize "M/MM y, k:s.S".toList) pieces)) =
          .ok ⟨1675209605900, by decide⟩ :=
    ⟨[['7'], ['/'], ['0', '2'], [' '], ['2', '0', '2', '3'], [','], [' '], ['2', '4'], [':'],
      ['5'], ['.'], ['9']], by decide +kernel, by decide, by decide +kernel⟩
  exact ⟨hs, hsep, hpieces, (parse_eq_ok_iff_pieces hs hsep "7/02 2023, 24:5.9").2 hpieces⟩

end

end DatePattern

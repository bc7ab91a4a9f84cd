import DatePattern.Pattern.Parse
import DatePattern.Proofs.Date.Construction
import DatePattern.Proofs.Locale.Recognition
import DatePattern.Proofs.Pattern.Writing
import DatePattern.Proofs.Text.Digits

/-! # Reading back what a date shows

Reading a slot on the text that a date shows in it takes exactly that text, if the text goes on with
a character that ends the slot, and enters the values of the date in the draft (`Slot.echo`).  A
whole list of tokens is read back slot by slot (`readTokens_render`): what remains to be asked about
a pattern is only which values its slots enter, in which order. -/

namespace DatePattern

/-! ### Numbers -/

/-- What is read is decided by the run of digits at the cursor. -/
theorem readNumber_run {field : Field} {span : DigitSpan} {run tail : List Char}
    (hne : run ++ tail ≠ []) (hd : ∀ c ∈ run, c.isDigit)
    (ht : ∀ c ∈ tail.head?, c.isDigit = false) (position : Nat) :
    readNumber field span ⟨position, some (run ++ tail)⟩ =
      match span.mismatch? run.length with
      | some expected => .error (.digitCount field expected run.length position)
      | none =>
        let digits := run.take (span.taken run.length)
        if digits = [] then .error (.missingDigits field position)
        else if maxNumber < numeralValue digits then .error (.numberTooLarge field position)
        else .ok (numeralValue digits, digits.length) := by
  have hrest : Cursor.rest ⟨position, some (run ++ tail)⟩ = run ++ tail := rfl
  cases hspan : span.mismatch? run.length with
  | some expected => simp only [readNumber, hrest, digitRun_append hd ht, if_neg hne, hspan]
  | none => simp only [readNumber, hrest, digitRun_append hd ht, if_neg hne, hspan]

/-- A run of so many digits is what the span takes. -/
def DigitSpan.Admits (span : DigitSpan) (run : Nat) : Prop :=
  span.mismatch? run = none ∧ span.taken run = run

theorem readNumber_append {field : Field} {span : DigitSpan} {digits tail : List Char}
    {position : Nat} (hne : digits ≠ []) (hd : ∀ c ∈ digits, c.isDigit)
    (ht : ∀ c ∈ tail.head?, c.isDigit = false) (hspan : span.Admits digits.length)
    (hmax : numeralValue digits ≤ maxNumber) :
    readNumber field span ⟨position, some (digits ++ tail)⟩ =
      .ok (numeralValue digits, digits.length) := by
  rw [readNumber_run (List.append_ne_nil_of_left_ne_nil hne tail) hd ht]
  simp only [hspan.1, hspan.2, List.take_length]
  rw [if_neg hne, if_neg (Nat.not_lt.2 hmax)]

/-- A number fits in so many digits: a single digit place stands for any number of them. -/
def Fits (len value : Nat) : Prop := len = 1 ∨ 1 ≤ len ∧ value < 10 ^ len

theorem admits_padded {len value : Nat} (h : Fits len value) :
    (DigitSpan.ofLength len).Admits (padded len value).length := by
  unfold DigitSpan.ofLength
  split
  · exact ⟨rfl, rfl⟩
  · have hlen := length_padded_of_lt (h.resolve_left ‹_›).1 (h.resolve_left ‹_›).2
    exact ⟨by rw [DigitSpan.mismatch?, if_pos hlen], by rw [DigitSpan.taken, hlen]⟩

theorem readNumber_padded {field : Field} {len value : Nat} (hfit : Fits len value)
    (hmax : value ≤ maxNumber) {tail : List Char} (ht : ∀ c ∈ tail.head?, c.isDigit = false)
    (position : Nat) :
    readNumber field (.ofLength len) ⟨position, some (padded len value ++ tail)⟩ =
      .ok (value, (padded len value).length) := by
  rw [readNumber_append (padded_ne_nil _ _) (fun _ => isDigit_of_mem_padded) ht
    (admits_padded hfit) (by rwa [numeralValue_padded]), numeralValue_padded]

theorem readName_append {locale : Option Locale} {field : NameField} {name tail : List Char}
    {index : Nat} (hne : name ≠ [])
    (h : field.recognize locale (name ++ tail) = some (index, name.length)) (position : Nat) :
    readName locale field ⟨position, some (name ++ tail)⟩ = .ok (index, name.length) := by
  have hrest : Cursor.rest ⟨position, some (name ++ tail)⟩ = name ++ tail := rfl
  rw [readName, hrest, if_neg (by simp [hne]), h]

/-! ### Slots -/

/-- What the slot shows of the date tells its value: all digits of a number are shown, and no name
is a single letter that several months share. -/
def Slot.Legible (d : Date) : Slot → Prop
  | .year len => len = 1 ∨ 4 ≤ len ∧ yearOfEra d.year < 10 ^ len
  | .number field len => field = .dayOfYear → len ≠ 2
  | .fraction _ => True
  | .name field width => field = .month → width ≠ .narrow

/-- The character does not belong to what the slot shows. -/
def Slot.EndsAt (c : Char) : Slot → Prop
  | .name _ _ => c ∈ separators
  | _ => c.isDigit = false

/-- The draft with the value that the date shows in a slot. -/
def Slot.echo (d : Date) (draft : Draft) : Slot → Draft
  | .year _ => draft.supplyYear (yearOfEra d.year)
  | .number .month _ => draft.supplyMonth d.month
  | .number .day _ => draft.supplyDay d.day
  | .number .dayOfYear _ => (draft.supplyMonth d.month).supplyDay d.day
  | .number .hour12 _ | .number .hour11 _ => { draft with hours12 := some (halfDayHour d.hours) }
  | .number .hour23 _ | .number .hour24 _ => { draft with hours := d.hours }
  | .number .minute _ => { draft with minutes := d.minutes }
  | .number .second _ => { draft with seconds := d.seconds }
  | .fraction len =>
    { draft with milliseconds := d.milliseconds / fractionUnit len * fractionUnit len }
  | .name field _ => field.enter draft (field.index d)

section
variable (d : Date) (draft : Draft)

theorem yearOfEra_le_maxNumber : yearOfEra d.year ≤ maxNumber := by
  have hy := d.year_bounds
  unfold yearOfEra maxNumber
  split <;> omega

theorem NumberField.value_mem_bounds (field : NumberField)
    (hyear : field = .dayOfYear → draft.year = d.year) :
    (field.bounds draft).1 ≤ field.value d ∧ field.value d ≤ (field.bounds draft).2 := by
  obtain ⟨hh, hm, hs, -⟩ := d.isValid_clock
  change d.hours < 24 at hh
  change d.minutes < 60 at hm
  change d.seconds < 60 at hs
  have hmonth := d.month_lt
  have hday := d.one_le_day
  have hlast := d.day_le_monthLength.trans (monthLength_le d.year hmonth)
  cases field with
  | dayOfYear =>
      have hle := dayOfYear_le_yearLength d.year hmonth d.day_le_monthLength
      rw [bounds, hyear rfl, value, Date.dayOfYear]
      exact ⟨hday.trans (Nat.le_add_left _ _), hle⟩
  | hour12 =>
      simp only [bounds, value, halfDayHour]
      split <;> omega
  | hour24 =>
      simp only [bounds, value, fullDayHour]
      split <;> omega
  | _ =>
      simp only [bounds, value]
      omega

theorem NumberField.value_fits {field : NumberField} {len : Nat}
    (hs : Slot.Supported (.number field len)) (hl : Slot.Legible d (.number field len)) :
    Fits len (field.value d) := by
  have hv := field.value_mem_bounds d { Draft.ofReference d with year := d.year } (fun _ => rfl)
  obtain ⟨hpos, hlen⟩ := hs
  rcases Nat.lt_or_ge 1 len with h | h
  · refine .inr ⟨hpos, ?_⟩
    cases field with
    | dayOfYear =>
        have hy := yearLength_spec d.year
        have hlen3 : len = 3 := by
          have := hl rfl
          simp only [maxLength] at hlen
          omega
        simp only [bounds] at hv
        subst hlen3
        omega
    | _ =>
        have hlen2 : len = 2 := by
          simp only [maxLength] at hlen
          omega
        simp only [bounds] at hv
        subst hlen2
        omega
  · exact .inl (by omega)

/-- The number that the date shows in a field enters the value of the date. -/
theorem NumberField.enter?_value {field : NumberField} {len : Nat}
    (hyear : field = .dayOfYear → draft.year = d.year) :
    field.enter? draft (field.value d) = some (Slot.echo d draft (.number field len)) := by
  have hh : d.hours < 24 := d.isValid_clock.1
  cases field with
  | dayOfYear =>
      rw [enter?, hyear rfl, value, Date.dayOfYear, monthDayOfOrdinal_dayOfYear d.year d.month_lt
        d.one_le_day d.day_le_monthLength]
      rfl
  | hour24 =>
      have h : fullDayHour d.hours % 24 = d.hours := by
        unfold fullDayHour
        split <;> omega
      simp only [enter?, value, Slot.echo, h]
  | month => simp [enter?, value, Slot.echo]
  | _ => rfl

theorem NameField.index_lt (field : NameField) : field.index d < field.count := by
  cases field with
  | era =>
      simp only [index, count, Era.ofYear]
      split <;> decide
  | month => exact d.month_lt
  | weekday =>
      simp only [index, count, Date.weekday]
      omega
  | dayPeriod =>
      simp only [index, count, DayPeriod.ofHours]
      split <;> decide

theorem renderYear_eq_some {len year : Nat} (h : len = 1 ∨ 4 ≤ len) {text : List Char}
    (hshown : renderYear len year = some text) : text = padded len year := by
  rcases h with rfl | h
  · cases hshown
    rw [padded_one]
  · unfold renderYear at hshown
    split at hshown
    case h_4 => exact (paddedTo?_eq_some_iff.1 hshown).2
    all_goals omega

theorem length_padded_fraction {len : Nat} (hs : 1 ≤ len ∧ len ≤ 3) :
    (padded len (d.milliseconds / fractionUnit len)).length = len := by
  have hms : d.milliseconds < 1000 := d.isValid_clock.2.2.2
  apply length_padded_of_lt hs.1
  obtain ⟨h1, h3⟩ := hs
  rw [fractionUnit, Nat.pow_eq]
  interval_cases len <;> omega

theorem admits_fraction {len : Nat} (hs : 1 ≤ len ∧ len ≤ 3) : (fractionSpan len).Admits len := by
  obtain ⟨h1, h3⟩ := hs
  interval_cases len <;> exact ⟨rfl, rfl⟩

end

/-! ### Reading a slot back -/

section
variable {locale : Option Locale} (d : Date) (draft : Draft) {shown tail : List Char}

theorem Slot.read_padded_year {len value : Nat} (hfit : Fits len value)
    (hmax : value ≤ maxNumber) (ht : ∀ c ∈ tail.head?, c.isDigit = false) (position : Nat) :
    (Slot.year len).read locale ⟨position, some (padded len value ++ tail)⟩ draft =
      .ok ((padded len value).length, draft.supplyYear
        (if len = 2 then nearestYear value draft.referenceYear else value)) := by
  simp only [Slot.read]
  rw [readNumber_padded hfit hmax ht position]
  rfl

theorem Slot.read_year {len : Nat} (h : len = 1 ∨ 4 ≤ len ∧ yearOfEra d.year < 10 ^ len)
    (hshown : (Slot.year len).render (locale.getD .english) d = some shown)
    (ht : ∀ c ∈ tail.head?, c.isDigit = false) (position : Nat) :
    (Slot.year len).read locale ⟨position, some (shown ++ tail)⟩ draft =
      .ok (shown.length, (Slot.year len).echo d draft) := by
  have hfit : Fits len (yearOfEra d.year) := h.imp_right fun h => ⟨by omega, h.2⟩
  have hlen : len ≠ 2 := by omega
  obtain rfl := renderYear_eq_some (h.imp_right And.left) hshown
  rw [read_padded_year draft hfit (yearOfEra_le_maxNumber d) ht position, if_neg hlen]
  rfl

theorem Slot.read_fitting_number {field : NumberField} {len : Nat}
    (hfit : Fits len (field.value d)) (hyear : field = .dayOfYear → draft.year = d.year)
    (hshown : (Slot.number field len).render (locale.getD .english) d = some shown)
    (ht : ∀ c ∈ tail.head?, c.isDigit = false) (position : Nat) :
    (Slot.number field len).read locale ⟨position, some (shown ++ tail)⟩ draft =
      .ok (shown.length, (Slot.number field len).echo d draft) := by
  have hv := field.value_mem_bounds d draft hyear
  have hmax : field.value d ≤ maxNumber := by
    have hy := yearLength_spec draft.year
    have hb : (field.bounds draft).2 ≤ 366 := by
      cases field <;> simp only [NumberField.bounds] <;> omega
    unfold maxNumber
    omega
  obtain ⟨-, rfl⟩ := paddedTo?_eq_some_iff.1 hshown
  rw [Slot.read, readNumber_padded hfit hmax ht position]
  simp only [bind, Except.bind]
  rw [if_neg (by omega), NumberField.enter?_value d draft hyear]

theorem Slot.read_number {field : NumberField} {len : Nat}
    (hs : Slot.Supported (.number field len)) (hl : Slot.Legible d (.number field len))
    (hyear : field = .dayOfYear → draft.year = d.year)
    (hshown : (Slot.number field len).render (locale.getD .english) d = some shown)
    (ht : ∀ c ∈ tail.head?, c.isDigit = false) (position : Nat) :
    (Slot.number field len).read locale ⟨position, some (shown ++ tail)⟩ draft =
      .ok (shown.length, (Slot.number field len).echo d draft) :=
  read_fitting_number d draft (NumberField.value_fits d hs hl) hyear hshown ht position

theorem Slot.read_fraction {len : Nat} (hs : 1 ≤ len ∧ len ≤ 3)
    (hshown : (Slot.fraction len).render (locale.getD .english) d = some shown)
    (ht : ∀ c ∈ tail.head?, c.isDigit = false) (position : Nat) :
    (Slot.fraction len).read locale ⟨position, some (shown ++ tail)⟩ draft =
      .ok (shown.length, (Slot.fraction len).echo d draft) := by
  have hms : d.milliseconds < 1000 := d.isValid_clock.2.2.2
  have hmax : d.milliseconds / fractionUnit len ≤ maxNumber :=
    (Nat.div_le_self _ _).trans (by unfold maxNumber; omega)
  have hspan : (fractionSpan len).Admits
      (padded len (d.milliseconds / fractionUnit len)).length := by
    rw [length_padded_fraction d hs]
    exact admits_fraction hs
  obtain ⟨-, rfl⟩ := paddedTo?_eq_some_iff.1 hshown
  rw [Slot.read, readNumber_append (padded_ne_nil _ _) (fun _ => isDigit_of_mem_padded) ht hspan
    (by rwa [numeralValue_padded]), numeralValue_padded]
  rfl

/-- A name read back enters what the name of the date would; a weekday enters nothing. -/
theorem Slot.read_name (hl : locale ∈ [none, some Locale.english, some Locale.german])
    {field : NameField} {width : Width} (hw : field = .month → width ≠ .narrow)
    (hshown : (Slot.name field width).render (locale.getD .english) d = some shown)
    (ht : ∀ c ∈ tail.head?, c ∈ separators) (position : Nat) :
    (Slot.name field width).read locale ⟨position, some (shown ++ tail)⟩ draft =
      .ok (shown.length, (Slot.name field width).echo d draft) := by
  have hback := field.readsBack hl hw _ (field.index_lt d)
  obtain ⟨found, hfound, hrec⟩ := hback.recognize ht
  cases hshown
  rw [Slot.read, readName_append hback.1 hrec position]
  simp only [bind, Except.bind, echo]
  cases field with
  | weekday => rfl
  | _ => rw [hfound (by simp)]

/-- A slot reads what the date shows in it, and enters what the date has there.  The ordinal of a
day is only understood when the year of the date has been read before it. -/
theorem Slot.read_render (hl : locale ∈ [none, some Locale.english, some Locale.german])
    {slot : Slot} (hs : slot.Supported) (hlegible : slot.Legible d)
    (hyear : ∀ len, slot = .number .dayOfYear len → draft.year = d.year)
    (hshown : slot.render (locale.getD .english) d = some shown)
    (ht : ∀ c ∈ tail.head?, slot.EndsAt c) (position : Nat) :
    slot.read locale ⟨position, some (shown ++ tail)⟩ draft =
      .ok (shown.length, slot.echo d draft) := by
  cases slot with
  | year len => exact read_year d draft hlegible hshown ht position
  | number field len =>
      exact read_number d draft hs hlegible (fun h => hyear len (by rw [h])) hshown ht position
  | fraction len => exact read_fraction d draft hs hshown ht position
  | name field width => exact read_name d draft hl hlegible hshown ht position

end

/-! ### Reading tokens back -/

/-- The character does not belong to what the field shows. -/
def Token.EndsAt (c : Char) : Token → Prop
  | .field symbol len => if symbol.ShowsName len then c ∈ separators else c.isDigit = false
  | _ => True

/-- What the field shows ends where the tokens after it begin: there are none, or the next stands
for itself and begins with a character that ends the field. -/
def Token.EndsBefore (token : Token) : List Token → Prop
  | [] => True
  | next :: _ => ¬ next.IsField ∧ ∃ c ∈ next.literalText.head?, token.EndsAt c

/-- Every field ends where the tokens after it begin. -/
def Separated : List Token → Prop
  | [] => True
  | token :: rest => (token.IsField → token.EndsBefore rest) ∧ Separated rest

instance (c : Char) : ∀ token : Token, Decidable (token.EndsAt c)
  | .field symbol len =>
    inferInstanceAs (Decidable (if symbol.ShowsName len then c ∈ separators else c.isDigit = false))
  | .literal _ | .escapedQuote | .quoted _ | .unclosed _ => .isTrue trivial

instance (token : Token) : ∀ tokens : List Token, Decidable (token.EndsBefore tokens)
  | [] => .isTrue trivial
  | next :: _ =>
    -- by the first character alone, not by a search through all characters
    have : Decidable (∃ c ∈ next.literalText.head?, token.EndsAt c) :=
      decidable_of_iff (next.literalText.head?.any fun c => token.EndsAt c)
        (by simp [Option.any_eq_true])
    inferInstanceAs (Decidable (¬ next.IsField ∧ ∃ c ∈ next.literalText.head?, token.EndsAt c))

instance decidableSeparated : ∀ tokens : List Token, Decidable (Separated tokens)
  | [] => .isTrue trivial
  | token :: rest =>
    have := decidableSeparated rest
    inferInstanceAs (Decidable ((token.IsField → token.EndsBefore rest) ∧ Separated rest))

/-- A character ends what a field shows when it ends what its slot shows. -/
theorem Token.endsAt_iff {token : Token} {slot : Slot} (h : token.slot? = some slot) {c : Char} :
    token.EndsAt c ↔ slot.EndsAt c := by
  obtain ⟨symbol, len, rfl, hslot⟩ := exists_symbol_of_slot? h
  have hname := Symbol.showsName_iff hslot
  rw [EndsAt]
  cases slot with
  | name field width => rw [if_pos (hname.2 ⟨field, width, rfl⟩), Slot.EndsAt]
  | _ =>
      rw [if_neg (by simp [hname]), Slot.EndsAt]
      simp

/-- A token after a field that ends there stands for a text that begins with such an end. -/
theorem Token.EndsBefore.literal {token next : Token} {rest : List Token}
    (h : token.EndsBefore (next :: rest)) {slot : Slot} (hslot : token.slot? = some slot) :
    next.slot? = none ∧ ∃ c text, next.literalText = c :: text ∧ slot.EndsAt c := by
  obtain ⟨hnext, c, hc, hends⟩ := h
  obtain ⟨text, htext⟩ := List.head?_eq_some_iff.1 hc
  exact ⟨slot?_eq_none_iff.2 hnext, c, text, htext, (endsAt_iff hslot).1 hends⟩

theorem Separated.endsBefore {token : Token} {rest : List Token} (h : Separated (token :: rest))
    {slot : Slot} (hslot : token.slot? = some slot) : token.EndsBefore rest :=
  h.1 (Token.isSome_slot?_iff.1 (by rw [hslot]; rfl))

/-- The draft with what the date shows in some slots, one after the other. -/
def echo (d : Date) (draft : Draft) (slots : List Slot) : Draft := slots.foldl (Slot.echo d) draft

theorem echo_append (d : Date) (draft : Draft) (before after : List Slot) :
    echo d draft (before ++ after) = echo d (echo d draft before) after := List.foldl_append

theorem Cursor.advance_append (position : Nat) (piece tail : List Char) :
    Cursor.advance ⟨position, some (piece ++ tail)⟩ piece.length =
      ⟨position + byteLength piece, some tail⟩ := by
  simp [advance, rest]

/-- A token with a slot takes what the slot takes. -/
theorem Token.read_of_slot {locale : Option Locale} {token : Token} {slot : Slot}
    (htoken : token.slot? = some slot) {position : Nat} {piece tail : List Char}
    {draft entered : Draft}
    (h : slot.read locale ⟨position, some (piece ++ tail)⟩ draft = .ok (piece.length, entered)) :
    token.read locale ⟨position, some (piece ++ tail)⟩ draft =
      .ok (⟨position + byteLength piece, some tail⟩, entered) := by
  rw [Token.read, htoken, ← Cursor.advance_append]
  simp only [h, bind, Except.bind]

theorem Token.read_of_slot_alone {locale : Option Locale} {token : Token} {slot : Slot}
    (htoken : token.slot? = some slot) {position : Nat} {piece : List Char}
    {draft entered : Draft}
    (h : slot.read locale ⟨position, some piece⟩ draft = .ok (piece.length, entered)) :
    token.read locale ⟨position, some piece⟩ draft =
      .ok (⟨position + byteLength piece, some []⟩, entered) := by
  have happend : slot.read locale ⟨position, some (piece ++ [])⟩ draft =
      .ok (piece.length, entered) := by rwa [List.append_nil]
  have htaken := read_of_slot htoken happend
  rwa [List.append_nil] at htaken

theorem Token.read_of_slot_error {locale : Option Locale} {token : Token} {slot : Slot}
    (htoken : token.slot? = some slot) {cursor : Cursor} {draft : Draft} {cause : ParseError}
    (h : slot.read locale cursor draft = .error cause) :
    token.read locale cursor draft = .error cause := by
  rw [Token.read, htoken]
  simp only [h, bind, Except.bind]

theorem readLiteral_append (position : Nat) (expected tail : List Char) :
    readLiteral expected ⟨position, some (expected ++ tail)⟩ = .ok expected.length := by
  have hprefix : expected.isPrefixOf (expected ++ tail) = true := by simp
  simp [readLiteral, hprefix]

section
variable {locale : Option Locale} (hl : locale ∈ [none, some Locale.english, some Locale.german])
  (d : Date)

/-- What follows a field in the text that a date shows ends the field. -/
theorem Separated.endsAt {token : Token} {rest : List Token} (h : Separated (token :: rest))
    {slot : Slot} (hslot : token.slot? = some slot) {shown : List Char}
    (hshown : renderTokens locale d rest = some shown) : ∀ c ∈ shown.head?, slot.EndsAt c := by
  have hends := h.endsBefore hslot
  cases rest with
  | nil =>
      cases hshown
      simp
  | cons next later =>
      obtain ⟨hnext, c, text, htext, hc⟩ := hends.literal hslot
      obtain ⟨piece, tail, hpiece, -, rfl⟩ := renderTokens_cons_eq_some_iff.1 hshown
      rw [Token.render, hnext, htext] at hpiece
      cases hpiece
      intro c' hc'
      cases hc'
      exact hc

include hl in
/-- A token reads what the date shows for it, and its slot, if it leaves one, enters what the date
has there. -/
theorem Token.read_render {token : Token} {draft : Draft} {piece tail : List Char}
    (hpiece : token.render locale d = some piece)
    (h : ∀ slot ∈ token.slot?, slot.Legible d ∧
      (∀ len, slot = .number .dayOfYear len → draft.year = d.year) ∧
        ∀ c ∈ tail.head?, slot.EndsAt c) (position : Nat) :
    token.read locale ⟨position, some (piece ++ tail)⟩ draft =
      .ok (⟨position + byteLength piece, some tail⟩, echo d draft token.slot?.toList) := by
  cases hslot : token.slot? with
  | none =>
      rw [render, hslot] at hpiece
      cases hpiece
      simp only [Token.read, hslot, readLiteral_append, ← Cursor.advance_append]
      rfl
  | some slot =>
      rw [render, hslot] at hpiece
      obtain ⟨hlegible, hyear, hends⟩ := h slot hslot
      exact read_of_slot hslot (Slot.read_render d draft hl (supported_of_slot? hslot) hlegible
        hyear hpiece hends position)

include hl in
/-- The text that a date shows for some tokens is read to its end, and every slot enters what the
date has there. -/
theorem readTokens_render : ∀ (tokens : List Token) (draft : Draft) {shown : List Char}
    (position : Nat), renderTokens locale d tokens = some shown →
    Separated tokens → (∀ slot ∈ slotsOf tokens, slot.Legible d) →
      (∀ before len after, slotsOf tokens = before ++ .number .dayOfYear len :: after →
        (echo d draft before).year = d.year) →
      readTokens locale tokens ⟨position, some shown⟩ draft =
        .ok (⟨position + byteLength shown, some []⟩, echo d draft (slotsOf tokens))
  | [], draft, shown, position, hshown, _, _, _ => by
      cases hshown
      rfl
  | token :: rest, draft, shown, position, hshown, hsep, hlegible, hyear => by
      obtain ⟨piece, tail, hpiece, htail, rfl⟩ := renderTokens_cons_eq_some_iff.1 hshown
      rw [slotsOf_cons] at hlegible hyear ⊢
      have hslot : ∀ slot ∈ token.slot?, slot.Legible d ∧
          (∀ len, slot = .number .dayOfYear len → draft.year = d.year) ∧
            ∀ c ∈ tail.head?, slot.EndsAt c := by
        intro slot hslot
        refine ⟨?_, ?_, hsep.endsAt d hslot htail⟩
        · exact hlegible slot (List.mem_append_left _ (Option.mem_toList.2 hslot))
        · rintro len rfl
          exact hyear [] len (slotsOf rest) (by rw [hslot]; rfl)
      have hread := Token.read_render hl d hpiece hslot position
      have ih := readTokens_render rest (echo d draft token.slot?.toList)
        (position + byteLength piece) htail hsep.2
        (fun slot hslot => hlegible slot (List.mem_append_right _ hslot))
        (fun before len after hsplit => by
          rw [← echo_append]
          exact hyear _ len after (by rw [hsplit, List.append_assoc]))
      rw [readTokens, hread]
      simp only [bind, Except.bind]
      rw [ih, byteLength_append, Nat.add_assoc, echo_append]

end

end DatePattern

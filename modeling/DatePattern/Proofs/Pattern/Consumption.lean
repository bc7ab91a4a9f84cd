import DatePattern.Pattern.Options
import DatePattern.Proofs.Text.Boundary
import Mathlib.Data.List.Forall2
import Mathlib.Data.List.TakeWhile

/-! # What tokens take from a text

A reader counts characters, and the cursor is advanced by their bytes.  Here the count is seen to
be that of a piece which really stands at the cursor: digits, the letters of a name in any case, or
the text that a token stands for (`Token.Accepts`).

* `Token.read_takes`: the piece that a token takes.
* `parseTokens_eq_ok_iff_run`: a text is read when its tokens take all of it. -/

namespace DatePattern

/-! ### Reading at a cursor -/

theorem bind_eq_ok {ε α β : Type} {x : Except ε α} {f : α → Except ε β} {b : β} :
    x >>= f = .ok b ↔ ∃ a, x = .ok a ∧ f a = .ok b := by
  cases x with
  | ok a => simp [bind, Except.bind]
  | error e => simp [bind, Except.bind]

/-- What can be read at a cursor is left there. -/
theorem Cursor.rest?_of_rest_ne_nil {cursor : Cursor} (h : cursor.rest ≠ []) :
    cursor.rest? = some cursor.rest := by
  cases hrest : cursor.rest? with
  | none => simp [rest, hrest] at h
  | some text => simp [rest, hrest]

/-! ### Numbers -/

/-- The span may take so many digits. -/
def DigitSpan.Allows (count : Nat) : DigitSpan → Prop
  | exactly n => count = n
  | atMost n => count ≤ n
  | any => True

theorem DigitSpan.allows_of_mismatch? {span : DigitSpan} {run : Nat}
    (h : span.mismatch? run = none) : span.Allows (min (span.taken run) run) := by
  cases span with
  | exactly n =>
      have hrun : run = n := by
        rw [mismatch?] at h
        split at h
        · assumption
        · contradiction
      rw [Allows, taken, hrun, Nat.min_self]
  | atMost n =>
      rw [Allows, taken]
      omega
  | any => trivial

/-- A number that was read is that of digits which stand at the cursor. -/
theorem readNumber_eq_ok {field : Field} {span : DigitSpan} {cursor : Cursor} {value taken : Nat}
    (h : readNumber field span cursor = .ok (value, taken)) :
    ∃ digits tail, cursor.rest? = some (digits ++ tail) ∧ taken = digits.length ∧ digits ≠ [] ∧
      (∀ c ∈ digits, c.isDigit) ∧ span.Allows digits.length ∧ value = numeralValue digits ∧
        value ≤ maxNumber := by
  unfold readNumber at h
  split at h
  · contradiction
  rename_i hrest
  dsimp only at h
  split at h
  · contradiction
  rename_i hspan
  split at h
  · contradiction
  rename_i hne
  split at h
  · contradiction
  rename_i hmax
  obtain ⟨rfl, rfl⟩ := Prod.mk.inj (Except.ok.inj h)
  have hprefix : (digitRun cursor.rest).take (span.taken (digitRun cursor.rest).length) <+:
      cursor.rest := (List.take_prefix _ _).trans (List.takeWhile_prefix _)
  obtain ⟨tail, htail⟩ := hprefix
  refine ⟨_, tail, ?_, rfl, hne, ?_, ?_, rfl, Nat.not_lt.1 hmax⟩
  · rw [htail, Cursor.rest?_of_rest_ne_nil hrest]
  · intro c hc
    exact List.mem_takeWhile_imp (List.mem_of_mem_take hc)
  · rw [List.length_take]
    exact DigitSpan.allows_of_mismatch? hspan

/-! ### Names -/

/-- The names under which a field is recognized, single initials included. -/
def NameField.spellings (field : NameField) (locale : Option Locale) : List (List Char) :=
  (field.pool locale).map Name.text ++ field.initials.map fun (initial, _) => [initial]

/-- The piece is one of the names of the field, letter by letter, case aside. -/
def NameField.Spelled (field : NameField) (locale : Option Locale) (piece : List Char) : Prop :=
  ∃ name ∈ field.spellings locale, List.Forall₂ (fun c n => sameLetter c n = true) piece name

/-- A name that begins a text is spelled by the characters that it takes. -/
theorem spelled_of_beginsWith : ∀ {text name : List Char}, beginsWith text name = true →
    ∃ piece tail, text = piece ++ tail ∧
      List.Forall₂ (fun c n => sameLetter c n = true) piece name
  | text, [], _ => ⟨[], text, rfl, .nil⟩
  | [], _ :: _, h => by simp [beginsWith] at h
  | c :: text, n :: name, h => by
      rw [beginsWith, Bool.and_eq_true] at h
      obtain ⟨piece, tail, rfl, hpiece⟩ := spelled_of_beginsWith h.2
      exact ⟨c :: piece, tail, rfl, .cons h.1 hpiece⟩

theorem longestMatch_eq_some {text : List Char} {found : Name} : ∀ {names : List Name},
    longestMatch text names = some found → found ∈ names ∧ beginsWith text found.text = true
  | [], h => by simp [longestMatch] at h
  | name :: later, h => by
      rw [longestMatch] at h
      split at h
      · rename_i hname
        split at h
        · rename_i other hother
          split at h
          · cases h
            exact (longestMatch_eq_some hother).imp_left (List.mem_cons_of_mem _)
          · cases h
            exact ⟨List.mem_cons_self, hname⟩
        · cases h
          exact ⟨List.mem_cons_self, hname⟩
      · exact (longestMatch_eq_some h).imp_left (List.mem_cons_of_mem _)

theorem matchInitial_eq_some {text : List Char} {initials : List (Char × Nat)} {index : Nat}
    (h : matchInitial text initials = some index) :
    ∃ c tail initial, text = c :: tail ∧ (initial, index) ∈ initials ∧
      sameLetter c initial = true := by
  cases text with
  | nil => simp [matchInitial] at h
  | cons c tail =>
      rw [matchInitial, Option.map_eq_some_iff] at h
      obtain ⟨⟨initial, found⟩, hfound, rfl⟩ := h
      have hletter := List.find?_some hfound
      exact ⟨c, tail, initial, rfl, List.mem_of_find?_eq_some hfound, hletter⟩

theorem NameField.text_ne_nil_of_mem_pool {field : NameField} {locale : Option Locale}
    {name : Name} (h : name ∈ field.pool locale) : name.text ≠ [] := by
  have hfilter := (List.mem_filter.1 h).2
  simpa using hfilter

/-- A name that was read stands at the cursor. -/
theorem readName_eq_ok {locale : Option Locale} {field : NameField} {cursor : Cursor}
    {index taken : Nat} (h : readName locale field cursor = .ok (index, taken)) :
    ∃ piece tail, cursor.rest? = some (piece ++ tail) ∧ taken = piece.length ∧
      piece ≠ [] ∧ field.Spelled locale piece := by
  unfold readName at h
  split at h
  · contradiction
  rename_i hrest
  split at h
  case h_2 => contradiction
  rename_i found hfound
  cases h
  rw [Cursor.rest?_of_rest_ne_nil hrest]
  rw [NameField.recognize] at hfound
  split at hfound
  · rename_i name hname
    cases hfound
    obtain ⟨hmem, hbegins⟩ := longestMatch_eq_some hname
    obtain ⟨piece, tail, htext, hpiece⟩ := spelled_of_beginsWith hbegins
    have hlength := hpiece.length_eq
    refine ⟨piece, tail, by rw [htext], hlength.symm, ?_, name.text, ?_, hpiece⟩
    · rintro rfl
      exact NameField.text_ne_nil_of_mem_pool hmem (List.length_eq_zero_iff.1 hlength.symm)
    · exact List.mem_append_left _ (List.mem_map_of_mem hmem)
  · obtain ⟨initial, hinitial, heq⟩ := Option.map_eq_some_iff.1 hfound
    cases heq
    obtain ⟨c, tail, letter, htext, hmem, hc⟩ := matchInitial_eq_some hinitial
    refine ⟨[c], tail, by rw [htext]; rfl, rfl, List.cons_ne_nil _ _, [letter], ?_, .cons hc .nil⟩
    exact List.mem_append_right _ (List.mem_map.2 ⟨(letter, index), hmem, rfl⟩)

/-! ### Slots and tokens -/

/-- The field that a slot shows. -/
def Slot.field : Slot → Field
  | .year _ => .year
  | .number field _ => field.field
  | .fraction _ => .millisecond
  | .name field _ => field.field

/-- What a slot may take from a text: ASCII digits, or a name in any case. -/
def Slot.Accepts (locale : Option Locale) (piece : List Char) : Slot → Prop
  | .name field _ => field.Spelled locale piece
  | _ => ∀ c ∈ piece, c.isDigit

/-- What a token may take from a text; a token without a slot takes what it stands for. -/
def Token.Accepts (locale : Option Locale) (token : Token) (piece : List Char) : Prop :=
  match token.slot? with
  | some slot => piece ≠ [] ∧ slot.Accepts locale piece
  | none => piece = token.literalText

theorem Slot.read_eq_ok {locale : Option Locale} {cursor : Cursor} {draft entered : Draft}
    {slot : Slot} {taken : Nat} (h : slot.read locale cursor draft = .ok (taken, entered)) :
    ∃ piece tail, cursor.rest? = some (piece ++ tail) ∧ taken = piece.length ∧
      piece ≠ [] ∧ slot.Accepts locale piece := by
  cases slot with
  | year len =>
      obtain ⟨⟨value, count⟩, hnumber, heq⟩ := bind_eq_ok.1 h
      cases heq
      obtain ⟨digits, tail, hrest, rfl, hne, hdigits, -⟩ := readNumber_eq_ok hnumber
      exact ⟨digits, tail, hrest, rfl, hne, hdigits⟩
  | number field len =>
      obtain ⟨⟨value, count⟩, hnumber, heq⟩ := bind_eq_ok.1 h
      obtain ⟨digits, tail, hrest, rfl, hne, hdigits, -⟩ := readNumber_eq_ok hnumber
      dsimp only at heq
      split at heq
      · contradiction
      split at heq
      · cases heq
        exact ⟨digits, tail, hrest, rfl, hne, hdigits⟩
      · contradiction
  | fraction len =>
      obtain ⟨⟨value, count⟩, hnumber, heq⟩ := bind_eq_ok.1 h
      cases heq
      obtain ⟨digits, tail, hrest, rfl, hne, hdigits, -⟩ := readNumber_eq_ok hnumber
      exact ⟨digits, tail, hrest, rfl, hne, hdigits⟩
  | name field width =>
      obtain ⟨⟨index, count⟩, hname, heq⟩ := bind_eq_ok.1 h
      cases heq
      exact readName_eq_ok hname

theorem readLiteral_eq_ok {expected : List Char} {cursor : Cursor} {taken : Nat}
    (h : readLiteral expected cursor = .ok taken) :
    taken = expected.length ∧ ∃ tail, cursor.rest? = some (expected ++ tail) := by
  unfold readLiteral at h
  split at h
  case h_2 => contradiction
  rename_i rest hrest
  split at h
  · rename_i hprefix
    cases h
    obtain ⟨tail, rfl⟩ := List.isPrefixOf_iff_prefix.1 hprefix
    exact ⟨rfl, tail, hrest⟩
  · contradiction

/-- A token that was read has taken a piece that stands at the cursor. -/
theorem Token.read_takes {locale : Option Locale} {token : Token} {cursor next : Cursor}
    {draft entered : Draft} (h : token.read locale cursor draft = .ok (next, entered)) :
    ∃ piece, cursor.Takes piece next ∧ token.Accepts locale piece := by
  rw [Token.read] at h
  cases hslot : token.slot? with
  | some slot =>
      rw [hslot] at h
      obtain ⟨⟨taken, filled⟩, hread, heq⟩ := bind_eq_ok.1 h
      cases heq
      obtain ⟨piece, tail, hrest, rfl, hne, haccepts⟩ := Slot.read_eq_ok hread
      refine ⟨piece, Cursor.takes_advance hrest, ?_⟩
      rw [Token.Accepts, hslot]
      exact ⟨hne, haccepts⟩
  | none =>
      rw [hslot] at h
      obtain ⟨taken, hread, heq⟩ := bind_eq_ok.1 h
      cases heq
      obtain ⟨rfl, tail, hrest⟩ := readLiteral_eq_ok hread
      refine ⟨token.literalText, Cursor.takes_advance hrest, ?_⟩
      rw [Token.Accepts, hslot]

/-! ### Whole texts -/

theorem parse_eq_parseTokens (text pattern : String) (locale : Option Locale) (reference : Date) :
    parse text pattern { locale, reference := .date reference } =
      parseTokens locale reference (tokenize pattern.toList) text.toList := rfl

theorem Draft.finish_eq_ok_iff {draft : Draft} {d : Date} :
    draft.finish = .ok d ↔ Date.ofFields draft.fields = .ok d := by
  rw [finish]
  cases Date.ofFields draft.fields <;> simp [Except.mapError]

/-- A text is read when its tokens take all of it. -/
theorem parseTokens_eq_ok_iff_run {locale : Option Locale} {reference d : Date}
    {tokens : List Token} {text : List Char} :
    parseTokens locale reference tokens text = .ok d ↔
      ∃ cursor draft, readTokens locale tokens (.start text) (.ofReference reference) =
        .ok (cursor, draft) ∧ cursor.rest = [] ∧ Date.ofFields draft.fields = .ok d := by
  rw [parseTokens, bind_eq_ok]
  simp only [Prod.exists, ← Draft.finish_eq_ok_iff]
  constructor
  · rintro ⟨cursor, draft, hrun, h⟩
    split at h
    · exact ⟨cursor, draft, hrun, ‹_›, h⟩
    · contradiction
  · rintro ⟨cursor, draft, hrun, hrest, h⟩
    exact ⟨cursor, draft, hrun, by rwa [if_pos hrest]⟩

end DatePattern

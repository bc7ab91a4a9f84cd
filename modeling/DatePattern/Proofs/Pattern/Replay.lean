import DatePattern.Proofs.Pattern.Consumption
import DatePattern.Proofs.Pattern.RoundTrip

/-! # Reading a shown text, in any order of its fields

The text that a pattern shows of a date is always read slot by slot; what it comes to can be told
without the text.  Only an ordinal day depends on what was read before it: it is placed in the year
that the draft has by then, if that year has such a day (`Slot.replay`).

* `readTokens_replay`, `parse_format_eq_ok_iff`: reading a shown text is replaying its slots. -/

namespace DatePattern

/-- Enters what the date shows in a slot; none where the year of the draft lacks the ordinal day. -/
def Slot.replay (d : Date) (draft : Draft) : Slot → Option Draft
  | .number .dayOfYear _ =>
    (monthDayOfOrdinal draft.year d.dayOfYear).map fun found =>
      (draft.supplyMonth found.1).supplyDay found.2
  | slot => some (slot.echo d draft)

/-- Enters what the date shows in some slots, one after the other. -/
def replay (d : Date) (draft : Draft) (slots : List Slot) : Option Draft :=
  slots.foldlM (Slot.replay d) draft

section
variable {locale : Option Locale} (d : Date)

theorem Slot.replay_of_ne {slot : Slot} (h : ∀ len, slot ≠ .number .dayOfYear len)
    (draft : Draft) : slot.replay d draft = some (slot.echo d draft) := by
  unfold replay
  split
  · exact absurd rfl (h _)
  · rfl

/-- An ordinal day is read where the year of the draft has it, and refused otherwise. -/
theorem Slot.read_ordinal {len : Nat} (hs : Slot.Supported (.number .dayOfYear len))
    (hl : len ≠ 2) {tail : List Char} (ht : ∀ c ∈ tail.head?, c.isDigit = false)
    {position taken : Nat} {draft entered : Draft} :
    (Slot.number .dayOfYear len).read locale ⟨position, some (padded len d.dayOfYear ++ tail)⟩
        draft = .ok (taken, entered) ↔
      taken = (padded len d.dayOfYear).length ∧
        (Slot.number .dayOfYear len).replay d draft = some entered := by
  have hfit : Fits len d.dayOfYear := NumberField.value_fits d hs fun _ => hl
  have hmax : d.dayOfYear ≤ maxNumber := by
    have hle : d.dayOfYear ≤ yearLength d.year :=
      dayOfYear_le_yearLength d.year d.month_lt d.day_le_monthLength
    have hy := yearLength_spec d.year
    unfold maxNumber
    omega
  have hiff : (monthDayOfOrdinal draft.year d.dayOfYear).isSome ↔
      ¬ (d.dayOfYear < (NumberField.bounds draft .dayOfYear).1 ∨
        (NumberField.bounds draft .dayOfYear).2 < d.dayOfYear) := by
    rw [monthDayOfOrdinal_isSome_iff, NumberField.bounds]
    omega
  rw [Slot.read, readNumber_padded hfit hmax ht position]
  simp only [bind, Except.bind, NumberField.enter?, replay]
  cases hfound : monthDayOfOrdinal draft.year d.dayOfYear with
  | none =>
      rw [hfound] at hiff
      rw [if_pos (not_not.1 fun h => absurd (hiff.2 h) (by decide))]
      simp
  | some found =>
      rw [hfound] at hiff
      rw [if_neg (hiff.1 rfl)]
      simp [eq_comm]

/-- A slot takes what the date shows in it, and enters what replaying it does. -/
theorem Slot.read_replay (hl : locale ∈ [none, some Locale.english, some Locale.german])
    {slot : Slot} (hs : slot.Supported) (hlegible : slot.Legible d) {shown tail : List Char}
    (hshown : slot.render (locale.getD .english) d = some shown)
    (ht : ∀ c ∈ tail.head?, slot.EndsAt c) {position taken : Nat} {draft entered : Draft} :
    slot.read locale ⟨position, some (shown ++ tail)⟩ draft = .ok (taken, entered) ↔
      taken = shown.length ∧ slot.replay d draft = some entered := by
  by_cases hordinal : ∃ len, slot = .number .dayOfYear len
  · obtain ⟨len, rfl⟩ := hordinal
    obtain ⟨-, rfl⟩ := paddedTo?_eq_some_iff.1 hshown
    exact read_ordinal d hs (hlegible rfl) ht
  · have hne : ∀ len, slot ≠ .number .dayOfYear len := fun len h => hordinal ⟨len, h⟩
    rw [read_render d draft hl hs hlegible (fun len h => absurd h (hne len)) hshown ht
      position,
      replay_of_ne d hne]
    simp [eq_comm]

theorem replay_append (draft : Draft) (before after : List Slot) :
    replay d draft (before ++ after) = (replay d draft before).bind (replay d · after) :=
  List.foldlM_append

variable (hl : locale ∈ [none, some Locale.english, some Locale.german])
include hl

theorem Token.read_replay {token : Token} {piece tail : List Char}
    (hpiece : token.render locale d = some piece)
    (h : ∀ slot ∈ token.slot?, slot.Legible d ∧ ∀ c ∈ tail.head?, slot.EndsAt c)
    {position : Nat} {next : Cursor} {draft entered : Draft} :
    token.read locale ⟨position, some (piece ++ tail)⟩ draft = .ok (next, entered) ↔
      next = ⟨position + byteLength piece, some tail⟩ ∧
        replay d draft token.slot?.toList = some entered := by
  rw [← Cursor.advance_append]
  cases hslot : token.slot? with
  | none =>
      rw [render, hslot] at hpiece
      cases hpiece
      rw [Token.read, hslot]
      dsimp only
      rw [readLiteral_append]
      simp [replay, bind, Except.bind, eq_comm]
  | some slot =>
      rw [render, hslot] at hpiece
      obtain ⟨hlegible, hends⟩ := h slot hslot
      have hread : ∀ taken entered, slot.read locale ⟨position, some (piece ++ tail)⟩ draft =
          .ok (taken, entered) ↔ _ := fun taken entered =>
        Slot.read_replay d hl (supported_of_slot? hslot) hlegible hpiece hends
      have hone : replay d draft (some slot).toList = slot.replay d draft := by
        simp [replay]
      rw [Token.read, hslot, hone]
      dsimp only
      rw [bind_eq_ok]
      simp only [Prod.exists, hread]
      constructor
      · rintro ⟨taken, entered, ⟨rfl, hentered⟩, heq⟩
        cases heq
        exact ⟨rfl, hentered⟩
      · rintro ⟨rfl, hentered⟩
        exact ⟨_, entered, ⟨rfl, hentered⟩, rfl⟩

/-- The text that a date shows for some tokens is read to its end, unless a slot refuses what the
date shows in it. -/
theorem readTokens_replay : ∀ {tokens : List Token} {shown : List Char},
    renderTokens locale d tokens = some shown → Separated tokens →
    (∀ slot ∈ slotsOf tokens, slot.Legible d) → ∀ {position : Nat} {last : Cursor}
      {draft final : Draft},
      readTokens locale tokens ⟨position, some shown⟩ draft = .ok (last, final) ↔
        last = ⟨position + byteLength shown, some []⟩ ∧
          replay d draft (slotsOf tokens) = some final
  | [], shown, hshown, _, _, position, last, draft, final => by
      cases hshown
      simp [readTokens, replay, slotsOf, eq_comm]
  | token :: tokens, shown, hshown, hsep, hlegible, position, last, draft, final => by
      obtain ⟨piece, tail, hpiece, htail, rfl⟩ := renderTokens_cons_eq_some_iff.1 hshown
      rw [slotsOf_cons] at hlegible ⊢
      have hslot : ∀ slot ∈ token.slot?, slot.Legible d ∧ ∀ c ∈ tail.head?, slot.EndsAt c :=
        fun slot hslot =>
          ⟨hlegible slot (List.mem_append_left _ (Option.mem_toList.2 hslot)),
            hsep.endsAt d hslot htail⟩
      have hlater : ∀ slot ∈ slotsOf tokens, slot.Legible d := fun slot hslot =>
        hlegible slot (List.mem_append_right _ hslot)
      rw [readTokens, bind_eq_ok, replay_append, Option.bind_eq_some_iff]
      simp only [Prod.exists, Token.read_replay d hl hpiece hslot]
      constructor
      · rintro ⟨next, entered, ⟨rfl, hentered⟩, hrun⟩
        obtain ⟨rfl, hfinal⟩ := (readTokens_replay htail hsep.2 hlater).1 hrun
        refine ⟨?_, entered, hentered, hfinal⟩
        rw [byteLength_append, Nat.add_assoc]
      · rintro ⟨rfl, entered, hentered, hfinal⟩
        refine ⟨_, entered, ⟨rfl, hentered⟩,
          (readTokens_replay htail hsep.2 hlater).2 ⟨?_, hfinal⟩⟩
        rw [byteLength_append, Nat.add_assoc]

/-- The text that a pattern shows of a date is read as the date that its slots come to, when they
are replayed from the reference date on. -/
theorem parse_format_eq_ok_iff {pattern text : String}
    (htext : format (.date d) pattern locale = some text)
    (hsep : Separated (tokenize pattern.toList))
    (hlegible : ∀ slot ∈ slotsOf (tokenize pattern.toList), slot.Legible d)
    {reference e : Date} :
    parse text pattern { locale, reference := .date reference } = .ok e ↔
      ∃ final, replay d (.ofReference reference) (slotsOf (tokenize pattern.toList)) = some final ∧
        Date.ofFields final.fields = .ok e := by
  have hshown := format_eq_some_iff.1 htext
  rw [parse_eq_parseTokens, parseTokens_eq_ok_iff_run]
  constructor
  · rintro ⟨cursor, final, hrun, -, hdate⟩
    exact ⟨final, ((readTokens_replay d hl hshown hsep hlegible).1 hrun).2, hdate⟩
  · rintro ⟨final, hfinal, hdate⟩
    exact ⟨_, final, (readTokens_replay d hl hshown hsep hlegible).2 ⟨rfl, hfinal⟩, rfl, hdate⟩

end

end DatePattern

import DatePattern.Pattern.Format
import DatePattern.Proofs.Pattern.Fields

/-! # Patterns that show a date

Writing a date goes wrong for one cause only, a run of letters of the year that is longer than
padding can be (`format_eq_none_iff`).  No other run of letters that shows a number is nearly as
long (`Slot.Supported`), and all the rest shows a text as it is.  What a pattern shows is what its
tokens show, one after the other (`renderTokens_cons_eq_some_iff`). -/

namespace DatePattern

/-! ### Padding -/

theorem paddedTo?_eq_some_iff {width n : Nat} {text : List Char} :
    paddedTo? width n = some text ↔ width ≤ maxPadding ∧ text = padded width n := by
  unfold paddedTo?
  split
  · simp [*, eq_comm]
  · simp [*]

theorem isSome_paddedTo?_iff {width n : Nat} :
    (paddedTo? width n).isSome ↔ width ≤ maxPadding := by
  unfold paddedTo?
  split <;> simp [*]

theorem isSome_renderYear_iff {len year : Nat} :
    (renderYear len year).isSome ↔ len ≤ maxPadding := by
  unfold renderYear
  split
  · exact iff_of_true rfl (by decide)
  · exact iff_of_true rfl (by decide)
  · exact iff_of_true rfl (by decide)
  · exact isSome_paddedTo?_iff

/-! ### Showing and not showing -/

section
variable {d : Date}

theorem Slot.isSome_render_iff {slot : Slot} (h : slot.Supported) {locale : Locale} :
    (slot.render locale d).isSome ↔ ∀ len, slot = .year len → len ≤ maxPadding := by
  cases slot with
  | year len => simp [render, isSome_renderYear_iff]
  | number field len =>
      have hmax : field.maxLength ≤ maxPadding := by cases field <;> decide
      exact iff_of_true (isSome_paddedTo?_iff.2 (Nat.le_trans h.2 hmax)) (by simp)
  | fraction len =>
      exact iff_of_true (isSome_paddedTo?_iff.2 (Nat.le_trans h.2 (by decide))) (by simp)
  | name field width => exact iff_of_true rfl (by simp)

variable {locale : Option Locale}

theorem Token.isSome_render_iff {token : Token} :
    (token.render locale d).isSome ↔ ∀ len, token = .field .year len → len ≤ maxPadding := by
  simp only [← slot?_eq_year_iff]
  rw [render]
  cases hslot : token.slot? with
  | none => simp
  | some slot => simpa using Slot.isSome_render_iff (supported_of_slot? hslot)

theorem Token.render_of_slot {token : Token} {slot : Slot} (h : token.slot? = some slot) :
    token.render locale d = slot.render (locale.getD .english) d := by
  rw [render, h]

theorem renderTokens_singleton (token : Token) :
    renderTokens locale d [token] = token.render locale d := by
  cases h : token.render locale d <;> simp [renderTokens, h]

/-- Tokens show something together when each of them does. -/
theorem renderTokens_cons_eq_some_iff {token : Token} {tokens : List Token} {text : List Char} :
    renderTokens locale d (token :: tokens) = some text ↔
      ∃ piece rest, token.render locale d = some piece ∧
        renderTokens locale d tokens = some rest ∧ text = piece ++ rest := by
  rw [renderTokens]
  cases token.render locale d with
  | none => simp
  | some piece =>
      cases renderTokens locale d tokens with
      | none => simp
      | some rest => simp [eq_comm]

theorem isSome_renderTokens_iff {tokens : List Token} :
    (renderTokens locale d tokens).isSome ↔
      ∀ len, .field .year len ∈ tokens → len ≤ maxPadding := by
  induction tokens with
  | nil => simp [renderTokens]
  | cons token tokens ih =>
      have hcons : (renderTokens locale d (token :: tokens)).isSome ↔
          (token.render locale d).isSome ∧ (renderTokens locale d tokens).isSome := by
        simp only [Option.isSome_iff_exists, renderTokens_cons_eq_some_iff]
        grind
      rw [hcons, ih, Token.isSome_render_iff]
      grind

end

/-! ### Whole patterns -/

section
variable {d : Date} {pattern : String} {locale : Option Locale}

theorem format_eq_some_iff {text : String} :
    format (.date d) pattern locale = some text ↔
      renderTokens locale d (tokenize pattern.toList) = some text.toList := by
  change (renderTokens locale d (tokenize pattern.toList)).map String.ofList = some text ↔ _
  rw [Option.map_eq_some_iff]
  constructor
  · rintro ⟨shown, hshown, rfl⟩
    rwa [String.toList_ofList]
  · exact fun h => ⟨text.toList, h, String.ofList_toList⟩

/-- A date is written with every pattern that has no run of the year too long to be padded. -/
theorem exists_format_eq_some
    (h : ∀ len, .field .year len ∈ tokenize pattern.toList → len ≤ maxPadding) :
    ∃ text, format (.date d) pattern locale = some text := by
  obtain ⟨shown, hshown⟩ := Option.isSome_iff_exists.1 (isSome_renderTokens_iff.2 h)
  exact ⟨String.ofList shown, format_eq_some_iff.2 (by rwa [String.toList_ofList])⟩

/-- Writing a date goes wrong exactly where a run of the year is too long to be padded. -/
theorem format_eq_none_iff :
    format (.date d) pattern locale = none ↔
      ∃ len, .field .year len ∈ tokenize pattern.toList ∧ maxPadding < len := by
  change (renderTokens locale d (tokenize pattern.toList)).map String.ofList = none ↔ _
  rw [Option.map_eq_none_iff, ← Option.not_isSome_iff_eq_none, isSome_renderTokens_iff]
  simp only [Classical.not_forall, Nat.not_le, exists_prop]

end

end DatePattern

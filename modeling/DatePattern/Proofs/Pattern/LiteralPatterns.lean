import DatePattern.Proofs.Pattern.OrdinalOrder
import DatePattern.Proofs.Pattern.SupportedLengths

/-! # Patterns that stand for themselves

A pattern without a field of a supported length stands for one text, the texts of its tokens put
together.  Every date shows that text, and no other text can be read; what is read is the day of the
reference date at midnight (`parse_fieldless_iff`).

* `readTokens_fieldless_iff`: tokens without a field take their texts, one after the other, and
  leave the draft as it was. -/

namespace DatePattern

/-! ### One token -/

section
variable {token : Token} (h : ¬ token.IsField)
include h

/-- A token that is no field is written as it stands: the letter has nothing to show in its run. -/
theorem Token.render_of_not_isField (locale : Option Locale) (d : Date) :
    token.render locale d = some token.literalText := by
  rw [← renderByLetter_eq]
  cases token with
  | field symbol len =>
      have hnone : symbol.render? (locale.getD .english) d len = none := by
        rw [← Option.not_isSome_iff_eq_none, Symbol.isSome_render?_iff]
        exact h
      rw [renderByLetter, hnone]
      rfl
  | _ => rfl

/-- A token that is no field is read as it stands: the letter has no reading of its run. -/
theorem Token.read_of_not_isField (locale : Option Locale) (cursor : Cursor) (draft : Draft) :
    token.read locale cursor draft = readItself token.literalText cursor draft := by
  rw [← readByLetter_eq]
  cases token with
  | field symbol len =>
      have hnone : symbol.read? locale cursor draft len = none := by
        rw [← Option.not_isSome_iff_eq_none, Symbol.isSome_read?_iff]
        exact h
      rw [readByLetter, hnone]
      rfl
  | _ => rfl

end

/-- A text is read as it stands where it stands. -/
theorem readItself_eq_ok_iff {expected text : List Char} {position : Nat} {next : Cursor}
    {draft entered : Draft} :
    readItself expected ⟨position, some text⟩ draft = .ok (next, entered) ↔
      ∃ tail, text = expected ++ tail ∧ next = ⟨position + byteLength expected, some tail⟩ ∧
        entered = draft := by
  rw [readItself, bind_eq_ok]
  constructor
  · rintro ⟨taken, hread, heq⟩
    obtain ⟨rfl, tail, htail⟩ := readLiteral_eq_ok hread
    obtain rfl : text = expected ++ tail := Option.some.inj htail
    cases heq
    exact ⟨tail, rfl, Cursor.advance_append position expected tail, rfl⟩
  · rintro ⟨tail, rfl, rfl, rfl⟩
    refine ⟨expected.length, readLiteral_append position expected tail, ?_⟩
    rw [Cursor.advance_append]

/-! ### Tokens one after the other -/

/-- The tokens hold no field of a supported length. -/
def Fieldless (tokens : List Token) : Prop := ∀ token ∈ tokens, ¬ token.IsField

instance (tokens : List Token) : Decidable (Fieldless tokens) := by
  unfold Fieldless; infer_instance

theorem fieldless_cons {token : Token} {tokens : List Token} :
    Fieldless (token :: tokens) ↔ ¬ token.IsField ∧ Fieldless tokens := List.forall_mem_cons

/-- Every date shows the texts of the tokens. -/
theorem renderTokens_fieldless {tokens : List Token} (h : Fieldless tokens)
    (locale : Option Locale) (d : Date) :
    renderTokens locale d tokens = some (tokens.flatMap Token.literalText) := by
  induction tokens with
  | nil => rfl
  | cons token tokens ih =>
      obtain ⟨htoken, htokens⟩ := fieldless_cons.1 h
      rw [renderTokens_cons_eq_some_iff]
      exact ⟨_, _, Token.render_of_not_isField htoken locale d, ih htokens, rfl⟩

/-- The tokens are read where their texts stand, and the draft stays as it was. -/
theorem readTokens_fieldless_iff {locale : Option Locale} {draft final : Draft} {last : Cursor} :
    ∀ {tokens : List Token}, Fieldless tokens → ∀ {text : List Char} {position : Nat},
      readTokens locale tokens ⟨position, some text⟩ draft = .ok (last, final) ↔
        ∃ tail, text = tokens.flatMap Token.literalText ++ tail ∧
          last = ⟨position + byteLength (tokens.flatMap Token.literalText), some tail⟩ ∧
          final = draft
  | [], _, text, position => by
      simp [readTokens, eq_comm]
  | token :: tokens, h, text, position => by
      obtain ⟨htoken, htokens⟩ := fieldless_cons.1 h
      rw [readTokens, bind_eq_ok, List.flatMap_cons, byteLength_append, ← Nat.add_assoc]
      -- the first token takes its own text, and the others go on behind it with the same draft
      simp only [Prod.exists, Token.read_of_not_isField htoken, readItself_eq_ok_iff]
      constructor
      · rintro ⟨next, entered, ⟨rest, rfl, rfl, rfl⟩, hrun⟩
        obtain ⟨tail, rfl, hlast⟩ := (readTokens_fieldless_iff htokens).1 hrun
        exact ⟨tail, by rw [List.append_assoc], hlast⟩
      · rintro ⟨tail, rfl, hlast⟩
        refine ⟨_, draft, ⟨_, List.append_assoc _ _ _, rfl, rfl⟩, ?_⟩
        exact (readTokens_fieldless_iff htokens).2 ⟨tail, rfl, hlast⟩

/-! ### Whole texts -/

/-- Where nothing was read, the day of the reference date at midnight is left. -/
theorem ofFields_ofReference_iff {reference d : Date} :
    Date.ofFields (Draft.ofReference reference).fields = .ok d ↔
      d.calendarDay = reference.calendarDay ∧ d.clock = .midnight := by
  have hvalid := reference.isValid_calendarDay
  change Date.ofParts reference.calendarDay .midnight = .ok d ↔ _
  rw [Date.ofParts_eq_ok_iff hvalid.1 hvalid.2.1
    (hvalid.2.2.trans (monthLength_le _ hvalid.1)) (by decide : Clock.midnight.IsValid)]
  rw [CalendarDay.rolledOver_of_le hvalid.2.2]

theorem parseTokens_fieldless_iff {locale : Option Locale} {reference d : Date}
    {tokens : List Token} (h : Fieldless tokens) {text : List Char} :
    parseTokens locale reference tokens text = .ok d ↔
      text = tokens.flatMap Token.literalText ∧
        d.calendarDay = reference.calendarDay ∧ d.clock = .midnight := by
  rw [parseTokens_eq_ok_iff_run, Cursor.start]
  simp only [readTokens_fieldless_iff h]
  constructor
  · rintro ⟨cursor, draft, ⟨tail, rfl, rfl, rfl⟩, hrest, hdate⟩
    obtain rfl : tail = [] := hrest
    exact ⟨List.append_nil _, ofFields_ofReference_iff.1 hdate⟩
  · rintro ⟨rfl, hparts⟩
    exact ⟨_, _, ⟨[], (List.append_nil _).symm, rfl, rfl⟩, rfl, ofFields_ofReference_iff.2 hparts⟩

/-- A pattern without a field of a supported length is one text in both directions.  Every date
shows it, in every locale, and it is the only text that can be read, as the day of the reference
date at midnight. -/
theorem parse_fieldless_iff (pattern : String) (h : Fieldless (tokenize pattern.toList)) :
    ∃ shown : String,
      (∀ (d : Date) (locale : Option Locale), format (.date d) pattern locale = some shown) ∧
      ∀ (locale : Option Locale) (reference : Date), ∃ midnight : Date,
        midnight.calendarDay = reference.calendarDay ∧ midnight.clock = .midnight ∧
        ∀ (text : String) (d : Date),
          parse text pattern { locale, reference := .date reference } = .ok d ↔
            text = shown ∧ d = midnight := by
  refine ⟨String.ofList ((tokenize pattern.toList).flatMap Token.literalText), ?_, ?_⟩
  · intro d locale
    rw [format_eq_some_iff, renderTokens_fieldless h, String.toList_ofList]
  · intro locale reference
    obtain ⟨midnight, hday, hclock⟩ := reference.exists_midnight
    refine ⟨midnight, hday, hclock, fun text d => ?_⟩
    have hparts : (d.calendarDay = reference.calendarDay ∧ d.clock = .midnight) ↔
        d = midnight := by
      rw [← hday, ← hclock]
      constructor
      · exact fun hsame => Date.eq_of_parts hsame.1 hsame.2
      · rintro rfl
        exact ⟨rfl, rfl⟩
    rw [parse_eq_parseTokens, parseTokens_fieldless_iff h, hparts, ← String.toList_inj,
      String.toList_ofList]

/-- Runs of letters of lengths that name no field, two quotes, and quoted text with and without its
end. -/
theorem parse_fieldless_iff_unsupported :
    Fieldless (tokenize "ddd MMMMMM 'at' ''SSSS 'o''c".toList) ∧
      (∀ (d : Date) (locale : Option Locale),
        format (.date d) "ddd MMMMMM 'at' ''SSSS 'o''c" locale =
          some "ddd MMMMMM at 'SSSS o'c") ∧
      ∀ (text : String) (d : Date),
        parse text "ddd MMMMMM 'at' ''SSSS 'o''c" { reference := .date .epoch } = .ok d ↔
          text = "ddd MMMMMM at 'SSSS o'c" ∧ d = .epoch := by
  have hfieldless : Fieldless (tokenize "ddd MMMMMM 'at' ''SSSS 'o''c".toList) := by decide
  obtain ⟨shown, hformat, hparse⟩ := parse_fieldless_iff _ hfieldless
  obtain ⟨midnight, hday, hclock, hiff⟩ := hparse none .epoch
  obtain rfl : midnight = .epoch := Date.eq_of_parts hday hclock
  obtain rfl : "ddd MMMMMM at 'SSSS o'c" = shown := Option.some.inj (hformat .epoch none)
  exact ⟨hfieldless, hformat, hiff⟩

end DatePattern

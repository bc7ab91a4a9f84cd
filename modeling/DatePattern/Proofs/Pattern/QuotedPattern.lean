import DatePattern.Proofs.Pattern.LiteralPatterns
import DatePattern.Proofs.Pattern.Tokenization

/-! # Quoting a text

A text is put into a pattern between two quotes, with its own quotes written twice.  Each quote that
it begins with is then read together with the one before it, as a token of its own, and the last of
them opens the quoted text:

* `tokenize_inQuotes_append`: what comes after the leading quotes is one token;
* `tokenize_inQuotes_replicate`: where nothing comes after them, there is one quote too many.

So quoting says what the text says exactly when the text has some other character
(`literalText_inQuotes_iff`). -/

namespace DatePattern

/-- The text as it is quoted in a pattern. -/
def inQuotes (text : List Char) : List Char := quote :: doubleQuotes text ++ [quote]

/-- The pattern that quotes the text. -/
def quotedPattern (text : String) : String := String.ofList (inQuotes text.toList)

/-- The token is quoted text, or two quotes that stand for one. -/
def Token.IsQuoted : Token → Prop
  | field _ _ | literal _ => False
  | escapedQuote | quoted _ | unclosed _ => True

theorem Token.IsQuoted.not_isField {token : Token} (h : token.IsQuoted) : ¬ token.IsField := by
  intro hfield
  cases token with
  | field symbol len => exact h
  | _ => exact hfield

/-! ### Leading quotes -/

/-- The opening quote and the one after it are read as one quote, and the next one opens. -/
theorem tokenize_inQuotes_quote (text : List Char) :
    tokenize (inQuotes (quote :: text)) = .escapedQuote :: tokenize (inQuotes text) := rfl

theorem tokenize_inQuotes {body : List Char} (hne : body ≠ []) (hhead : body.head? ≠ some quote) :
    tokenize (inQuotes body) = [.quoted body] := by
  have hcanonical : Canonical [.quoted body] := by
    rw [canonical_quoted_cons]
    exact ⟨⟨hne, hhead⟩, canonical_nil, by simp⟩
  have hraw : [Token.quoted body].flatMap Token.raw = inQuotes body := List.flatMap_singleton ..
  rw [← hraw, tokenize_flatMap_raw hcanonical]

/-- The leading quotes are tokens of their own, and what comes after them is one token. -/
theorem tokenize_inQuotes_append (count : Nat) {body : List Char} (hne : body ≠ [])
    (hhead : body.head? ≠ some quote) :
    tokenize (inQuotes (List.replicate count quote ++ body)) =
      List.replicate count .escapedQuote ++ [.quoted body] := by
  induction count with
  | zero => exact tokenize_inQuotes hne hhead
  | succ count ih =>
      rw [List.replicate_succ, List.cons_append, tokenize_inQuotes_quote, ih]
      rfl

/-- Between quotes that hold nothing else the last quote is no closing one. -/
theorem tokenize_inQuotes_replicate (count : Nat) :
    tokenize (inQuotes (List.replicate count quote)) =
      List.replicate (count + 1) .escapedQuote := by
  induction count with
  | zero => rfl
  | succ count ih =>
      rw [List.replicate_succ, tokenize_inQuotes_quote, ih]
      rfl

/-- Every text is some quotes and a rest that begins with none. -/
theorem exists_leadingQuotes (text : List Char) :
    ∃ count body, text = List.replicate count quote ++ body ∧ body.head? ≠ some quote := by
  induction text with
  | nil => exact ⟨0, [], rfl, by simp⟩
  | cons c text ih =>
      by_cases hc : c = quote
      · obtain ⟨count, body, rfl, hhead⟩ := ih
        exact ⟨count + 1, body, by rw [hc]; rfl, hhead⟩
      · exact ⟨0, c :: text, rfl, by simpa using hc⟩

/-! ### What the tokens say -/

/-- Nothing of the text is left outside quoted tokens. -/
theorem isQuoted_of_mem_inQuotes {text : List Char} :
    ∀ token ∈ tokenize (inQuotes text), token.IsQuoted := by
  obtain ⟨count, body, rfl, hhead⟩ := exists_leadingQuotes text
  intro token htoken
  by_cases hne : body = []
  · subst hne
    rw [List.append_nil, tokenize_inQuotes_replicate] at htoken
    rw [List.eq_of_mem_replicate htoken]
    trivial
  · rw [tokenize_inQuotes_append count hne hhead, List.mem_append, List.mem_singleton] at htoken
    obtain htoken | rfl := htoken
    · rw [List.eq_of_mem_replicate htoken]
      trivial
    · trivial

theorem flatMap_literalText_replicate (count : Nat) :
    (List.replicate count Token.escapedQuote).flatMap Token.literalText =
      List.replicate count quote := by
  induction count with
  | zero => rfl
  | succ count ih => rw [List.replicate_succ, List.flatMap_cons, ih]; rfl

/-- A quoted text stands for itself exactly when there is something else than quotes in it. -/
theorem literalText_inQuotes_iff {text : List Char} :
    (tokenize (inQuotes text)).flatMap Token.literalText = text ↔ ∃ c ∈ text, c ≠ quote := by
  obtain ⟨count, body, rfl, hhead⟩ := exists_leadingQuotes text
  cases body with
  | nil =>
      rw [List.append_nil, tokenize_inQuotes_replicate, flatMap_literalText_replicate]
      apply iff_of_false
      · intro heq
        have hlength := congrArg List.length heq
        simp at hlength
      · rintro ⟨c, hmem, hc⟩
        exact hc (List.eq_of_mem_replicate hmem)
  | cons c body =>
      rw [tokenize_inQuotes_append count (List.cons_ne_nil c body) hhead, List.flatMap_append,
        flatMap_literalText_replicate]
      apply iff_of_true
      · simp [Token.literalText]
      · exact ⟨c, by simp, by simpa using hhead⟩

/-! ### Whole patterns -/

/-- A text with some character that is no quote can be quoted: the tokens of its quoted form are
quoted, and stand for the text together.  So every date shows the text, in every locale, and it is
the one text that can be read. -/
theorem parse_quotedPattern_iff (text : String) (h : ∃ c ∈ text.toList, c ≠ quote) :
    (∀ token ∈ tokenize (quotedPattern text).toList, token.IsQuoted) ∧
      (tokenize (quotedPattern text).toList).flatMap Token.literalText = text.toList ∧
      (∀ (d : Date) (locale : Option Locale),
        format (.date d) (quotedPattern text) locale = some text) ∧
      ∀ (input : String) (locale : Option Locale) (reference : Date),
        (∃ d, parse input (quotedPattern text) { locale, reference := .date reference } = .ok d) ↔
          input = text := by
  have htokens : tokenize (quotedPattern text).toList = tokenize (inQuotes text.toList) := by
    rw [quotedPattern, String.toList_ofList]
  have htext := literalText_inQuotes_iff.2 h
  have hfieldless : Fieldless (tokenize (inQuotes text.toList)) := fun token htoken =>
    (isQuoted_of_mem_inQuotes token htoken).not_isField
  rw [htokens]
  refine ⟨isQuoted_of_mem_inQuotes, htext, ?_, ?_⟩
  · intro d locale
    rw [format_eq_some_iff, htokens, renderTokens_fieldless hfieldless, htext]
  · intro input locale reference
    simp only [parse_eq_parseTokens, htokens, parseTokens_fieldless_iff hfieldless, htext,
      String.toList_inj]
    constructor
    · rintro ⟨d, hinput, -⟩
      exact hinput
    · intro hinput
      obtain ⟨midnight, hparts⟩ := reference.exists_midnight
      exact ⟨midnight, hinput, hparts⟩

/-- A text with quotes at both ends, in a row, and around a letter of the alphabet. -/
theorem parse_quotedPattern_iff_quotes :
    (∃ c ∈ "''d'o'''".toList, c ≠ quote) ∧
      quotedPattern "''d'o'''" = "'''''d''o'''''''" ∧
      (∀ (d : Date) (locale : Option Locale),
        format (.date d) (quotedPattern "''d'o'''") locale = some "''d'o'''") ∧
      ∃ d, parse "''d'o'''" (quotedPattern "''d'o'''") { reference := .date .epoch } = .ok d := by
  have hplain : ∃ c ∈ "''d'o'''".toList, c ≠ quote := ⟨'d', by decide, by decide⟩
  obtain ⟨-, -, hformat, hparse⟩ := parse_quotedPattern_iff _ hplain
  exact ⟨hplain, rfl, hformat, (hparse _ none .epoch).2 rfl⟩

end DatePattern

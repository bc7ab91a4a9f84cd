import DatePattern.Pattern.Format
import DatePattern.Proofs.Pattern.Tokenization

/-! # Patterns put together

A pattern put together from two has the tokens of both, one after the other, exactly when the last
token of the first and the first of the second do not run into one another (`tokenize_append_iff`).
No other token can change, since the tokens of a pattern are its only split into tokens that do not
run into one another.

* `Token.mayPrecede_of_ends`: the characters on both sides of the joint tell that they do not.
* `tokenize_append`: then a date shows with the pattern what it shows with both in turn. -/

namespace DatePattern

/-! ### Tokens at the joint -/

/-- Tokens of a pattern put together from two are those of both, unless the two at the joint run
into one another. -/
theorem tokenize_append_iff (first second : List Char) :
    tokenize (first ++ second) = tokenize first ++ tokenize second ↔
      ∀ token ∈ (tokenize first).getLast?, ∀ next ∈ (tokenize second).head?,
        token.lexeme.MayPrecede next.lexeme := by
  constructor
  · intro h
    have hcanonical := canonical_tokenize (first ++ second)
    rw [h, canonical_append] at hcanonical
    exact hcanonical.2.2
  · intro h
    have hcanonical : Canonical (tokenize first ++ tokenize second) :=
      canonical_append.2 ⟨canonical_tokenize first, canonical_tokenize second, h⟩
    have hsplit := tokenize_flatMap_raw hcanonical
    rwa [List.flatMap_append, flatMap_raw_tokenize, flatMap_raw_tokenize] at hsplit

/-! ### Characters at the joint -/

theorem head?_of_mem_head? {pattern : List Char} {token : Token}
    (h : token ∈ (tokenize pattern).head?) : pattern.head? = token.raw.head? := by
  have hhead := (canonical_tokenize pattern).head?_flatMap_raw
  rwa [flatMap_raw_tokenize, Option.mem_def.1 h] at hhead

theorem getLast?_of_mem_getLast? {pattern : List Char} {token : Token}
    (h : token ∈ (tokenize pattern).getLast?) : pattern.getLast? = token.raw.getLast? := by
  obtain ⟨front, hfront⟩ := List.getLast?_eq_some_iff.1 h
  have hraw := flatMap_raw_tokenize pattern
  have hformed := (canonical_tokenize pattern).1 token (List.mem_of_getLast? h)
  rw [hfront, List.flatMap_append, List.flatMap_singleton] at hraw
  rw [← hraw, List.getLast?_append_of_ne_nil _ hformed.raw_ne_nil]

/-- Tokens can only run into one another at a quote or a field letter that both of them have at the
joint. -/
theorem Token.mayPrecede_of_ends {token next : Token} (htoken : token.WellFormed)
    (hnext : next.WellFormed) (hclosed : ∀ text, token ≠ .unclosed text)
    (hends : ∀ c, token.raw.getLast? = some c → next.raw.head? = some c →
      c ≠ quote ∧ ∀ symbol : Symbol, c ≠ symbol.letter) :
    token.lexeme.MayPrecede next.lexeme := by
  cases token with
  | field symbol len =>
      cases next with
      | field other count =>
          rintro (rfl : symbol = other)
          obtain ⟨len, rfl⟩ := Nat.exists_eq_add_one.2 htoken
          obtain ⟨count, rfl⟩ := Nat.exists_eq_add_one.2 hnext
          have hlast : (Token.field symbol (len + 1)).raw.getLast? = some symbol.letter := by
            simp [raw, List.getLast?_replicate]
          exact (hends _ hlast rfl).2 symbol rfl
      | _ => trivial
  | quoted text =>
      intro hquote
      have hlast : (Token.quoted text).raw.getLast? = some quote := List.getLast?_concat
      exact (hends quote hlast hquote).1 rfl
  | unclosed text => exact absurd rfl (hclosed text)
  | _ => trivial

/-! ### Main statement -/

theorem renderTokens_append (locale : Option Locale) (d : Date) (tokens later : List Token) :
    renderTokens locale d (tokens ++ later) = (do
      let shown ← renderTokens locale d tokens
      let rest ← renderTokens locale d later
      some (shown ++ rest)) := by
  induction tokens with
  | nil => cases h : renderTokens locale d later <;> simp [renderTokens, h]
  | cons token tokens ih =>
      rw [List.cons_append, renderTokens, renderTokens, ih]
      cases token.render locale d with
      | none => rfl
      | some piece =>
          cases renderTokens locale d tokens with
          | none => rfl
          | some shown => cases renderTokens locale d later <;> simp

/-- Two patterns can be put together unless the first ends inside quoted text, or a quote or a field
letter both ends the first and begins the second.  The tokens are then those of the first and those
of the second, and a date shows what it shows with the first and with the second, or nothing where
it shows nothing with one of them. -/
theorem tokenize_append (first second : String)
    (hclosed : ∀ text, (tokenize first.toList).getLast? ≠ some (.unclosed text))
    (hends : ∀ c, first.toList.getLast? = some c → second.toList.head? = some c →
      c ≠ quote ∧ ∀ symbol : Symbol, c ≠ symbol.letter) :
    tokenize (first ++ second).toList = tokenize first.toList ++ tokenize second.toList ∧
      ∀ (d : Date) (locale : Option Locale),
        format (.date d) (first ++ second) locale = (do
          let shown ← format (.date d) first locale
          let rest ← format (.date d) second locale
          some (shown ++ rest)) := by
  have htokens : tokenize (first ++ second).toList =
      tokenize first.toList ++ tokenize second.toList := by
    rw [String.toList_append, tokenize_append_iff]
    intro token htoken next hnext
    apply Token.mayPrecede_of_ends
    · exact (canonical_tokenize first.toList).1 token (List.mem_of_getLast? htoken)
    · exact (canonical_tokenize second.toList).1 next (List.mem_of_mem_head? hnext)
    · rintro text rfl
      exact hclosed text htoken
    · rw [← getLast?_of_mem_getLast? htoken, ← head?_of_mem_head? hnext]
      exact hends
  refine ⟨htokens, fun d locale => ?_⟩
  simp only [format, DateInput.toDate]
  rw [htokens, renderTokens_append]
  cases renderTokens locale d (tokenize first.toList) with
  | none => rfl
  | some shown =>
      cases renderTokens locale d (tokenize second.toList) with
      | none => rfl
      | some rest => simp [String.ofList_append]

/-- Two patterns that meet in spaces, which stand for themselves and so may be the same. -/
theorem tokenize_append_spaces :
    (∀ text, (tokenize "h 'o''clock' ".toList).getLast? ≠ some (.unclosed text)) ∧
    ("h 'o''clock' ".toList.getLast? = some ' ' ∧ " a".toList.head? = some ' ' ∧
      ' ' ≠ quote ∧ ∀ symbol : Symbol, ' ' ≠ symbol.letter) ∧
    tokenize ("h 'o''clock' " ++ " a").toList = [.field .hour12 1, .literal ' ',
      .quoted "o'clock".toList, .literal ' ', .literal ' ', .field .dayPeriod 1] ∧
    ∀ d : Date, format (.date d) ("h 'o''clock' " ++ " a") none = (do
      let shown ← format (.date d) "h 'o''clock' " none
      let rest ← format (.date d) " a" none
      some (shown ++ rest)) := by
  have hfirst : tokenize "h 'o''clock' ".toList =
      [.field .hour12 1, .literal ' ', .quoted "o'clock".toList, .literal ' '] := by decide
  have hsecond : tokenize " a".toList = [.literal ' ', .field .dayPeriod 1] := by decide
  have hclosed : ∀ text, (tokenize "h 'o''clock' ".toList).getLast? ≠ some (.unclosed text) := by
    intro text
    rw [hfirst]
    simp
  have hspace : ' ' ≠ quote ∧ ∀ symbol : Symbol, ' ' ≠ symbol.letter :=
    ⟨by decide, ofLetter?_eq_none_iff.1 rfl⟩
  have hends : ∀ c, "h 'o''clock' ".toList.getLast? = some c → " a".toList.head? = some c →
      c ≠ quote ∧ ∀ symbol : Symbol, c ≠ symbol.letter := by
    intro c _ hhead
    obtain rfl : ' ' = c := Option.some.inj hhead
    exact hspace
  obtain ⟨htokens, hformat⟩ := tokenize_append "h 'o''clock' " " a" hclosed hends
  refine ⟨hclosed, ⟨by decide, rfl, hspace⟩, ?_, fun d => hformat d none⟩
  rw [htokens, hfirst, hsecond]
  rfl

end DatePattern

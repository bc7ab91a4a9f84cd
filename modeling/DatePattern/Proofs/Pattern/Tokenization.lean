import DatePattern.Pattern.Token
import Mathlib.Algebra.Ring.Parity
import Mathlib.Data.List.Chain

/-! # The one way to split a pattern

A pattern has exactly one split into tokens that are written as tokens are (`Token.Lexed`) and do
not run into one another (`Lexeme.MayPrecede`).

Inside quoted text a quote is written twice, so every run of quotes there is of even length; this is
the same as being the doubled form of some text (`evenQuoteRuns_iff`).  With it a list of lexemes is
determined by its tokens, and two facts about scanning remain:

* `scans_scan`: scanning a pattern gives tokens that do not run into one another, whose raw texts
  make up the pattern;
* `tokenize_flatMap_raw`: scanning the raw texts of such tokens gives the tokens back. -/

namespace DatePattern

/-! ### Quotes written twice -/

/-- Every longest run of quotes is of even length. -/
def EvenQuoteRuns (body : List Char) : Prop :=
  ∀ before count after, body = before ++ List.replicate count quote ++ after →
    before.getLast? ≠ some quote → after.head? ≠ some quote → Even count

/-- The text with every two quotes replaced by one. -/
def halveQuotes : List Char → List Char
  | '\'' :: '\'' :: rest => quote :: halveQuotes rest
  | c :: rest => c :: halveQuotes rest
  | [] => []

theorem doubleQuotes_quote (text : List Char) :
    doubleQuotes (quote :: text) = quote :: quote :: doubleQuotes text := rfl

theorem doubleQuotes_of_ne {c : Char} (hc : c ≠ quote) (text : List Char) :
    doubleQuotes (c :: text) = c :: doubleQuotes text := by
  simp [doubleQuotes, hc]

theorem halveQuotes_of_ne {c : Char} (hc : c ≠ quote) (rest : List Char) :
    halveQuotes (c :: rest) = c :: halveQuotes rest := by
  rw [halveQuotes]
  rintro _ rfl
  exact absurd rfl hc

@[simp] theorem halveQuotes_doubleQuotes (text : List Char) :
    halveQuotes (doubleQuotes text) = text := by
  induction text with
  | nil => rfl
  | cons c text ih =>
      by_cases hc : c = quote
      · rw [hc, doubleQuotes_quote]
        exact congrArg (quote :: ·) ih
      · rw [doubleQuotes_of_ne hc, halveQuotes_of_ne hc, ih]

@[simp] theorem head?_doubleQuotes (text : List Char) : (doubleQuotes text).head? = text.head? := by
  cases text with
  | nil => rfl
  | cons c text =>
      by_cases hc : c = quote
      · rw [hc, doubleQuotes_quote]
        rfl
      · rw [doubleQuotes_of_ne hc]
        rfl

theorem getLast?_cons_ne {c : Char} {text : List Char} (h : text.getLast? ≠ some quote)
    (hc : text = [] → c ≠ quote) : (c :: text).getLast? ≠ some quote := by
  cases text with
  | nil => simpa using hc rfl
  | cons d text => rwa [List.getLast?_cons_cons]

theorem getLast?_ne_of_cons {c : Char} {text : List Char}
    (h : (c :: text).getLast? ≠ some quote) : text.getLast? ≠ some quote := by
  cases text with
  | nil => simp
  | cons d text => rwa [List.getLast?_cons_cons] at h

theorem evenQuoteRuns_cons {c : Char} (hc : c ≠ quote) {body : List Char} :
    EvenQuoteRuns (c :: body) ↔ EvenQuoteRuns body := by
  constructor
  · intro h before count after heq hbefore hafter
    exact h (c :: before) count after (by rw [heq]; rfl) (getLast?_cons_ne hbefore fun _ => hc)
      hafter
  · intro h before count after heq hbefore hafter
    cases before with
    | nil =>
        -- the run would have to begin with the first character
        cases count with
        | zero => exact Even.zero
        | succ count => exact absurd (List.cons.inj heq).1 hc
    | cons d before =>
        exact h before count after (List.cons.inj heq).2 (getLast?_ne_of_cons hbefore) hafter

/-- Two quotes in front lengthen the first run, or stand alone before something else. -/
theorem evenQuoteRuns_quote_quote {body : List Char} :
    EvenQuoteRuns (quote :: quote :: body) ↔ EvenQuoteRuns body := by
  constructor
  · intro h before count after heq hbefore hafter
    cases before with
    | nil =>
        have hlonger : Even (count + 2) :=
          h [] (count + 2) after (by rw [heq]; rfl) (by simp) hafter
        exact (Nat.even_add.1 hlonger).2 (by decide)
    | cons c before =>
        refine h (quote :: quote :: c :: before) count after (by rw [heq]; rfl) ?_ hafter
        rwa [List.getLast?_cons_cons, List.getLast?_cons_cons]
  · intro h before count after heq hbefore hafter
    match before, count with
    | [], 0 =>
        rw [List.nil_append, List.replicate_zero, List.nil_append] at heq
        exact absurd (by rw [← heq]; rfl) hafter
    | [], 1 =>
        have hrest : quote :: body = after := (List.cons.inj heq).2
        exact absurd (by rw [← hrest]; rfl) hafter
    | [], count + 2 =>
        have hrest : body = [] ++ List.replicate count quote ++ after :=
          (List.cons.inj (List.cons.inj heq).2).2
        exact (h [] count after hrest (by simp) hafter).add (by decide)
    | [c], count => exact absurd (by rw [← (List.cons.inj heq).1]; rfl) hbefore
    | c :: d :: before, count =>
        exact h before count after (List.cons.inj (List.cons.inj heq).2).2
          (getLast?_ne_of_cons (getLast?_ne_of_cons hbefore)) hafter

/-- Runs of quotes are of even length where every quote of some text is written twice. -/
theorem evenQuoteRuns_iff (body : List Char) :
    EvenQuoteRuns body ↔ doubleQuotes (halveQuotes body) = body := by
  fun_induction halveQuotes body with
  | case1 rest ih =>
      rw [doubleQuotes_quote]
      exact evenQuoteRuns_quote_quote.trans (ih.trans (by simp [quote]))
  | case2 c rest hpair ih =>
      by_cases hc : c = quote
      · -- a quote that stands alone is a run of length 1
        subst hc
        have hhead : rest.head? ≠ some quote := by
          intro h
          obtain ⟨later, rfl⟩ := List.head?_eq_some_iff.1 h
          exact hpair later rfl rfl
        have hfalse : doubleQuotes (quote :: halveQuotes rest) ≠ quote :: rest := by
          intro h
          rw [doubleQuotes_quote] at h
          exact hhead (by rw [← (List.cons.inj h).2]; rfl)
        refine iff_of_false (fun h => ?_) hfalse
        exact absurd (h [] 1 rest rfl (by simp) hhead) (by decide)
      · rw [evenQuoteRuns_cons hc, doubleQuotes_of_ne hc, List.cons_inj_right, ih]
  | case3 =>
      refine iff_of_true (fun before count after heq _ _ => ?_) rfl
      have hcount : List.replicate count quote = [] := by simp_all
      rw [(List.replicate_eq_nil_iff _).1 hcount]
      exact Even.zero

/-! ### Lexemes -/

/-- Quoted text as it is written: it does not begin with a quote, and quotes stand in pairs. -/
structure QuotedBody (body : List Char) : Prop where
  head : body.head? ≠ some quote
  runs : EvenQuoteRuns body

/-- The token is written as the raw text, and stands for the text when it is not filled in. -/
inductive Token.Lexed : Token → (raw text : List Char) → Prop
  | field {symbol : Symbol} {len : Nat} : 1 ≤ len →
      Lexed (.field symbol len) (List.replicate len symbol.letter)
        (List.replicate len symbol.letter)
  | literal {c : Char} : c ≠ quote → (∀ symbol : Symbol, c ≠ symbol.letter) →
      Lexed (.literal c) [c] [c]
  | escapedQuote : Lexed .escapedQuote [quote, quote] [quote]
  | quoted {body : List Char} : body ≠ [] → QuotedBody body →
      Lexed (.quoted (halveQuotes body)) (quote :: body ++ [quote]) (halveQuotes body)
  | unclosed {body : List Char} : QuotedBody body →
      Lexed (.unclosed (halveQuotes body)) (quote :: body) (halveQuotes body)

/-- A piece of a pattern: a token, how it is written there, and what it stands for. -/
structure Lexeme where
  token : Token
  raw : List Char
  text : List Char

/-- The lexemes do not run into one another: a run of letters ends at another letter, quoted text
ends where no further quote follows, and nothing follows quoted text that is not closed. -/
def Lexeme.MayPrecede (first next : Lexeme) : Prop :=
  match first.token, next.token with
  | .field symbol _, .field other _ => symbol ≠ other
  | .quoted _, _ => next.raw.head? ≠ some quote
  | .unclosed _, _ => False
  | _, _ => True

/-- The lexemes are a split of the pattern. -/
structure IsTokenization (pattern : List Char) (lexemes : List Lexeme) : Prop where
  lexed : ∀ lexeme ∈ lexemes, lexeme.token.Lexed lexeme.raw lexeme.text
  apart : lexemes.IsChain Lexeme.MayPrecede
  lossless : lexemes.flatMap Lexeme.raw = pattern

/-! ### Tokens that do not run into one another -/

/-- The token as a lexeme. -/
def Token.lexeme (token : Token) : Lexeme := ⟨token, token.raw, token.literalText⟩

/-- The token stands for a piece of some pattern. -/
def Token.WellFormed : Token → Prop
  | field _ len => 1 ≤ len
  | literal c => c ≠ quote ∧ Symbol.ofLetter? c = none
  | escapedQuote => True
  | quoted text => text ≠ [] ∧ text.head? ≠ some quote
  | unclosed text => text.head? ≠ some quote

theorem quotedBody_iff {body : List Char} :
    QuotedBody body ↔ ∃ text, text.head? ≠ some quote ∧ body = doubleQuotes text := by
  constructor
  · intro h
    have hdouble := (evenQuoteRuns_iff body).1 h.runs
    refine ⟨halveQuotes body, ?_, hdouble.symm⟩
    rw [← head?_doubleQuotes, hdouble]
    exact h.head
  · rintro ⟨text, hhead, rfl⟩
    exact ⟨by rwa [head?_doubleQuotes], (evenQuoteRuns_iff _).2 (by rw [halveQuotes_doubleQuotes])⟩

theorem doubleQuotes_eq_nil_iff {text : List Char} : doubleQuotes text = [] ↔ text = [] := by
  rw [← List.head?_eq_none_iff, head?_doubleQuotes, List.head?_eq_none_iff]

theorem ofLetter?_eq_none_iff {c : Char} :
    Symbol.ofLetter? c = none ↔ ∀ symbol : Symbol, c ≠ symbol.letter := by
  simp only [Option.eq_none_iff_forall_ne_some, ne_eq, Symbol.ofLetter?_eq_some_iff]

/-- The raw text and the text of a lexeme are those of its token. -/
theorem Token.lexed_iff {token : Token} {raw text : List Char} :
    token.Lexed raw text ↔
      token.WellFormed ∧ raw = token.raw ∧ text = token.literalText := by
  constructor
  · intro h
    cases h with
    | field hlen => exact ⟨hlen, rfl, rfl⟩
    | literal hquote hletter => exact ⟨⟨hquote, ofLetter?_eq_none_iff.2 hletter⟩, rfl, rfl⟩
    | escapedQuote => exact ⟨trivial, rfl, rfl⟩
    | quoted hne hbody =>
        obtain ⟨text, hhead, rfl⟩ := quotedBody_iff.1 hbody
        rw [halveQuotes_doubleQuotes]
        exact ⟨⟨fun h => hne (doubleQuotes_eq_nil_iff.2 h), hhead⟩, rfl, rfl⟩
    | unclosed hbody =>
        obtain ⟨text, hhead, rfl⟩ := quotedBody_iff.1 hbody
        rw [halveQuotes_doubleQuotes]
        exact ⟨hhead, rfl, rfl⟩
  · rintro ⟨h, rfl, rfl⟩
    cases token with
    | field symbol len => exact .field h
    | literal c => exact .literal h.1 (ofLetter?_eq_none_iff.1 h.2)
    | escapedQuote => exact .escapedQuote
    | quoted text =>
        have hlexed := Lexed.quoted (doubleQuotes_eq_nil_iff.not.2 h.1)
          (quotedBody_iff.2 ⟨text, h.2, rfl⟩)
        rwa [halveQuotes_doubleQuotes] at hlexed
    | unclosed text =>
        have hlexed := Lexed.unclosed (quotedBody_iff.2 ⟨text, h, rfl⟩)
        rwa [halveQuotes_doubleQuotes] at hlexed

theorem Token.WellFormed.raw_ne_nil {token : Token} (h : token.WellFormed) : token.raw ≠ [] := by
  cases token with
  | field symbol len =>
      rw [raw, Ne, List.replicate_eq_nil_iff]
      exact Nat.ne_of_gt h
  | _ => exact List.cons_ne_nil _ _

/-- The tokens stand for pieces of a pattern and do not run into one another. -/
def Canonical (tokens : List Token) : Prop :=
  (∀ token ∈ tokens, token.WellFormed) ∧
    tokens.IsChain fun token next => token.lexeme.MayPrecede next.lexeme

theorem canonical_nil : Canonical [] := ⟨by simp, .nil⟩

theorem canonical_cons {token : Token} {tokens : List Token} :
    Canonical (token :: tokens) ↔
      token.WellFormed ∧ (∀ next ∈ tokens.head?, token.lexeme.MayPrecede next.lexeme) ∧
        Canonical tokens := by
  rw [Canonical, Canonical, List.forall_mem_cons, List.isChain_cons]
  tauto

theorem canonical_append {tokens later : List Token} :
    Canonical (tokens ++ later) ↔ Canonical tokens ∧ Canonical later ∧
      ∀ token ∈ tokens.getLast?, ∀ next ∈ later.head?, token.lexeme.MayPrecede next.lexeme := by
  rw [Canonical, Canonical, Canonical, List.forall_mem_append, List.isChain_append]
  tauto

theorem Canonical.head?_flatMap_raw {tokens : List Token} (h : Canonical tokens) :
    (tokens.flatMap Token.raw).head? = tokens.head?.bind fun token => token.raw.head? := by
  cases tokens with
  | nil => rfl
  | cons token tokens =>
      obtain ⟨c, text, hraw⟩ := List.exists_cons_of_ne_nil (canonical_cons.1 h).1.raw_ne_nil
      simp [hraw]

/-- Quoted text may stand in front of tokens that do not begin with a quote. -/
theorem canonical_quoted_cons {text : List Char} {tokens : List Token} :
    Canonical (.quoted text :: tokens) ↔
      (text ≠ [] ∧ text.head? ≠ some quote) ∧ Canonical tokens ∧
        (tokens.flatMap Token.raw).head? ≠ some quote := by
  rw [canonical_cons]
  refine and_congr_right fun _ => ?_
  constructor
  · rintro ⟨hnext, htokens⟩
    refine ⟨htokens, ?_⟩
    rw [htokens.head?_flatMap_raw]
    cases htail : tokens.head? with
    | none => simp
    | some next => exact hnext next htail
  · rintro ⟨htokens, hhead⟩
    refine ⟨fun next hnext => ?_, htokens⟩
    rw [htokens.head?_flatMap_raw, Option.mem_def.1 hnext] at hhead
    exact hhead

theorem isTokenization_iff_canonical {pattern : List Char} {lexemes : List Lexeme} :
    IsTokenization pattern lexemes ↔
      ∃ tokens, Canonical tokens ∧ tokens.flatMap Token.raw = pattern ∧
        lexemes = tokens.map Token.lexeme := by
  constructor
  · rintro ⟨hlexed, hapart, rfl⟩
    have hlexeme : ∀ lexeme ∈ lexemes, lexeme.token.lexeme = lexeme := by
      intro lexeme hmem
      obtain ⟨-, hraw, htext⟩ := Token.lexed_iff.1 (hlexed lexeme hmem)
      simp [Token.lexeme, ← hraw, ← htext]
    have hmap : lexemes = (lexemes.map Lexeme.token).map Token.lexeme := by
      rw [List.map_map]
      exact ((List.map_congr_left hlexeme).trans (List.map_id' lexemes)).symm
    refine ⟨lexemes.map Lexeme.token, ⟨?_, ?_⟩, ?_, hmap⟩
    · intro token hmem
      obtain ⟨lexeme, hlexeme, rfl⟩ := List.mem_map.1 hmem
      exact (Token.lexed_iff.1 (hlexed lexeme hlexeme)).1
    · rw [hmap, List.isChain_map] at hapart
      exact hapart
    · rw [List.flatMap_map]
      exact List.flatMap_congr fun lexeme hmem => congrArg Lexeme.raw (hlexeme lexeme hmem)
  · rintro ⟨tokens, htokens, rfl, rfl⟩
    refine ⟨?_, ?_, ?_⟩
    · intro lexeme hmem
      obtain ⟨token, htoken, rfl⟩ := List.mem_map.1 hmem
      exact Token.lexed_iff.2 ⟨htokens.1 token htoken, rfl, rfl⟩
    · rw [List.isChain_map]
      exact htokens.2
    · rw [List.flatMap_map]
      rfl

/-! ### What scanning gives -/

/-- What scanning gives for the rest of a pattern.  Inside quoted text the first token is the quoted
text, of which some part may lie before the rest. -/
def Scans : (inside : Bool) → List Char → List Token → Prop
  | false, pattern, tokens => Canonical tokens ∧ tokens.flatMap Token.raw = pattern
  | true, pattern, tokens => tokens.flatMap Token.raw = quote :: pattern ∧
      ((∃ text, tokens = [.unclosed text]) ∨
        ∃ text later, tokens = .quoted text :: later ∧ Canonical later ∧
          (later.flatMap Token.raw).head? ≠ some quote)

section
variable {pattern : List Char} {tokens : List Token}

theorem Scans.prependQuoted (h : Scans true pattern tokens) (c : Char) :
    Scans true (doubleQuotes [c] ++ pattern) (prependQuoted c tokens) := by
  have hdouble : ∀ text, doubleQuotes (c :: text) = doubleQuotes [c] ++ doubleQuotes text := by
    intro text
    simp [doubleQuotes]
  obtain ⟨hraw, ⟨text, rfl⟩ | ⟨text, later, rfl, hlater, hhead⟩⟩ := h
  · refine ⟨?_, .inl ⟨c :: text, rfl⟩⟩
    simp [DatePattern.prependQuoted, Token.raw] at hraw ⊢
    rw [hdouble, hraw]
  · refine ⟨?_, .inr ⟨c :: text, later, rfl, hlater, hhead⟩⟩
    simp [DatePattern.prependQuoted, Token.raw] at hraw ⊢
    rw [hdouble, List.append_assoc, hraw]

/-- Quoted text that is entered by a single quote begins with something else. -/
theorem Scans.enter (h : Scans true pattern tokens) (hhead : pattern.head? ≠ some quote) :
    Scans false (quote :: pattern) tokens := by
  obtain ⟨hraw, ⟨text, rfl⟩ | ⟨text, later, rfl, hlater, hnext⟩⟩ := h
  · refine ⟨canonical_cons.2 ⟨?_, by simp, canonical_nil⟩, hraw⟩
    have htext : doubleQuotes text = pattern := by simpa [Token.raw] using hraw
    rwa [Token.WellFormed, ← head?_doubleQuotes, htext]
  · have htext : doubleQuotes text ++ quote :: later.flatMap Token.raw = pattern := by
      simpa [Token.raw] using hraw
    refine ⟨canonical_quoted_cons.2 ⟨⟨?_, ?_⟩, hlater, hnext⟩, hraw⟩
    · rintro rfl
      exact hhead (by rw [← htext]; rfl)
    · intro hquote
      rw [← htext, List.head?_append, head?_doubleQuotes, hquote] at hhead
      exact hhead rfl

theorem Scans.prependLetter (h : Scans false pattern tokens) (symbol : Symbol) :
    Scans false (symbol.letter :: pattern) (prependLetter symbol tokens) := by
  obtain ⟨hcanonical, rfl⟩ := h
  unfold DatePattern.prependLetter
  split
  · rename_i s len rest
    obtain ⟨hlen, hnext, hrest⟩ := canonical_cons.1 hcanonical
    split
    · rename_i hs
      subst hs
      have hlonger : ∀ next ∈ rest.head?,
          (Token.field s (len + 1)).lexeme.MayPrecede next.lexeme := by
        intro next hmem
        have h := hnext next hmem
        cases next <;> exact h
      refine ⟨canonical_cons.2 ⟨Nat.le_add_left 1 len, hlonger, hrest⟩, ?_⟩
      simp [Token.raw, List.replicate_succ]
    · rename_i hs
      refine ⟨canonical_cons.2 ⟨Nat.le_refl 1, ?_, hcanonical⟩, rfl⟩
      rintro _ ⟨rfl⟩
      exact Ne.symm hs
  · rename_i hfield
    refine ⟨canonical_cons.2 ⟨Nat.le_refl 1, ?_, hcanonical⟩, rfl⟩
    intro next hnext
    obtain ⟨rest, rfl⟩ := List.head?_eq_some_iff.1 hnext
    cases next with
    | field s len => exact (hfield s len rest rfl).elim
    | _ => trivial

theorem Scans.prependPlain (h : Scans false pattern tokens) {c : Char} (hc : c ≠ quote) :
    Scans false (c :: pattern) (prependPlain c tokens) := by
  unfold DatePattern.prependPlain
  split
  · rename_i symbol hletter
    rw [Symbol.ofLetter?_eq_some_iff.1 hletter]
    exact h.prependLetter symbol
  · rename_i hletter
    obtain ⟨hcanonical, rfl⟩ := h
    exact ⟨canonical_cons.2 ⟨⟨hc, hletter⟩, fun _ _ => trivial, hcanonical⟩, rfl⟩

end

theorem scans_scan (inside : Bool) (pattern : List Char) :
    Scans inside pattern (scan inside pattern) := by
  fun_induction scan inside pattern with
  | case1 => exact ⟨rfl, .inl ⟨[], rfl⟩⟩
  | case2 inside hinside =>
      rw [Bool.not_eq_true] at hinside
      subst hinside
      exact ⟨canonical_nil, rfl⟩
  | case3 rest ih => exact ih.prependQuoted quote
  | case4 inside rest hinside ih =>
      rw [Bool.not_eq_true] at hinside
      subst hinside
      obtain ⟨hcanonical, hraw⟩ := ih
      refine ⟨canonical_cons.2 ⟨trivial, fun _ _ => trivial, hcanonical⟩, ?_⟩
      simp [Token.raw, hraw, quote]
  | case5 rest hnext ih =>
      obtain ⟨hcanonical, hraw⟩ := ih
      refine ⟨by simp [Token.raw, hraw, quote, doubleQuotes], .inr ⟨[], _, rfl, hcanonical, ?_⟩⟩
      rw [hraw]
      intro hhead
      obtain ⟨later, rfl⟩ := List.head?_eq_some_iff.1 hhead
      exact hnext later rfl
  | case6 inside rest hnext hinside ih =>
      rw [Bool.not_eq_true] at hinside
      subst hinside
      refine ih.enter fun hhead => ?_
      obtain ⟨later, rfl⟩ := List.head?_eq_some_iff.1 hhead
      exact hnext later rfl
  | case7 c rest hpair hquote ih =>
      have hc : c ≠ quote := fun h => hquote h
      have hdouble : doubleQuotes [c] = [c] := by rw [doubleQuotes_of_ne hc]; rfl
      rw [← List.singleton_append, ← hdouble]
      exact ih.prependQuoted c
  | case8 inside c rest hpair hquote hinside ih =>
      rw [Bool.not_eq_true] at hinside
      subst hinside
      exact ih.prependPlain fun h => hquote h

theorem canonical_tokenize (pattern : List Char) : Canonical (tokenize pattern) :=
  (scans_scan false pattern).1

theorem flatMap_raw_tokenize (pattern : List Char) :
    (tokenize pattern).flatMap Token.raw = pattern := (scans_scan false pattern).2

/-! ### Scanning raw texts -/

section
variable {rest : List Char}

theorem scan_open (h : rest.head? ≠ some quote) : scan false (quote :: rest) = scan true rest := by
  cases rest with
  | nil => rfl
  | cons c rest =>
      rw [quote, scan]
      · rfl
      · rintro _ ⟨⟩
        exact h rfl

theorem scan_close (h : rest.head? ≠ some quote) :
    scan true (quote :: rest) = .quoted [] :: scan false rest := by
  cases rest with
  | nil => rfl
  | cons c rest =>
      rw [quote, scan]
      · rfl
      · rintro _ ⟨⟩
        exact h rfl

theorem scan_plain {c : Char} (hc : c ≠ quote) :
    scan false (c :: rest) = prependPlain c (scan false rest) := by
  rw [scan]
  · rfl
  · rintro _ rfl
    exact absurd rfl hc
  · exact hc

theorem scan_quoted_plain {c : Char} (hc : c ≠ quote) :
    scan true (c :: rest) = prependQuoted c (scan true rest) := by
  rw [scan]
  · rfl
  · rintro _ rfl
    exact absurd rfl hc
  · exact hc

theorem scan_doubleQuotes (text : List Char) :
    scan true (doubleQuotes text ++ rest) = text.foldr prependQuoted (scan true rest) := by
  induction text with
  | nil => rfl
  | cons c text ih =>
      rw [List.foldr_cons, ← ih]
      by_cases hc : c = quote
      · rw [hc, doubleQuotes_quote]
        rfl
      · rw [doubleQuotes_of_ne hc, List.cons_append, scan_quoted_plain hc]

theorem foldr_prependQuoted_quoted (text : List Char) (tokens : List Token) :
    text.foldr prependQuoted (.quoted [] :: tokens) = .quoted text :: tokens := by
  induction text with
  | nil => rfl
  | cons c text ih => rw [List.foldr_cons, ih, prependQuoted]

theorem foldr_prependQuoted_unclosed (text : List Char) :
    text.foldr prependQuoted [.unclosed []] = [.unclosed text] := by
  induction text with
  | nil => rfl
  | cons c text ih => rw [List.foldr_cons, ih, prependQuoted]

theorem head?_append_ne {c : Char} {front back : List Char} (hfront : front.head? ≠ some c)
    (hback : front = [] → back.head? ≠ some c) : (front ++ back).head? ≠ some c := by
  cases front with
  | nil => exact hback rfl
  | cons d front => exact hfront

theorem letter_ne_quote (symbol : Symbol) : symbol.letter ≠ quote := by
  cases symbol <;> decide

theorem scan_letters {symbol : Symbol}
    (h : ∀ len, ∀ later, scan false rest ≠ .field symbol len :: later) (len : Nat) :
    scan false (List.replicate (len + 1) symbol.letter ++ rest) =
      .field symbol (len + 1) :: scan false rest := by
  induction len with
  | zero =>
      rw [List.replicate_one, List.singleton_append, scan_plain (letter_ne_quote symbol),
        prependPlain, Symbol.ofLetter?_letter]
      dsimp only
      unfold prependLetter
      split
      · rename_i s len later hscan
        rw [if_neg]
        · rw [hscan]
        · rintro rfl
          exact h len later hscan
      · rfl
  | succ len ih =>
      rw [List.replicate_succ, List.cons_append, scan_plain (letter_ne_quote symbol), ih,
        prependPlain, Symbol.ofLetter?_letter]
      exact if_pos rfl

end

/-- Scanning the raw texts of tokens that do not run into one another gives the tokens back. -/
theorem tokenize_flatMap_raw : ∀ {tokens : List Token}, Canonical tokens →
    tokenize (tokens.flatMap Token.raw) = tokens
  | [], _ => rfl
  | token :: tokens, h => by
      have ih := tokenize_flatMap_raw (canonical_cons.1 h).2.2
      rw [tokenize] at ih
      obtain ⟨hformed, hnext, -⟩ := canonical_cons.1 h
      rw [tokenize, List.flatMap_cons]
      cases token with
      | field symbol len =>
          obtain ⟨len, rfl⟩ := Nat.exists_eq_add_one.2 hformed
          rw [Token.raw, scan_letters, ih]
          intro other later heq
          rw [ih] at heq
          subst heq
          exact hnext _ rfl rfl
      | literal c =>
          rw [Token.raw, List.singleton_append, scan_plain hformed.1, prependPlain, hformed.2, ih]
      | escapedQuote =>
          exact congrArg (.escapedQuote :: ·) ih
      | quoted text =>
          obtain ⟨⟨hne, hhead⟩, -, hafter⟩ := canonical_quoted_cons.1 h
          have hopen : (doubleQuotes text ++ quote :: tokens.flatMap Token.raw).head? ≠
              some quote := by
            apply head?_append_ne
            · rwa [head?_doubleQuotes]
            · exact fun hnil => absurd (doubleQuotes_eq_nil_iff.1 hnil) hne
          rw [Token.raw, List.cons_append, List.cons_append, List.append_assoc,
            List.singleton_append, scan_open hopen, scan_doubleQuotes, scan_close hafter, ih,
            foldr_prependQuoted_quoted]
      | unclosed text =>
          have hlast : tokens = [] := by
            cases tokens with
            | nil => rfl
            | cons next tokens => exact (hnext next rfl).elim
          subst hlast
          have hopen : (doubleQuotes text).head? ≠ some quote := by rwa [head?_doubleQuotes]
          rw [Token.raw, List.flatMap_nil, List.append_nil, scan_open hopen,
            ← List.append_nil (doubleQuotes text), scan_doubleQuotes]
          exact foldr_prependQuoted_unclosed text

/-- A run of one letter is one token. -/
theorem tokenize_replicate (symbol : Symbol) {len : Nat} (h : 1 ≤ len) :
    tokenize (List.replicate len symbol.letter) = [.field symbol len] := by
  have hcanonical : Canonical [.field symbol len] :=
    canonical_cons.2 ⟨h, by simp, canonical_nil⟩
  have hraw : [Token.field symbol len].flatMap Token.raw = List.replicate len symbol.letter :=
    List.flatMap_singleton ..
  rw [← hraw, tokenize_flatMap_raw hcanonical]

/-- A pattern has exactly one split into lexemes that do not run into one another: its tokens, with
their raw texts, none of which is empty, and what they stand for. -/
theorem isTokenization_iff (pattern : List Char) :
    (∀ lexemes, IsTokenization pattern lexemes ↔
      lexemes = (tokenize pattern).map fun token => ⟨token, token.raw, token.literalText⟩) ∧
    [] ∉ (tokenize pattern).map Token.raw := by
  obtain ⟨hcanonical, hraw⟩ := scans_scan false pattern
  constructor
  · intro lexemes
    rw [isTokenization_iff_canonical]
    constructor
    · rintro ⟨tokens, htokens, rfl, rfl⟩
      rw [tokenize_flatMap_raw htokens]
      rfl
    · rintro rfl
      exact ⟨tokenize pattern, hcanonical, hraw, rfl⟩
  · intro hmem
    obtain ⟨token, htoken, hnil⟩ := List.mem_map.1 hmem
    exact (hcanonical.1 token htoken).raw_ne_nil hnil

example : tokenize "''''d'o'''".toList =
    [.escapedQuote, .escapedQuote, .field .day 1, .quoted ['o', quote]] := by decide

end DatePattern

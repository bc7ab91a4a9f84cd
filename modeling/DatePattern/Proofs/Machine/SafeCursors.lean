import DatePattern.Proofs.Machine.Parse

/-! # Safe cursors

A parse moves from boundary to boundary of its text, and so do the programs that count the bytes: a
literal by the length of its text, a number by its digits, and a name by the lengths of the
characters that spell it.  They count right at every position, on a boundary or not
(`Machine.readToken_gives_seek`), so that what is proved of cursors holds of their positions
(`parse_cursors`). -/

namespace DatePattern

namespace Machine

open Program

/-! ### Positions that are no boundaries -/

section
variable {usize : Unsigned} {locale : Option Locale} {text : List Char} {position : Nat}
  {draft : Draft}

theorem readSlot_gives_nil (slot : Slot) :
    (readSlot usize locale [] position draft slot).Gives
      (.error (.inputExhausted slot.field position)) := by
  cases slot with
  | number field len => exact .bind_error (.bind_error (gives_throw _))
  | _ => exact .bind_error (gives_throw _)

/-- Where nothing can be cut off, a token fails as it does for a cursor. -/
theorem readToken_gives_of_none (h : dropBytes? text position = none) (token : Token) :
    (readToken usize locale text token position draft).Gives
      ((token.read locale (.seek text position) draft).map
        fun (cursor, entered) => (cursor.position, entered)) := by
  rw [Cursor.seek, h, Token.read_none, readToken]
  cases token.slot? with
  | some slot =>
      dsimp only
      rw [Cursor.seek, h]
      exact readSlot_gives_nil slot
  | none =>
      dsimp only
      rw [readLiteral, h]
      exact .bind_error (gives_throw _)

end

/-! ### Positions of tokens -/

section
variable {usize : Unsigned} {text : String} (hfits : text.utf8ByteSize < 2 ^ usize.bits)
  {locale : Option Locale}
include hfits

/-- At every position a token is read as it is by a cursor. -/
theorem readToken_gives_seek (token : Token) (position : Nat) {draft : Draft}
    (hdraft : draft.Fit) :
    (readToken usize locale text.toList token position draft).Gives
      ((token.read locale (.seek text.toList position) draft).map
        fun (cursor, entered) => (cursor.position, entered)) := by
  by_cases h : IsBoundary text position
  · rw [← byteLength_toList] at hfits
    exact readToken_gives hfits (Cursor.onBoundary_seek h) hdraft locale token
  · have hnone : dropBytes? text.toList position = none :=
      congrArg Cursor.rest? (Cursor.seek_eq_none h)
    exact readToken_gives_of_none hnone token

/-- What a program gives for a token is the position of what a cursor gives. -/
theorem read_of_readToken {token : Token} {position next : Nat} {draft entered : Draft}
    (hdraft : draft.Fit) (h : (readToken usize locale text.toList token position draft).run =
      some (.ok (next, entered))) :
    ∃ cursor, token.read locale (.seek text.toList position) draft = .ok (cursor, entered) ∧
      cursor.position = next := by
  have hsame := Option.some.inj ((readToken_gives_seek hfits token position hdraft).symm.trans h)
  cases hread : token.read locale (.seek text.toList position) draft with
  | error cause =>
      rw [hread] at hsame
      contradiction
  | ok found =>
      rw [hread] at hsame
      cases hsame
      exact ⟨found.1, rfl, rfl⟩

/-- Tokens that are read from the start of the text on leave a boundary and a draft of numbers that
fit. -/
theorem readTokens_atBoundary {tokens : List Token} {position : Nat} {draft : Draft}
    {reference : Date}
    (h : (readTokens usize locale text.toList tokens 0 (.ofReference reference)).run =
      some (.ok (position, draft))) : IsBoundary text position ∧ draft.Fit := by
  have hfit := Draft.fit_ofReference reference
  rw [← byteLength_toList] at hfits
  have hrun := readTokens_gives hfits locale tokens (Cursor.onBoundary_start text.toList) hfit
  have hsame := Option.some.inj (hrun.symm.trans h)
  cases hread : DatePattern.readTokens locale tokens (.start text.toList)
      (.ofReference reference) with
  | error cause =>
      rw [hread] at hsame
      contradiction
  | ok found =>
      rw [hread] at hsame
      cases hsame
      exact ⟨(DatePattern.readTokens_atBoundary hread).2, fit_of_readTokens hfit hread⟩

end

end Machine

/-! ### Main statement -/

/-- The cursor of a parse is safe.  A token that is read at a boundary of the text takes a piece
that stands there, of the kind that the token reads, and stops at a boundary that lies no further
than the end, and behind the first one if the token is a field or stands for some text; every token
of a run is read at a boundary.  What is reported as left over is the rest of the text, and a text
that is read is made up of the pieces that the tokens take.  What stands before a token only shifts
the positions that reading it gives or reports, and at a place that is no boundary every token
fails.  The programs that count bytes are safe in the same way, where the type that counts memory
has room for the bytes of the text: at every place they give the position of the cursor. -/
theorem parse_cursors (text pattern : String) (locale : Option Locale) (reference : Date) :
    (∀ token ∈ tokenize pattern.toList, ∀ position draft next entered,
      IsBoundary text position →
        token.read locale (.seek text.toList position) draft = .ok (next, entered) →
          (∃ piece, (Cursor.seek text.toList position).Takes piece next ∧
            token.Accepts locale piece) ∧
          next = .seek text.toList next.position ∧ IsBoundary text next.position ∧
          position ≤ next.position ∧ next.position ≤ text.utf8ByteSize ∧
          ((∃ symbol len, token = .field symbol len) ∨ token.literalText ≠ [] →
            position < next.position)) ∧
    (∀ before after cursor draft, tokenize pattern.toList = before ++ after →
      readTokens locale before (.start text.toList) (.ofReference reference) =
        .ok (cursor, draft) →
          cursor = .seek text.toList cursor.position ∧ IsBoundary text cursor.position) ∧
    (∀ position rest, parse text pattern { locale, reference := .date reference } =
        .error (.trailingInput position rest) →
      rest ≠ "" ∧ ∃ front, text = front ++ rest ∧ position = front.utf8ByteSize ∧
        ∃ draft, readTokens locale (tokenize pattern.toList) (.start text.toList)
          (.ofReference reference) = .ok (⟨position, some rest.toList⟩, draft)) ∧
    (∀ d, parse text pattern { locale, reference := .date reference } = .ok d →
      ∃ pieces last final, Consumes locale (tokenize pattern.toList) (.start text.toList)
        (.ofReference reference) pieces last final ∧ pieces.flatten = text.toList ∧
          final.finish = .ok d) ∧
    (∀ (token : Token) (before : String) (position : Nat) (draft : Draft),
      token.read locale (.seek (before ++ text).toList (before.utf8ByteSize + position)) draft =
        shifted before.utf8ByteSize (token.read locale (.seek text.toList position) draft)) ∧
    (∀ (token : Token) (position : Nat) (draft : Draft), ¬ IsBoundary text position →
      token.read locale (.seek text.toList position) draft =
        .error (match token.slot? with
          | some slot => .inputExhausted slot.field position
          | none => .literalMismatch (String.ofList token.literalText) position)) ∧
    ∀ usize : Machine.Unsigned, text.utf8ByteSize < 2 ^ usize.bits →
      (∀ token ∈ tokenize pattern.toList, ∀ position draft next entered, draft.Fit →
        IsBoundary text position →
          (Machine.readToken usize locale text.toList token position draft).run =
            some (.ok (next, entered)) →
              (∃ piece, (Cursor.seek text.toList position).Takes piece (.seek text.toList next) ∧
                token.Accepts locale piece) ∧
              IsBoundary text next ∧ position ≤ next ∧ next ≤ text.utf8ByteSize ∧
              ((∃ symbol len, token = .field symbol len) ∨ token.literalText ≠ [] →
                position < next)) ∧
      (∀ before after position draft, tokenize pattern.toList = before ++ after →
        (Machine.readTokens usize locale text.toList before 0 (.ofReference reference)).run =
          some (.ok (position, draft)) → IsBoundary text position ∧ draft.Fit) ∧
      ∀ (token : Token) (position : Nat) (draft : Draft), draft.Fit →
        (Machine.readToken usize locale text.toList token position draft).run =
          some ((token.read locale (.seek text.toList position) draft).map
            fun (cursor, entered) => (cursor.position, entered)) := by
  have hlength : ∀ token ∈ tokenize pattern.toList, ∀ symbol len, token = .field symbol len →
      1 ≤ len := by
    rintro _ htoken symbol len rfl
    exact fieldsNonempty_scan false pattern.toList symbol len htoken
  refine ⟨?_, ?_, fun _ _ => parse_trailingInput, fun _ => parse_pieces, ?_, ?_, ?_⟩
  · intro token htoken position draft next entered hboundary
    exact Token.read_atBoundary (hlength token htoken) hboundary
  · intro before after cursor draft _
    exact readTokens_atBoundary
  · intro token before position draft
    rw [String.toList_append, ← byteLength_toList, Cursor.shift_seek, Token.read_shift]
  · exact fun token position draft hboundary => Token.read_of_not_isBoundary hboundary token draft
  · intro usize hfits
    refine ⟨?_, ?_, fun token position draft hdraft =>
      Machine.readToken_gives_seek hfits token position hdraft⟩
    · intro token htoken position draft next entered hdraft hboundary hrun
      obtain ⟨cursor, hread, rfl⟩ := Machine.read_of_readToken hfits hdraft hrun
      obtain ⟨⟨piece, htakes, haccepts⟩, hcursor, hnext⟩ :=
        Token.read_atBoundary (hlength token htoken) hboundary hread
      exact ⟨⟨piece, hcursor ▸ htakes, haccepts⟩, hnext⟩
    · intro before after position draft _
      exact Machine.readTokens_atBoundary hfits

/-- A month in capitals, whose umlaut takes two bytes, with and without a letter too many at the
end. -/
theorem parse_cursors_umlaut :
    (Token.field .month 4 ∈ tokenize "MMMM d".toList ∧ IsBoundary "MÄRZ 4x" 0 ∧
      (Token.field .month 4).read (some .german) (.seek "MÄRZ 4x".toList 0)
        (.ofReference .epoch) =
          .ok (⟨5, some " 4x".toList⟩, (Draft.ofReference .epoch).supplyMonth 2) ∧
      IsBoundary "MÄRZ 4x" 5 ∧ 5 ≤ "MÄRZ 4x".utf8ByteSize ∧ 0 < 5) ∧
    (tokenize "MMMM d".toList = [.field .month 4] ++ [.literal ' ', .field .day 1] ∧
      readTokens (some .german) [.field .month 4] (.start "MÄRZ 4x".toList)
        (.ofReference .epoch) =
          .ok (⟨5, some " 4x".toList⟩, (Draft.ofReference .epoch).supplyMonth 2) ∧
      ⟨5, some " 4x".toList⟩ = Cursor.seek "MÄRZ 4x".toList 5) ∧
    (parse "MÄRZ 4x" "MMMM d" { locale := some .german, reference := .date .epoch } =
        .error (.trailingInput 7 "x") ∧
      ∃ front, "MÄRZ 4x" = front ++ "x" ∧ 7 = front.utf8ByteSize) ∧
    (parse "MÄRZ 4" "MMMM d" { locale := some .german, reference := .date .epoch } =
        .ok ⟨5356800000, by decide⟩ ∧
      ∃ pieces last final, Consumes (some .german) (tokenize "MMMM d".toList)
        (.start "MÄRZ 4".toList) (.ofReference .epoch) pieces last final ∧
          pieces.flatten = "MÄRZ 4".toList) ∧
    (¬ IsBoundary "MÄRZ 4x" 2 ∧
      (Token.field .month 4).read (some .german) (.seek "MÄRZ 4x".toList 2)
        (.ofReference .epoch) = .error (.inputExhausted .month 2)) ∧
    "MÄRZ 4x".utf8ByteSize < 2 ^ (⟨64⟩ : Machine.Unsigned).bits ∧
      (Machine.readToken ⟨64⟩ (some .german) "MÄRZ 4x".toList (.field .month 4) 0
        (.ofReference .epoch)).run =
          some (.ok (5, (Draft.ofReference .epoch).supplyMonth 2)) ∧
      IsBoundary "MÄRZ 4x" 5 ∧ (0 < 5) ∧ ((Draft.ofReference .epoch).supplyMonth 2).Fit ∧
      (Machine.readToken ⟨64⟩ (some .german) "MÄRZ 4x".toList (.field .month 4) 2
        (.ofReference .epoch)).run = some (.error (.inputExhausted .month 2)) := by
  have htoken : Token.field .month 4 ∈ tokenize "MMMM d".toList := by decide
  have hstart : IsBoundary "MÄRZ 4x" 0 := by decide
  have hread : (Token.field .month 4).read (some .german) (.seek "MÄRZ 4x".toList 0)
      (.ofReference .epoch) =
        .ok (⟨5, some " 4x".toList⟩, (Draft.ofReference .epoch).supplyMonth 2) := by
    decide +kernel
  have hsplit : tokenize "MMMM d".toList =
      [.field .month 4] ++ [.literal ' ', .field .day 1] := by decide
  have hrun : readTokens (some .german) [.field .month 4] (.start "MÄRZ 4x".toList)
      (.ofReference .epoch) =
        .ok (⟨5, some " 4x".toList⟩, (Draft.ofReference .epoch).supplyMonth 2) := by
    decide +kernel
  have htrailing : parse "MÄRZ 4x" "MMMM d" { locale := some .german, reference := .date .epoch } =
      .error (.trailingInput 7 "x") := by decide +kernel
  have hparse : parse "MÄRZ 4" "MMMM d" { locale := some .german, reference := .date .epoch } =
      .ok ⟨5356800000, by decide⟩ := by decide +kernel
  have hinside : ¬ IsBoundary "MÄRZ 4x" 2 := by decide
  have hfits : "MÄRZ 4x".utf8ByteSize < 2 ^ (⟨64⟩ : Machine.Unsigned).bits := by decide
  have hfit : (Draft.ofReference .epoch).Fit := Draft.fit_ofReference .epoch
  obtain ⟨hstep, hcursors, hrest, -, -, hnone, hprograms⟩ :=
    parse_cursors "MÄRZ 4x" "MMMM d" (some .german) .epoch
  obtain ⟨hprogramStep, hprogramRun, hprogramAt⟩ := hprograms ⟨64⟩ hfits
  have hprogram : (Machine.readToken ⟨64⟩ (some .german) "MÄRZ 4x".toList (.field .month 4) 0
      (.ofReference .epoch)).run = some (.ok (5, (Draft.ofReference .epoch).supplyMonth 2)) :=
    (hprogramAt _ _ _ hfit).trans (by rw [hread]; rfl)
  have hprogramTokens : (Machine.readTokens ⟨64⟩ (some .german) "MÄRZ 4x".toList [.field .month 4] 0
      (.ofReference .epoch)).run = some (.ok (5, (Draft.ofReference .epoch).supplyMonth 2)) := by
    decide +kernel
  obtain ⟨-, hprogramNext, -, -, hprogramLt⟩ :=
    hprogramStep _ htoken _ _ _ _ hfit hstart hprogram
  obtain ⟨-, -, hnext, -, hle, hlt⟩ := hstep _ htoken _ _ _ _ hstart hread
  obtain ⟨-, front, htext, hposition, -⟩ := hrest _ _ htrailing
  obtain ⟨pieces, last, final, hconsumes, hpieces, -⟩ :=
    (parse_cursors "MÄRZ 4" "MMMM d" (some .german) .epoch).2.2.2.1 _ hparse
  exact ⟨⟨htoken, hstart, hread, hnext, hle, hlt (.inl ⟨_, _, rfl⟩)⟩,
    ⟨hsplit, hrun, (hcursors _ _ _ _ hsplit hrun).1⟩,
    ⟨htrailing, front, htext, hposition⟩,
    ⟨hparse, pieces, last, final, hconsumes, hpieces⟩,
    ⟨hinside, hnone (.field .month 4) 2 (.ofReference .epoch) hinside⟩,
    hfits, hprogram, hprogramNext, hprogramLt (.inl ⟨_, _, rfl⟩),
    (hprogramRun _ _ _ _ hsplit hprogramTokens).2,
    (hprogramAt _ _ _ hfit).trans (by
      rw [hnone (.field .month 4) 2 (.ofReference .epoch) hinside]
      rfl)⟩

end DatePattern

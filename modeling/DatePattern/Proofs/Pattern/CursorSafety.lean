import DatePattern.Locale.German
import DatePattern.Proofs.Pattern.Consumption
import DatePattern.Proofs.Pattern.Tokenization

/-! # Cursors along a parse

Whatever the text, the pattern and the locale are, a parse moves its cursor from boundary to
boundary of the text, forward at every field, and never beyond the end (`Token.read_atBoundary`,
`readTokens_atBoundary`).  Three facts about single tokens carry this:

* `Token.read_takes`: a token takes a piece that stands at the cursor;
* `Token.read_shift`: what stands before the cursor does not matter, except to positions;
* `Token.read_none`: where nothing can be cut off, every token fails. -/

namespace DatePattern

/-! ### Reading further on -/

/-- The same error further on in a text. -/
def ParseError.shift (count : Nat) : ParseError → ParseError
  | literalMismatch expected position => literalMismatch expected (count + position)
  | inputExhausted field position => inputExhausted field (count + position)
  | digitCount field expected found position => digitCount field expected found (count + position)
  | missingDigits field position => missingDigits field (count + position)
  | numberTooLarge field position => numberTooLarge field (count + position)
  | outOfRange field value min max => outOfRange field value min max
  | unmatchedText field position => unmatchedText field (count + position)
  | trailingInput position rest => trailingInput (count + position) rest
  | unrepresentable => unrepresentable

/-- The same cursor further on in a text. -/
def Cursor.shift (count : Nat) (cursor : Cursor) : Cursor :=
  ⟨count + cursor.position, cursor.rest?⟩

/-- What a token gives further on in a text. -/
def shifted (count : Nat) :
    Except ParseError (Cursor × Draft) → Except ParseError (Cursor × Draft)
  | .ok (next, draft) => .ok (next.shift count, draft)
  | .error cause => .error (cause.shift count)

theorem mapError_bind {ε ε' α β : Type} (g : ε → ε') (x : Except ε α) (f : α → Except ε β) :
    (x >>= f).mapError g = x.mapError g >>= fun a => (f a).mapError g := by
  cases x <;> rfl

theorem Cursor.shift_seek (before text : List Char) (position : Nat) :
    seek (before ++ text) (byteLength before + position) =
      (seek text position).shift (byteLength before) := by
  rw [seek, dropBytes?_prepend]
  rfl

section
variable {locale : Option Locale} (count : Nat) (cursor : Cursor) (draft : Draft)

theorem Cursor.rest_shift : (cursor.shift count).rest = cursor.rest := rfl

theorem Cursor.advance_shift (taken : Nat) :
    (cursor.shift count).advance taken = (cursor.advance taken).shift count := by
  simp [advance, shift, rest, Nat.add_assoc]

theorem readNumber_shift (field : Field) (span : DigitSpan) :
    readNumber field span (cursor.shift count) =
      (readNumber field span cursor).mapError (.shift count) := by
  rw [readNumber, readNumber, Cursor.rest_shift]
  split
  · rfl
  dsimp only
  split
  · rfl
  split
  · rfl
  split
  · rfl
  · rfl

theorem readName_shift (field : NameField) :
    readName locale field (cursor.shift count) =
      (readName locale field cursor).mapError (.shift count) := by
  rw [readName, readName, Cursor.rest_shift]
  split
  · rfl
  split
  · rfl
  · rfl

theorem readLiteral_shift (expected : List Char) :
    readLiteral expected (cursor.shift count) =
      (readLiteral expected cursor).mapError (.shift count) := by
  have hrest : (cursor.shift count).rest? = cursor.rest? := rfl
  rw [readLiteral, readLiteral, hrest]
  split
  · split
    · rfl
    · rfl
  · rfl

theorem Slot.read_shift (slot : Slot) :
    slot.read locale (cursor.shift count) draft =
      (slot.read locale cursor draft).mapError (.shift count) := by
  cases slot with
  | year len =>
      rw [Slot.read, Slot.read, readNumber_shift, mapError_bind]
      rfl
  | number field len =>
      rw [Slot.read, Slot.read, readNumber_shift, mapError_bind]
      congr 1
      funext found
      dsimp only
      split
      · rfl
      split
      · rfl
      · rfl
  | fraction len =>
      rw [Slot.read, Slot.read, readNumber_shift, mapError_bind]
      rfl
  | name field width =>
      rw [Slot.read, Slot.read, readName_shift, mapError_bind]
      rfl

/-- A token reads what is left at the cursor, wherever that is. -/
theorem Token.read_shift (token : Token) :
    token.read locale (cursor.shift count) draft =
      shifted count (token.read locale cursor draft) := by
  rw [Token.read, Token.read]
  cases token.slot? with
  | some slot =>
      dsimp only
      rw [Slot.read_shift]
      cases slot.read locale cursor draft with
      | ok found =>
          simp only [Except.mapError, bind, Except.bind, Cursor.advance_shift]
          rfl
      | error cause => rfl
  | none =>
      dsimp only
      rw [readLiteral_shift]
      cases readLiteral token.literalText cursor with
      | ok taken =>
          simp only [Except.mapError, bind, Except.bind, Cursor.advance_shift]
          rfl
      | error cause => rfl

end

/-! ### Reading where nothing can be cut off -/

theorem Slot.read_none {locale : Option Locale} (slot : Slot) (position : Nat) (draft : Draft) :
    slot.read locale ⟨position, none⟩ draft = .error (.inputExhausted slot.field position) := by
  cases slot <;> rfl

/-- Inside a character and past the end every token fails. -/
theorem Token.read_none {locale : Option Locale} (token : Token) (position : Nat) (draft : Draft) :
    token.read locale ⟨position, none⟩ draft =
      .error (match token.slot? with
        | some slot => .inputExhausted slot.field position
        | none => .literalMismatch (String.ofList token.literalText) position) := by
  rw [Token.read]
  cases token.slot? with
  | some slot =>
      dsimp only
      rw [Slot.read_none]
      rfl
  | none => rfl

/-! ### Errors of tokens -/

/-- The error is one of a token read at the position; only a whole parse finds something left over
or nothing that can be represented. -/
def ParseError.At (position : Nat) : ParseError → Prop
  | literalMismatch _ p | inputExhausted _ p | digitCount _ _ _ p | missingDigits _ p
  | numberTooLarge _ p | unmatchedText _ p => p = position
  | outOfRange _ _ _ _ => True
  | trailingInput _ _ | unrepresentable => False

theorem bind_eq_error {ε α β : Type} {x : Except ε α} {f : α → Except ε β} {e : ε}
    (h : x >>= f = .error e) : x = .error e ∨ ∃ a, x = .ok a ∧ f a = .error e := by
  cases x with
  | ok a => exact .inr ⟨a, rfl, h⟩
  | error e' =>
      cases h
      exact .inl rfl

section
variable {locale : Option Locale} {cursor : Cursor} {draft : Draft} {cause : ParseError}

theorem readNumber_error {field : Field} {span : DigitSpan}
    (h : readNumber field span cursor = .error cause) : cause.At cursor.position := by
  unfold readNumber at h
  split at h
  · cases h
    rfl
  dsimp only at h
  split at h
  · cases h
    rfl
  split at h
  · cases h
    rfl
  split at h
  · cases h
    rfl
  · contradiction

theorem readName_error {field : NameField} (h : readName locale field cursor = .error cause) :
    cause.At cursor.position := by
  unfold readName at h
  split at h
  · cases h
    rfl
  split at h
  · contradiction
  · cases h
    rfl

theorem readLiteral_error {expected : List Char}
    (h : readLiteral expected cursor = .error cause) : cause.At cursor.position := by
  unfold readLiteral at h
  split at h
  · split at h
    · contradiction
    · cases h
      rfl
  · cases h
    rfl

theorem Slot.read_error {slot : Slot} (h : slot.read locale cursor draft = .error cause) :
    cause.At cursor.position := by
  cases slot with
  | year len =>
      rcases bind_eq_error h with h | ⟨_, _, h⟩
      · exact readNumber_error h
      · contradiction
  | number field len =>
      rcases bind_eq_error h with h | ⟨_, _, h⟩
      · exact readNumber_error h
      · dsimp only at h
        split at h
        · cases h
          trivial
        split at h
        · contradiction
        · cases h
          trivial
  | fraction len =>
      rcases bind_eq_error h with h | ⟨_, _, h⟩
      · exact readNumber_error h
      · contradiction
  | name field width =>
      rcases bind_eq_error h with h | ⟨_, _, h⟩
      · exact readName_error h
      · contradiction

/-- The errors of a token are those of reading at the cursor. -/
theorem Token.read_error {token : Token} (h : token.read locale cursor draft = .error cause) :
    cause.At cursor.position := by
  rw [Token.read] at h
  split at h
  · rcases bind_eq_error h with h | ⟨_, _, h⟩
    · exact Slot.read_error h
    · contradiction
  · rcases bind_eq_error h with h | ⟨_, _, h⟩
    · exact readLiteral_error h
    · contradiction

theorem readTokens_error : ∀ {tokens : List Token} {cursor : Cursor} {draft : Draft},
    readTokens locale tokens cursor draft = .error cause → ∃ position, cause.At position
  | [], _, _, h => by contradiction
  | token :: tokens, cursor, draft, h => by
      rw [readTokens] at h
      rcases bind_eq_error h with h | ⟨_, _, h⟩
      · exact ⟨_, Token.read_error h⟩
      · exact readTokens_error h

end

/-! ### Runs -/

/-- The tokens take the pieces from a text, one after the other. -/
inductive Consumes (locale : Option Locale) :
    List Token → Cursor → Draft → List (List Char) → Cursor → Draft → Prop
  | nil (cursor : Cursor) (draft : Draft) : Consumes locale [] cursor draft [] cursor draft
  | cons {token : Token} {tokens : List Token} {piece : List Char} {pieces : List (List Char)}
      {cursor next last : Cursor} {draft entered final : Draft} :
      token.read locale cursor draft = .ok (next, entered) → cursor.Takes piece next →
        token.Accepts locale piece → Consumes locale tokens next entered pieces last final →
          Consumes locale (token :: tokens) cursor draft (piece :: pieces) last final

/-- What a run takes, piece by piece, is what lies between its first and its last cursor. -/
theorem readTokens_consumes {locale : Option Locale} : ∀ {tokens : List Token}
    {cursor last : Cursor} {draft final : Draft} {text : List Char}, cursor.rest? = some text →
      readTokens locale tokens cursor draft = .ok (last, final) →
        ∃ pieces, Consumes locale tokens cursor draft pieces last final ∧
          cursor.Takes pieces.flatten last
  | [], cursor, last, draft, final, text, hrest, h => by
      cases h
      exact ⟨[], .nil cursor draft, Cursor.takes_nil hrest⟩
  | token :: tokens, cursor, last, draft, final, text, hrest, h => by
      rw [readTokens] at h
      obtain ⟨⟨next, entered⟩, hread, h⟩ := bind_eq_ok.1 h
      obtain ⟨piece, htakes, haccepts⟩ := Token.read_takes hread
      obtain ⟨rest, -, hnext⟩ := id htakes
      obtain ⟨pieces, hrun, hlast⟩ := readTokens_consumes (by rw [hnext]) h
      exact ⟨piece :: pieces, .cons hread htakes haccepts hrun, htakes.trans hlast⟩

/-! ### Field tokens of a pattern -/

/-- Every field is a run of at least one letter. -/
def FieldsNonempty (tokens : List Token) : Prop :=
  ∀ symbol len, .field symbol len ∈ tokens → 1 ≤ len

theorem fieldsNonempty_scan (inside : Bool) (pattern : List Char) :
    FieldsNonempty (scan inside pattern) := by
  intro symbol len hmem
  cases inside with
  | false => exact (scans_scan false pattern).1.1 _ hmem
  | true =>
      obtain ⟨-, ⟨text, htokens⟩ | ⟨text, later, htokens, hlater, -⟩⟩ := scans_scan true pattern
      · simp [htokens] at hmem
      · rw [htokens] at hmem
        exact hlater.1 _ ((List.mem_cons.1 hmem).resolve_left (by simp))

/-- A field of a pattern, or a token that stands for some text, takes something. -/
theorem Token.Accepts.ne_nil {locale : Option Locale} {token : Token} {piece : List Char}
    (h : token.Accepts locale piece)
    (htoken : (∃ symbol len, 1 ≤ len ∧ token = .field symbol len) ∨ token.literalText ≠ []) :
    piece ≠ [] := by
  rw [Token.Accepts] at h
  split at h
  · exact h.1
  · rw [h]
    rcases htoken with ⟨symbol, len, hlen, rfl⟩ | htoken
    · rw [Token.literalText, Ne, List.replicate_eq_nil_iff]
      omega
    · exact htoken

/-! ### Boundaries -/

section
variable {locale : Option Locale} {text : String}

/-- A token that is read at a boundary of the text takes a piece that stands there and stops at a
boundary that lies no further than the end, and behind the first one if the token is a field or
stands for some text. -/
theorem Token.read_atBoundary {token : Token}
    (htoken : ∀ symbol len, token = .field symbol len → 1 ≤ len) {position : Nat} {next : Cursor}
    {draft entered : Draft} (hboundary : IsBoundary text position)
    (hread : token.read locale (.seek text.toList position) draft = .ok (next, entered)) :
    (∃ piece, (Cursor.seek text.toList position).Takes piece next ∧ token.Accepts locale piece) ∧
      next = .seek text.toList next.position ∧ IsBoundary text next.position ∧
      position ≤ next.position ∧ next.position ≤ text.utf8ByteSize ∧
      ((∃ symbol len, token = .field symbol len) ∨ token.literalText ≠ [] →
        position < next.position) := by
  obtain ⟨piece, htakes, haccepts⟩ := read_takes hread
  have hnext := htakes.onBoundary (Cursor.onBoundary_seek hboundary)
  have hposition : next.position = position + byteLength piece := htakes.position
  refine ⟨⟨piece, htakes, haccepts⟩, hnext.eq_seek, hnext.isBoundary, ?_,
    hnext.isBoundary.le_utf8ByteSize, ?_⟩
  · omega
  · intro hsome
    have hne : piece ≠ [] := by
      refine haccepts.ne_nil (hsome.imp_left ?_)
      rintro ⟨symbol, len, rfl⟩
      exact ⟨symbol, len, htoken symbol len rfl, rfl⟩
    have hpos := byteLength_pos hne
    omega

/-- Tokens that are read from the start of the text stop at a boundary. -/
theorem readTokens_atBoundary {tokens : List Token} {cursor : Cursor} {start draft : Draft}
    (h : readTokens locale tokens (.start text.toList) start = .ok (cursor, draft)) :
    cursor = .seek text.toList cursor.position ∧ IsBoundary text cursor.position := by
  obtain ⟨pieces, -, htakes⟩ := readTokens_consumes rfl h
  have hcursor := htakes.onBoundary (Cursor.onBoundary_start text.toList)
  exact ⟨hcursor.eq_seek, hcursor.isBoundary⟩

/-- At a place that is no boundary every token fails. -/
theorem Token.read_of_not_isBoundary {position : Nat} (h : ¬ IsBoundary text position)
    (token : Token) (draft : Draft) :
    token.read locale (.seek text.toList position) draft =
      .error (match token.slot? with
        | some slot => .inputExhausted slot.field position
        | none => .literalMismatch (String.ofList token.literalText) position) := by
  rw [Cursor.seek_eq_none h, read_none]

end

/-! ### A whole parse -/

theorem Draft.finish_error {draft : Draft} {cause : ParseError}
    (h : draft.finish = .error cause) : cause = .unrepresentable := by
  rw [finish] at h
  cases hfields : Date.ofFields draft.fields with
  | ok d => simp [hfields, Except.mapError] at h
  | error e => simpa [hfields, Except.mapError] using h.symm

section
variable {locale : Option Locale} {reference : Date} {tokens : List Token} {text : List Char}

/-- What is reported to be left over is left at the last cursor. -/
theorem parseTokens_trailingInput {position : Nat} {rest : String}
    (h : parseTokens locale reference tokens text = .error (.trailingInput position rest)) :
    rest ≠ "" ∧ ∃ draft, readTokens locale tokens (.start text) (.ofReference reference) =
      .ok (⟨position, some rest.toList⟩, draft) := by
  rcases bind_eq_error h with hrun | ⟨⟨cursor, draft⟩, hrun, h⟩
  · obtain ⟨place, hat⟩ := readTokens_error hrun
    exact hat.elim
  · dsimp only at h
    split at h
    · exact absurd (Draft.finish_error h) (by simp)
    · rename_i hrest
      cases h
      refine ⟨?_, draft, ?_⟩
      · rwa [Ne, String.ofList_eq_empty_iff]
      · rw [hrun, String.toList_ofList, ← Cursor.rest?_of_rest_ne_nil hrest]

end

section
variable {text pattern : String} {locale : Option Locale} {reference : Date}

/-- What is reported as left over is the rest of the text. -/
theorem parse_trailingInput {position : Nat} {rest : String}
    (h : parse text pattern { locale, reference := .date reference } =
      .error (.trailingInput position rest)) :
    rest ≠ "" ∧ ∃ front, text = front ++ rest ∧ position = front.utf8ByteSize ∧
      ∃ draft, readTokens locale (tokenize pattern.toList) (.start text.toList)
        (.ofReference reference) = .ok (⟨position, some rest.toList⟩, draft) := by
  obtain ⟨hne, draft, hrun⟩ := parseTokens_trailingInput h
  obtain ⟨pieces, -, htakes⟩ := readTokens_consumes rfl hrun
  obtain ⟨tail, htext, hlast⟩ := htakes
  have htail : rest.toList = tail := Option.some.inj (congrArg Cursor.rest? hlast)
  have hposition : position = 0 + byteLength pieces.flatten := congrArg Cursor.position hlast
  refine ⟨hne, String.ofList pieces.flatten, ?_, ?_, draft, hrun⟩
  · rw [← String.toList_inj, String.toList_append, String.toList_ofList, htail]
    exact Option.some.inj htext
  · rw [hposition, Nat.zero_add, ← byteLength_toList, String.toList_ofList]

/-- A text that is read is made up of the pieces that the tokens take. -/
theorem parse_pieces {d : Date}
    (h : parse text pattern { locale, reference := .date reference } = .ok d) :
    ∃ pieces last final, Consumes locale (tokenize pattern.toList) (.start text.toList)
      (.ofReference reference) pieces last final ∧ pieces.flatten = text.toList ∧
        final.finish = .ok d := by
  obtain ⟨cursor, draft, hrun, hrest, hfinish⟩ := parseTokens_eq_ok_iff_run.1 h
  obtain ⟨pieces, hconsumes, htakes⟩ := readTokens_consumes rfl hrun
  refine ⟨pieces, cursor, draft, hconsumes, ?_, Draft.finish_eq_ok_iff.2 hfinish⟩
  obtain ⟨tail, htext, rfl⟩ := htakes
  cases hrest
  rw [List.append_nil] at htext
  exact (Option.some.inj htext).symm

end

end DatePattern

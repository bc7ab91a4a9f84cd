import DatePattern.Proofs.Locale.Overtaking
import DatePattern.Proofs.Pattern.ReadBack
import DatePattern.Proofs.Text.Boundary

/-! # Reading English input with a locale

A text that is read without a locale may be read with one as well, or fail, or come to another date:
the tokens of a pattern are read one after the other, and nothing is taken back.  All depends on
whether the parse comes to an English name that a name of the locale overtakes (`Overtakes`).

* `Token.read_of_not_overtaken`, `Token.read_of_overtaken`: a token, without a locale and with one.
* `readTokens_of_not_overtakes`, `exists_readTokens_ne_of_overtakes`: a run, token by token.
* `parse_german`: when the German locale makes no difference to English input.
* `parse_german_of_namesSeparated`: a pattern with which it never does, whatever the text. -/

namespace DatePattern

/-- The field that a token shows by name. -/
def Token.nameField? (token : Token) : Option NameField :=
  match token.slot? with
  | some (.name shown _) => some shown
  | _ => none

/-- The tokens, read without a locale, come to a name of the field that a name of the locale
overtakes. -/
def Overtakes (locale : Locale) (field : NameField) : List Token → Cursor → Draft → Prop
  | [], _, _ => False
  | token :: tokens, cursor, draft =>
    (token.nameField? = some field ∧ field.Overtaken locale cursor.rest) ∨
      match token.read none cursor draft with
      | .ok (next, entered) => Overtakes locale field tokens next entered
      | .error _ => False

instance decidableOvertakes (locale : Locale) (field : NameField) :
    ∀ (tokens : List Token) (cursor : Cursor) (draft : Draft),
      Decidable (Overtakes locale field tokens cursor draft)
  | [], _, _ => inferInstanceAs (Decidable False)
  | token :: tokens, cursor, draft =>
    have : Decidable (match token.read none cursor draft with
        | .ok (next, entered) => Overtakes locale field tokens next entered
        | .error _ => False) :=
      match token.read none cursor draft with
      | .ok (next, entered) => decidableOvertakes locale field tokens next entered
      | .error _ => inferInstanceAs (Decidable False)
    inferInstanceAs (Decidable (_ ∨ _))

/-! ### One token -/

@[simp] theorem Cursor.rest_advance (cursor : Cursor) (count : Nat) :
    (cursor.advance count).rest = cursor.rest.drop count := by
  cases hrest : cursor.rest? <;> simp [advance, rest, hrest]

theorem readName_eq_ok_iff {locale : Option Locale} {field : NameField} {cursor : Cursor}
    {found : Nat × Nat} :
    readName locale field cursor = .ok found ↔
      cursor.rest ≠ [] ∧ field.recognize locale cursor.rest = some found := by
  rw [readName]
  split
  · simp [*]
  · split <;> simp [*]

theorem Token.nameField?_eq_some_iff {token : Token} {field : NameField} :
    token.nameField? = some field ↔ ∃ width, token.slot? = some (.name field width) := by
  rw [nameField?]
  split
  · rename_i shown width hslot
    simp [hslot]
  · rename_i hslot
    simp only [reduceCtorEq, false_iff, not_exists]
    exact fun width => hslot field width

/-- Further on in a text more of it lies in front. -/
theorem Cursor.position_advance_lt {cursor : Cursor} {count further : Nat} (hlt : count < further)
    (hle : further ≤ cursor.rest.length) :
    (cursor.advance count).position < (cursor.advance further).position := by
  obtain ⟨more, rfl⟩ := Nat.exists_eq_add_of_lt hlt
  have hpiece : (cursor.rest.drop count).take (more + 1) ≠ [] := by
    rw [← List.length_pos_iff, List.length_take, List.length_drop]
    omega
  have hsplit : cursor.rest.take (count + more + 1) =
      cursor.rest.take count ++ (cursor.rest.drop count).take (more + 1) := by
    rw [Nat.add_assoc, List.take_add]
  have hbytes := byteLength_pos hpiece
  simp only [advance, hsplit, byteLength_append]
  omega

section
variable {locale : Locale} {token : Token} {cursor next : Cursor} {draft entered : Draft}
  (h : token.read none cursor draft = .ok (next, entered))
include h

/-- A token that shows a field by name has recognized an English name. -/
theorem Token.recognize_of_read {field : NameField} (hfield : token.nameField? = some field) :
    ∃ index taken, field.recognize none cursor.rest = some (index, taken) ∧
      next = cursor.advance taken ∧ entered = field.enter draft index := by
  obtain ⟨width, hslot⟩ := Token.nameField?_eq_some_iff.1 hfield
  rw [read, hslot] at h
  obtain ⟨⟨taken, filled⟩, hread, heq⟩ := bind_eq_ok.1 h
  cases heq
  obtain ⟨⟨index, count⟩, hname, heq⟩ := bind_eq_ok.1 hread
  cases heq
  exact ⟨index, taken, (readName_eq_ok_iff.1 hname).2, rfl, rfl⟩

/-- Where no name of the locale overtakes the English one, a token is read with the locale as
without it. -/
theorem Token.read_of_not_overtaken (hkeeps : ∀ field : NameField, field.KeepsEnglish locale)
    (hno : ∀ field ∈ token.nameField?, ¬ field.Overtaken locale cursor.rest) :
    token.read (some locale) cursor draft = .ok (next, entered) := by
  rw [read] at h ⊢
  cases hslot : token.slot? with
  | none => rwa [hslot] at h
  | some slot =>
      rw [hslot] at h
      cases slot with
      | name field width =>
          obtain ⟨⟨taken, filled⟩, hread, heq⟩ := bind_eq_ok.1 h
          obtain ⟨⟨index, count⟩, hname, heq'⟩ := bind_eq_ok.1 hread
          obtain ⟨hne, hfound⟩ := readName_eq_ok_iff.1 hname
          have hover := hno field (Token.nameField?_eq_some_iff.2 ⟨width, hslot⟩)
          have hsame : readName (some locale) field cursor = .ok (index, count) :=
            readName_eq_ok_iff.2
              ⟨hne, NameField.recognize_of_not_overtaken hfound (hkeeps field) hover⟩
          refine bind_eq_ok.2 ⟨(taken, filled), ?_, heq⟩
          exact bind_eq_ok.2 ⟨(index, count), hsame, heq'⟩
      | _ => exact h

/-- Where a name of the locale overtakes the English one, a token goes further on with the
locale. -/
theorem Token.read_of_overtaken {field : NameField} (hfield : token.nameField? = some field)
    (hover : field.Overtaken locale cursor.rest) :
    ∃ further filled, token.read (some locale) cursor draft = .ok (further, filled) ∧
      next.position < further.position := by
  obtain ⟨index, taken, hfound, rfl, -⟩ := Token.recognize_of_read h hfield
  obtain ⟨other, further, hother, hlt, hle⟩ := NameField.lt_recognize_of_overtaken hfound hover
  obtain ⟨width, hslot⟩ := Token.nameField?_eq_some_iff.1 hfield
  have hne : cursor.rest ≠ [] := by
    rw [← List.length_pos_iff]
    omega
  refine ⟨cursor.advance further, field.enter draft other, ?_, Cursor.position_advance_lt hlt hle⟩
  rw [read, hslot]
  simp only [Slot.read, readName_eq_ok_iff.2 ⟨hne, hother⟩, bind, Except.bind]

end

/-! ### Runs -/

section
variable {locale : Locale}

theorem overtakes_cons {field : NameField} {token : Token} {tokens : List Token}
    {cursor next : Cursor} {draft entered : Draft}
    (h : token.read none cursor draft = .ok (next, entered)) :
    Overtakes locale field (token :: tokens) cursor draft ↔
      (token.nameField? = some field ∧ field.Overtaken locale cursor.rest) ∨
        Overtakes locale field tokens next entered := by
  rw [Overtakes, h]

/-- As long as no name of the locale overtakes an English one, every token is read with the locale
as without it. -/
theorem readTokens_of_not_overtakes (hkeeps : ∀ field : NameField, field.KeepsEnglish locale) :
    ∀ {tokens : List Token} {cursor last : Cursor} {draft final : Draft},
      readTokens none tokens cursor draft = .ok (last, final) →
        (∀ field, ¬ Overtakes locale field tokens cursor draft) →
          ∀ before, before <+: tokens →
            readTokens (some locale) before cursor draft = readTokens none before cursor draft
  | _, _, _, _, _, _, _, [], _ => rfl
  | [], _, _, _, _, _, _, _ :: _, hprefix => by simp at hprefix
  | token :: tokens, cursor, last, draft, final, hrun, hno, first :: before, hprefix => by
      obtain ⟨rfl, hbefore⟩ := List.cons_prefix_cons.1 hprefix
      rw [readTokens] at hrun
      obtain ⟨⟨next, entered⟩, hread, hrest⟩ := bind_eq_ok.1 hrun
      simp only [overtakes_cons hread, not_or] at hno
      have hsame : first.read (some locale) cursor draft = .ok (next, entered) :=
        Token.read_of_not_overtaken hread hkeeps fun field hfield hover =>
          (hno field).1 ⟨hfield, hover⟩
      have hlater : ∀ field, ¬ Overtakes locale field tokens next entered :=
        fun field => (hno field).2
      have ih := readTokens_of_not_overtakes hkeeps hrest hlater before hbefore
      rw [readTokens, readTokens, hsame, hread]
      exact ih

/-- Once a name of the locale overtakes an English one, the tokens up to there are not read with
the locale as without it. -/
theorem exists_readTokens_ne_of_overtakes {field : NameField} :
    ∀ {tokens : List Token} {cursor last : Cursor} {draft final : Draft},
      readTokens none tokens cursor draft = .ok (last, final) →
        Overtakes locale field tokens cursor draft →
          ∃ before, before <+: tokens ∧
            readTokens (some locale) before cursor draft ≠ readTokens none before cursor draft
  | [], _, _, _, _, _, h => h.elim
  | token :: tokens, cursor, last, draft, final, hrun, h => by
      rw [readTokens] at hrun
      obtain ⟨⟨next, entered⟩, hread, hrest⟩ := bind_eq_ok.1 hrun
      by_cases hsame : token.read (some locale) cursor draft = .ok (next, entered)
      · rcases (overtakes_cons hread).1 h with ⟨hfield, hover⟩ | hlater
        · obtain ⟨further, filled, hfurther, hlt⟩ := Token.read_of_overtaken hread hfield hover
          rw [hsame] at hfurther
          cases hfurther
          omega
        · obtain ⟨before, hprefix, hne⟩ := exists_readTokens_ne_of_overtakes hrest hlater
          refine ⟨token :: before, List.cons_prefix_cons.2 ⟨rfl, hprefix⟩, ?_⟩
          rw [readTokens, readTokens, hsame, hread]
          exact hne
      · refine ⟨[token], List.cons_prefix_cons.2 ⟨rfl, List.nil_prefix⟩, ?_⟩
        rw [readTokens, readTokens, hread]
        intro heq
        obtain ⟨⟨further, filled⟩, hfurther, hdone⟩ := bind_eq_ok.1 heq
        cases hdone
        exact hsame hfurther

/-- What German names overtake are English months and weekdays. -/
theorem month_or_weekday_of_overtakes_german {field : NameField} :
    ∀ {tokens : List Token} {cursor last : Cursor} {draft final : Draft},
      readTokens none tokens cursor draft = .ok (last, final) →
        Overtakes .german field tokens cursor draft → field = .month ∨ field = .weekday
  | [], _, _, _, _, _, h => h.elim
  | token :: tokens, cursor, last, draft, final, hrun, h => by
      rw [readTokens] at hrun
      obtain ⟨⟨next, entered⟩, hread, hrest⟩ := bind_eq_ok.1 hrun
      rcases (overtakes_cons hread).1 h with ⟨hfield, hover⟩ | hlater
      · obtain ⟨index, taken, hfound, -⟩ := Token.recognize_of_read hread hfield
        by_contra hother
        exact NameField.not_overtaken_german (not_or.1 hother) hfound hover
      · exact month_or_weekday_of_overtakes_german hrest hlater

end

/-! ### English input and the German locale -/

/-- Every field that the tokens show by name ends where the tokens after it begin. -/
def NamesSeparated : List Token → Prop
  | [] => True
  | token :: rest =>
    (token.nameField? ≠ none → token.EndsBefore rest) ∧ NamesSeparated rest

/-- Where a text that was read goes on with what ends a name, a separator stands or nothing. -/
theorem separator_of_endsBefore {token : Token} {field : NameField} {width : Width}
    (hslot : token.slot? = some (.name field width)) :
    ∀ {tokens : List Token}, token.EndsBefore tokens →
      ∀ {cursor last : Cursor} {draft final : Draft},
        readTokens none tokens cursor draft = .ok (last, final) → last.rest = [] →
          ∀ c ∈ cursor.rest.head?, c ∈ separators
  | [], _, cursor, last, draft, final, hrun, hlast => by
      cases hrun
      simp [hlast]
  | next :: rest, hnext, cursor, last, draft, final, hrun, hlast => by
      obtain ⟨hliteral, c, text, htext, hends⟩ := hnext.literal hslot
      rw [readTokens] at hrun
      obtain ⟨⟨further, filled⟩, hread, -⟩ := bind_eq_ok.1 hrun
      rw [Token.read, hliteral] at hread
      obtain ⟨taken, htaken, -⟩ := bind_eq_ok.1 hread
      obtain ⟨-, tail, htail⟩ := readLiteral_eq_ok htaken
      simp only [Cursor.rest, htail, htext, Option.getD_some, List.cons_append, List.head?_cons,
        Option.mem_def, Option.some.injEq]
      rintro _ rfl
      exact hends

/-- Names before separators are not overtaken. -/
theorem not_overtakes_of_namesSeparated {field : NameField} :
    ∀ {tokens : List Token}, NamesSeparated tokens →
      ∀ {cursor last : Cursor} {draft final : Draft},
        readTokens none tokens cursor draft = .ok (last, final) → last.rest = [] →
          ¬ Overtakes .german field tokens cursor draft
  | [], _, _, _, _, _, _, _ => id
  | token :: tokens, ⟨hends, hsep⟩, cursor, last, draft, final, hrun, hlast => by
      rw [readTokens] at hrun
      obtain ⟨⟨next, entered⟩, hread, hrest⟩ := bind_eq_ok.1 hrun
      rw [overtakes_cons hread, not_or]
      refine ⟨?_, not_overtakes_of_namesSeparated hsep hrest hlast⟩
      rintro ⟨hfield, hover⟩
      obtain ⟨width, hslot⟩ := Token.nameField?_eq_some_iff.1 hfield
      obtain ⟨index, taken, hfound, rfl, -⟩ := Token.recognize_of_read hread hfield
      obtain ⟨_, _, _, hlt, hle⟩ := NameField.lt_recognize_of_overtaken hfound hover
      have hnext := separator_of_endsBefore hslot (hends (by simp [hfield])) hrest hlast
      rw [Cursor.rest_advance] at hnext
      have hfront : field.recognize none (cursor.rest.take taken ++ cursor.rest.drop taken) =
          some (index, (cursor.rest.take taken).length) := by
        rw [List.take_append_drop, List.length_take, Nat.min_eq_left (by omega), hfound]
      rw [← List.take_append_drop taken cursor.rest] at hover
      exact NameField.not_overtaken_of_separator hfront hnext hover

section
variable {text pattern : String} {reference d : Date}
  (h : parse text pattern { reference := .date reference } = .ok d)
include h

/-- Where no German name overtakes an English one, the German locale makes no difference. -/
theorem parse_german_of_not_overtakes
    (hno : ∀ field, ¬ Overtakes .german field (tokenize pattern.toList)
      (.start text.toList) (.ofReference reference)) :
    parse text pattern { locale := some .german, reference := .date reference } = .ok d := by
  rw [parse_eq_parseTokens] at h ⊢
  obtain ⟨last, final, hrun, hlast, hdate⟩ := parseTokens_eq_ok_iff_run.1 h
  have hsame := readTokens_of_not_overtakes NameField.keepsEnglish_german hrun hno _
    (List.prefix_refl _)
  exact parseTokens_eq_ok_iff_run.2 ⟨last, final, hsame.trans hrun, hlast, hdate⟩

/-- English names before separators are read with the German locale as without it. -/
theorem parse_german_of_namesSeparated (hsep : NamesSeparated (tokenize pattern.toList)) :
    parse text pattern { locale := some .german, reference := .date reference } = .ok d := by
  apply parse_german_of_not_overtakes h
  intro field
  rw [parse_eq_parseTokens] at h
  obtain ⟨last, final, hrun, hlast, -⟩ := parseTokens_eq_ok_iff_run.1 h
  exact not_overtakes_of_namesSeparated hsep hrun hlast

end

/-- A text that is read without a locale comes to the same date with the German one, unless on the
way a German month or weekday overtakes an English one.  If none does, every token is read alike,
and if one does, not every token is. -/
theorem parse_german {text pattern : String} {reference d : Date}
    (h : parse text pattern { reference := .date reference } = .ok d) :
    let tokens := tokenize pattern.toList
    let start := Cursor.start text.toList
    let seed := Draft.ofReference reference
    (¬ Overtakes .german .month tokens start seed ∧ ¬ Overtakes .german .weekday tokens start seed →
      parse text pattern { locale := some .german, reference := .date reference } = .ok d) ∧
    (¬ Overtakes .german .month tokens start seed ∧ ¬ Overtakes .german .weekday tokens start seed ↔
      ∀ before, before <+: tokens →
        readTokens (some .german) before start seed = readTokens none before start seed) := by
  intro tokens start seed
  have hparsed := h
  rw [parse_eq_parseTokens] at hparsed
  obtain ⟨last, final, hrun, -⟩ := parseTokens_eq_ok_iff_run.1 hparsed
  have hno : ¬ Overtakes .german .month tokens start seed ∧
      ¬ Overtakes .german .weekday tokens start seed →
        ∀ field, ¬ Overtakes .german field tokens start seed := by
    rintro ⟨hmonth, hweekday⟩ field hover
    rcases month_or_weekday_of_overtakes_german hrun hover with rfl | rfl
    · exact hmonth hover
    · exact hweekday hover
  refine ⟨fun hnames => ?_, fun hnames => ?_, fun hsame => ?_⟩
  · exact parse_german_of_not_overtakes h (hno hnames)
  · exact readTokens_of_not_overtakes NameField.keepsEnglish_german hrun (hno hnames)
  · have hnone : ∀ field, ¬ Overtakes .german field tokens start seed := by
      intro field hover
      obtain ⟨before, hbefore, hne⟩ := exists_readTokens_ne_of_overtakes hrun hover
      exact hne (hsame before hbefore)
    exact ⟨hnone .month, hnone .weekday⟩

/-- A weekday and a month before separators, and a month before the dot with which the German
abbreviation ends. -/
theorem parse_german_fullNames :
    (parse "Thursday, May 9, 2024" "EEEE, MMM d, y" { reference := .date .epoch } =
        .ok ⟨1715212800000, by decide⟩ ∧
      parse "Thursday, May 9, 2024" "EEEE, MMM d, y"
          { locale := some .german, reference := .date .epoch } =
        .ok ⟨1715212800000, by decide⟩) ∧
    (parse "Jan. 5, 2024" "MMM. d, y" { reference := .date .epoch } =
        .ok ⟨1704412800000, by decide⟩ ∧
      ∃ before, before <+: tokenize "MMM. d, y".toList ∧
        readTokens (some .german) before (.start "Jan. 5, 2024".toList) (.ofReference .epoch) ≠
          readTokens none before (.start "Jan. 5, 2024".toList) (.ofReference .epoch)) := by
  have hmay : parse "Thursday, May 9, 2024" "EEEE, MMM d, y" { reference := .date .epoch } =
      .ok ⟨1715212800000, by decide⟩ := by decide +kernel
  have hjan : parse "Jan. 5, 2024" "MMM. d, y" { reference := .date .epoch } =
      .ok ⟨1704412800000, by decide⟩ := by decide +kernel
  refine ⟨⟨hmay, (parse_german hmay).1 ?_⟩, hjan, ?_⟩
  · decide +kernel
  · have hover : Overtakes .german .month (tokenize "MMM. d, y".toList)
        (.start "Jan. 5, 2024".toList) (.ofReference .epoch) := by decide +kernel
    have hiff := (parse_german hjan).2
    by_contra hnone
    push Not at hnone
    exact (hiff.2 hnone).1 hover

/-- With the German locale one English text is not read at all, for the dot belongs to the month
there, and another one is read as a date eight months earlier. -/
theorem parse_german_overtaken :
    (parse "Jan. 5, 2024" "MMM. d, y" { reference := .date ⟨1704067200000, by decide⟩ } =
        .ok ⟨1704412800000, by decide⟩ ∧
      parse "Jan. 5, 2024" "MMM. d, y"
          { locale := some .german, reference := .date ⟨1704067200000, by decide⟩ } =
        .error (.literalMismatch "." 4)) ∧
    (parse "maimarimfrimdsat" "MMMLLL'im'MMM'rim'EMMMLLLE"
          { reference := .date ⟨1704067200000, by decide⟩ } =
        .ok ⟨1733011200000, by decide⟩ ∧
      parse "maimarimfrimdsat" "MMMLLL'im'MMM'rim'EMMMLLLE"
          { locale := some .german, reference := .date ⟨1704067200000, by decide⟩ } =
        .ok ⟨1711929600000, by decide⟩) := by
  decide +kernel

end DatePattern

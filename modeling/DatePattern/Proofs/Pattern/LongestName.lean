import DatePattern.Locale.Candidates
import DatePattern.Proofs.Pattern.AddedLocale

/-! # The name that a token takes

A token that shows a field by name takes a name whenever the text goes on with one of the pool, and
then the longest one, the earliest of equally long ones (`Token.read_longestName`).  A single initial
is taken as the name that it is, never in place of one.

* `longestMatch_eq_some_iff`: the longest match, by where it stands among the names.
* `NameField.recognizeFirst_eq`: trying the names from the longest to the shortest comes to it. -/

namespace DatePattern

/-! ### Beginnings -/

/-- The text begins with the name, character by character, case aside. -/
def Begins (text name : List Char) : Prop :=
  ∃ piece tail, text = piece ++ tail ∧ List.Forall₂ (fun c n => sameLetter c n = true) piece name

theorem beginsWith_iff {text name : List Char} :
    beginsWith text name = true ↔ Begins text name := by
  constructor
  · exact spelled_of_beginsWith
  · rintro ⟨piece, tail, rfl, hpiece⟩
    exact beginsWith_append hpiece tail

instance (text name : List Char) : Decidable (Begins text name) :=
  decidable_of_iff _ beginsWith_iff

/-! ### The longest match -/

/-- The text begins with the name.  The names before it with which the text begins as well are
shorter, and those after it are no longer. -/
def IsLongestMatch (text : List Char) (names : List Name) (found : Name) : Prop :=
  ∃ before after, names = before ++ found :: after ∧ Begins text found.text ∧
    (∀ name ∈ before, Begins text name.text → name.text.length < found.text.length) ∧
    ∀ name ∈ after, Begins text name.text → name.text.length ≤ found.text.length

section
variable {text : List Char} {names : List Name} {found : Name}

theorem IsLongestMatch.begins (h : IsLongestMatch text names found) : Begins text found.text := by
  obtain ⟨before, after, -, hbegins, -⟩ := h
  exact hbegins

theorem longestMatch_append_cons {before after : List Name}
    (hfound : beginsWith text found.text = true)
    (hbefore : ∀ name ∈ before, beginsWith text name.text = true →
      name.text.length < found.text.length)
    (hafter : ∀ name ∈ after, beginsWith text name.text = true →
      name.text.length ≤ found.text.length) :
    longestMatch text (before ++ found :: after) = some found := by
  induction before with
  | nil =>
      rw [List.nil_append, longestMatch, if_pos hfound]
      -- a later match is no longer, so the name keeps its place
      cases hlater : longestMatch text after with
      | none => rfl
      | some other =>
          obtain ⟨hmem, hother⟩ := longestMatch_eq_some hlater
          exact if_neg (Nat.not_lt.2 (hafter other hmem hother))
  | cons name before ih =>
      obtain ⟨hname, hbefore⟩ := List.forall_mem_cons.1 hbefore
      rw [List.cons_append, longestMatch, ih hbefore]
      -- an earlier match is shorter, so it gives way
      split
      · exact if_pos (hname ‹_›)
      · rfl

theorem longestMatch_eq_some_iff :
    longestMatch text names = some found ↔ IsLongestMatch text names found := by
  simp only [IsLongestMatch, ← beginsWith_iff]
  constructor
  · exact exists_longestMatch
  · rintro ⟨before, after, rfl, hfound, hbefore, hafter⟩
    exact longestMatch_append_cons hfound hbefore hafter

theorem exists_longestMatch_iff :
    (∃ found, longestMatch text names = some found) ↔ ∃ name ∈ names, Begins text name.text := by
  rw [← Option.ne_none_iff_exists', Ne, longestMatch_eq_none_iff]
  simp [← beginsWith_iff]

end

/-- The longest match is the first match of the sorted names, so nothing is left to an initial. -/
theorem NameField.recognizeFirst_eq (field : NameField) (locale : Option Locale)
    (text : List Char) : field.recognizeFirst locale text = field.recognize locale text := by
  have hfirst : (field.candidates locale).find? (fun name => beginsWith text name.text) =
      longestMatch text (field.pool locale) := (longestMatch_eq_find? text _).symm
  cases hlongest : longestMatch text (field.pool locale) with
  | none =>
      rw [hlongest] at hfirst
      simp only [recognizeFirst, recognize, hfirst, hlongest]
  | some found =>
      rw [hlongest] at hfirst
      simp only [recognizeFirst, recognize, hfirst, hlongest]

/-! ### A token -/

theorem Cursor.Takes.eq_advance {cursor next : Cursor} {piece : List Char}
    (h : cursor.Takes piece next) : next = cursor.advance piece.length := by
  obtain ⟨rest, hrest, rfl⟩ := h
  simp [advance, Cursor.rest, hrest]

/-- So many characters further on than a name is long, the characters that spell it are taken. -/
theorem Cursor.eq_advance_iff_takes {cursor next : Cursor} {name : List Char}
    (hrest : cursor.rest ≠ []) (hbegins : Begins cursor.rest name) :
    next = cursor.advance name.length ↔
      ∃ piece, cursor.Takes piece next ∧
        List.Forall₂ (fun c n => sameLetter c n = true) piece name := by
  constructor
  · rintro rfl
    obtain ⟨piece, tail, hsplit, hpiece⟩ := hbegins
    refine ⟨piece, ?_, hpiece⟩
    rw [← hpiece.length_eq]
    exact takes_advance (by rw [rest?_of_rest_ne_nil hrest, hsplit])
  · rintro ⟨piece, htakes, hpiece⟩
    rw [htakes.eq_advance, hpiece.length_eq]

section
variable {token : Token} {field : NameField} {width : Width} {locale : Option Locale}
  {cursor next : Cursor} {draft entered : Draft}
  (htoken : token.slot? = some (.name field width)) (hrest : cursor.rest ≠ [])
include htoken hrest

theorem Token.read_name_eq_ok_iff :
    token.read locale cursor draft = .ok (next, entered) ↔
      ∃ found, longestMatch cursor.rest (field.pool locale) = some found ∧
        next = cursor.advance found.text.length ∧ entered = field.enter draft found.index := by
  rw [Token.read, htoken]
  simp only [Slot.read, bind_eq_ok, Prod.exists, readName_eq_ok_iff,
    NameField.recognize_eq_some_iff]
  constructor
  · rintro ⟨taken, filled, ⟨index, count, ⟨-, found, hfound, rfl, rfl⟩, heq⟩, heq'⟩
    cases heq
    cases heq'
    exact ⟨found, hfound, rfl, rfl⟩
  · rintro ⟨found, hfound, rfl, rfl⟩
    exact ⟨_, _, ⟨_, _, ⟨hrest, found, hfound, rfl, rfl⟩, rfl⟩, rfl⟩

theorem Token.read_name_of_longestMatch_eq_none
    (h : longestMatch cursor.rest (field.pool locale) = none) :
    token.read locale cursor draft = .error (.unmatchedText field.field cursor.position) := by
  have hname : readName locale field cursor =
      .error (.unmatchedText field.field cursor.position) := by
    rw [readName, if_neg hrest, NameField.recognize_eq_longestMatch, h]
    rfl
  apply read_of_slot_error htoken
  rw [Slot.read, hname]
  rfl

/-- A token that shows a field by name takes a name of the pool whenever the text goes on with one.
It takes the longest of them, the earliest of equally long ones, and stands behind the characters
that spell it.  Where the text goes on with none there is no match. -/
theorem Token.read_longestName (locale : Option Locale) (draft : Draft) :
    ((∃ outcome, token.read locale cursor draft = .ok outcome) ↔
      ∃ name ∈ field.pool locale, Begins cursor.rest name.text) ∧
    (∀ next entered, token.read locale cursor draft = .ok (next, entered) ↔
      ∃ found piece, IsLongestMatch cursor.rest (field.pool locale) found ∧
        cursor.Takes piece next ∧
        List.Forall₂ (fun c n => sameLetter c n = true) piece found.text ∧
        entered = field.enter draft found.index) ∧
    ((∀ name ∈ field.pool locale, ¬ Begins cursor.rest name.text) →
      token.read locale cursor draft =
        .error (.unmatchedText field.field cursor.position)) := by
  refine ⟨?_, fun next entered => ?_, fun hnone => ?_⟩
  · rw [← exists_longestMatch_iff]
    simp [read_name_eq_ok_iff htoken hrest]
  · rw [read_name_eq_ok_iff htoken hrest]
    constructor
    · rintro ⟨found, hfound, hnext, hentered⟩
      have hlongest := longestMatch_eq_some_iff.1 hfound
      obtain ⟨piece, htakes, hpiece⟩ :=
        (Cursor.eq_advance_iff_takes hrest hlongest.begins).1 hnext
      exact ⟨found, piece, hlongest, htakes, hpiece, hentered⟩
    · rintro ⟨found, piece, hlongest, htakes, hpiece, hentered⟩
      have hnext : next = cursor.advance found.text.length :=
        (Cursor.eq_advance_iff_takes hrest hlongest.begins).2 ⟨piece, htakes, hpiece⟩
      exact ⟨found, longestMatch_eq_some_iff.2 hlongest, hnext, hentered⟩
  · apply read_name_of_longestMatch_eq_none htoken hrest
    rw [longestMatch_eq_none_iff]
    intro name hname
    rw [← Bool.not_eq_true, beginsWith_iff]
    exact hnone name hname

end

/-- A spelling of the common era, which stands behind the shorter names that the text begins with
as well. -/
theorem Token.read_longestName_commonEra :
    (Token.field .era 1).slot? = some (.name .era .abbreviated) ∧
      (Cursor.start "bce 5".toList).rest ≠ [] ∧
      (Token.field .era 1).read none (.start "bce 5".toList) (.ofReference .epoch) =
        .ok (⟨3, some " 5".toList⟩, (Draft.ofReference .epoch).beforeChrist) ∧
      (Cursor.start "xce".toList).rest ≠ [] ∧
      (Token.field .era 1).read none (.start "xce".toList) (.ofReference .epoch) =
        .error (.unmatchedText .era 0) := by
  have htoken : (Token.field .era 1).slot? = some (.name .era .abbreviated) := rfl
  have hrest : (Cursor.start "bce 5".toList).rest ≠ [] := by decide
  have hrest' : (Cursor.start "xce".toList).rest ≠ [] := by decide
  obtain ⟨-, hread, -⟩ := Token.read_longestName htoken hrest none (.ofReference .epoch)
  obtain ⟨-, -, herror⟩ := Token.read_longestName htoken hrest' none (.ofReference .epoch)
  have hlongest : IsLongestMatch "bce 5".toList (NameField.era.pool none) ⟨"BCE".toList, 0⟩ :=
    ⟨(NameField.era.pool none).take 6, [⟨"CE".toList, 1⟩], by decide +kernel, by decide +kernel,
      by decide +kernel, by decide +kernel⟩
  refine ⟨htoken, hrest, (hread _ _).2 ⟨_, "bce".toList, hlongest, ?_, ?_, rfl⟩, hrest',
    herror (by decide +kernel)⟩
  · exact ⟨" 5".toList, rfl, rfl⟩
  · decide +kernel

end DatePattern

import DatePattern.Proofs.Pattern.Consumption
import DatePattern.Proofs.Pattern.ReadBack

/-! # Names in any case

Whether two characters are the same letter depends on their lower-case forms alone
(`sameLetter_congr`).  So texts of the same letters begin with the same names, the same name decides,
and a token that shows a field by name reads both alike (`Token.read_sameLetters`): it takes as many
characters of the one as of the other, if perhaps not as many bytes, and enters the same, or finds
the same fault with both. -/

namespace DatePattern

/-- The texts have the same lower-case form, character by character. -/
def SameLetters (u v : List Char) : Prop := List.Forall₂ (fun c d => lowerCase c = lowerCase d) u v

instance (u v : List Char) : Decidable (SameLetters u v) :=
  inferInstanceAs (Decidable (List.Forall₂ _ u v))

namespace SameLetters

variable {u v : List Char} (h : SameLetters u v)
include h

theorem beginsWith_eq (name : List Char) : beginsWith u name = beginsWith v name := by
  induction h generalizing name with
  | nil => rfl
  | cons hletter _ ih =>
      cases name with
      | nil => rw [beginsWith, beginsWith]
      | cons n name => rw [beginsWith, beginsWith, sameLetter_congr hletter, ih]

theorem matchInitial_eq (initials : List (Char × Nat)) :
    matchInitial u initials = matchInitial v initials := by
  cases h with
  | nil => rfl
  | cons hletter _ =>
      unfold matchInitial
      simp only [sameLetter_congr hletter]

theorem recognize_eq (field : NameField) (locale : Option Locale) :
    field.recognize locale u = field.recognize locale v := by
  have hlongest : longestMatch u (field.pool locale) = longestMatch v (field.pool locale) :=
    longestMatch_congr fun name _ => h.beginsWith_eq name.text
  rw [NameField.recognize, NameField.recognize, hlongest, h.matchInitial_eq]

theorem eq_nil_iff : u = [] ↔ v = [] := by
  rw [← List.length_eq_zero_iff, ← List.length_eq_zero_iff, List.Forall₂.length_eq h]

/-- A name is read alike in both texts, faults included, where they stand at the same place. -/
theorem readName_eq (field : NameField) (locale : Option Locale) (position : Nat) :
    readName locale field ⟨position, some u⟩ = readName locale field ⟨position, some v⟩ := by
  have hrest : ∀ text, (⟨position, some text⟩ : Cursor).rest = text := fun _ => rfl
  unfold readName
  simp only [hrest, h.eq_nil_iff, h.recognize_eq]

theorem slot_read_eq (field : NameField) (width : Width) (locale : Option Locale)
    (position : Nat) (draft : Draft) :
    (Slot.name field width).read locale ⟨position, some u⟩ draft =
      (Slot.name field width).read locale ⟨position, some v⟩ draft := by
  rw [Slot.read, Slot.read, h.readName_eq]

end SameLetters

/-- A token that shows a field by name reads two texts of the same letters alike.  It takes as many
characters from the start of both and enters the same, or finds the same fault with both. -/
theorem Token.read_sameLetters {token : Token} {field : NameField} {width : Width}
    (htoken : token.slot? = some (.name field width)) {u v : String}
    (h : SameLetters u.toList v.toList) (locale : Option Locale) (draft : Draft) :
    (∃ taken taken' next next' entered, taken.length = taken'.length ∧
      (Cursor.start u.toList).Takes taken next ∧ (Cursor.start v.toList).Takes taken' next' ∧
      token.read locale (.start u.toList) draft = .ok (next, entered) ∧
      token.read locale (.start v.toList) draft = .ok (next', entered)) ∨
    ∃ cause, token.read locale (.start u.toList) draft = .error cause ∧
      token.read locale (.start v.toList) draft = .error cause := by
  have hslot := h.slot_read_eq field width locale 0 draft
  simp only [Cursor.start]
  cases hread : (Slot.name field width).read locale ⟨0, some u.toList⟩ draft with
  | error cause =>
      rw [hread] at hslot
      right
      exact ⟨cause, read_of_slot_error htoken hread, read_of_slot_error htoken hslot.symm⟩
  | ok found =>
      obtain ⟨count, entered⟩ := found
      rw [hread] at hslot
      obtain ⟨taken, tail, hrest, rfl, -⟩ := Slot.read_eq_ok hread
      obtain ⟨taken', tail', hrest', hlength, -⟩ := Slot.read_eq_ok hslot.symm
      have hsplit : u.toList = taken ++ tail := Option.some.inj hrest
      have hsplit' : v.toList = taken' ++ tail' := Option.some.inj hrest'
      rw [hsplit] at hread ⊢
      rw [hsplit', hlength] at hslot
      rw [hsplit']
      left
      exact ⟨taken, taken', _, _, entered, hlength, ⟨tail, rfl, rfl⟩, ⟨tail', rfl, rfl⟩,
        read_of_slot htoken hread, read_of_slot htoken hslot.symm⟩

/-- The sign for kelvin is a capital K of three bytes: October in mixed case, and in capitals. -/
theorem Token.read_sameLetters_kelvin :
    (Token.field .month 4).slot? = some (.name .month .wide) ∧
      SameLetters "o\u212Atober 5".toList "OKTOBER 5".toList ∧
      (Token.field .month 4).read (some .german) (.start "o\u212Atober 5".toList)
          (.ofReference .epoch) =
        .ok (⟨9, some " 5".toList⟩, (Draft.ofReference .epoch).supplyMonth 9) ∧
      ∃ next, (Token.field .month 4).read (some .german) (.start "OKTOBER 5".toList)
          (.ofReference .epoch) = .ok (next, (Draft.ofReference .epoch).supplyMonth 9) := by
  have htoken : (Token.field .month 4).slot? = some (.name .month .wide) := rfl
  have hsame : SameLetters "o\u212Atober 5".toList "OKTOBER 5".toList := by decide +kernel
  have hread : (Token.field .month 4).read (some .german) (.start "o\u212Atober 5".toList)
      (.ofReference .epoch) =
        .ok (⟨9, some " 5".toList⟩, (Draft.ofReference .epoch).supplyMonth 9) := by decide +kernel
  refine ⟨htoken, hsame, hread, ?_⟩
  obtain ⟨_, _, _, next, _, -, -, -, hmixed, hcapitals⟩ | ⟨cause, hmixed, -⟩ :=
    Token.read_sameLetters htoken hsame (some .german) (.ofReference .epoch)
  · obtain ⟨-, rfl⟩ := Prod.mk.inj (Except.ok.inj (hread.symm.trans hmixed))
    exact ⟨next, hcapitals⟩
  · exact absurd (hread.symm.trans hmixed) nofun

end DatePattern

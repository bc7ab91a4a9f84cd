import DatePattern.Locale.German
import DatePattern.Locale.NamePool

/-! # Recognizing a name that was written

A name is read back when no longer name of its pool begins at the same place.  That depends on what
the text goes on with: after a name of the English or the German locale, one of the `separators`
rules every longer name out (`ReadsBack.recognize`). -/

namespace DatePattern

/-! ### Matches and what follows them -/

theorem beginsWith_append_of_length_le : ∀ {text name : List Char} (tail : List Char),
    name.length ≤ text.length → beginsWith (text ++ tail) name = beginsWith text name
  | _, [], _, _ => by simp [beginsWith]
  | [], _ :: _, _, h => by simp at h
  | c :: text, n :: name, tail, h => by
      rw [List.length_cons, List.length_cons] at h
      simp only [List.cons_append, beginsWith,
        beginsWith_append_of_length_le tail (Nat.le_of_succ_le_succ h)]

/-- A text that ends too soon does not begin with the name. -/
theorem beginsWith_eq_false_of_length_lt : ∀ {text name : List Char},
    text.length < name.length → beginsWith text name = false
  | _, [], h => by simp at h
  | [], _ :: _, _ => rfl
  | c :: text, n :: name, h => by
      rw [List.length_cons, List.length_cons] at h
      rw [beginsWith, beginsWith_eq_false_of_length_lt (Nat.lt_of_succ_lt_succ h), Bool.and_false]

/-- A name longer than the front of a text goes on with the letter that follows the front. -/
theorem beginsWith_eq_false_of_next : ∀ {front name tail : List Char} {c : Char},
    (∀ n ∈ (name.drop front.length).head?, sameLetter c n = false) →
      front.length < name.length → beginsWith (front ++ c :: tail) name = false
  | _, [], _, _, _, h => by simp at h
  | [], n :: name, _, c, hnext, _ => by
      rw [List.nil_append, beginsWith, hnext n rfl, Bool.false_and]
  | _ :: front, _ :: name, _, _, hnext, h => by
      rw [List.length_cons, List.length_cons] at h
      rw [List.cons_append, beginsWith, beginsWith_eq_false_of_next (by simpa using hnext)
        (Nat.lt_of_succ_lt_succ h), Bool.and_false]

theorem longestMatch_congr {s t : List Char} : ∀ {names : List Name},
    (∀ name ∈ names, beginsWith s name.text = beginsWith t name.text) →
      longestMatch s names = longestMatch t names
  | [], _ => rfl
  | name :: later, h => by
      rw [longestMatch, longestMatch, h name (by simp),
        longestMatch_congr fun other ho => h other (by simp [ho])]

/-- A text that no longer name of the pool begins with is read as its front alone is. -/
theorem longestMatch_append {front tail : List Char} {names : List Name}
    (h : ∀ name ∈ names, front.length < name.text.length →
      beginsWith (front ++ tail) name.text = false) :
    longestMatch (front ++ tail) names = longestMatch front names := by
  apply longestMatch_congr
  intro name hname
  rcases Nat.lt_or_ge front.length name.text.length with hlt | hle
  · rw [h name hname hlt, beginsWith_eq_false_of_length_lt hlt]
  · exact beginsWith_append_of_length_le tail hle

/-! ### Names of the English and the German locale -/

/-- Characters with which no name of the English or the German locale goes on after another. -/
def separators : List Char := [' ', ',', '-', '/', ':']

namespace NameField

/-- The name by itself is read as a name of its index, and no name of the pool goes on with a
separator after as many characters.  A weekday may be read as another one. -/
def ReadsBack (field : NameField) (locale : Option Locale) (width : Width) (index : Nat) : Prop :=
  let text := ((locale.getD .english).name field width index).toList
  text ≠ [] ∧
    (longestMatch text (field.pool locale)).any (fun name =>
      name.text.length == text.length && (name.index == index || field == weekday)) = true ∧
    ∀ name ∈ field.pool locale, (name.text.drop text.length).head?.all fun n =>
      separators.all fun c => !sameLetter c n

instance (field : NameField) (locale : Option Locale) (width : Width) (index : Nat) :
    Decidable (field.ReadsBack locale width index) := by
  unfold ReadsBack; infer_instance

/-- One letter is not enough to tell the months apart; every other name reads back. -/
theorem readsBack {locale : Option Locale}
    (hl : locale ∈ [none, some Locale.english, some Locale.german]) (field : NameField)
    {width : Width} (hw : field = month → width ≠ .narrow) :
    ∀ index < field.count, field.ReadsBack locale width index := by
  simp only [List.mem_cons, List.not_mem_nil, or_false] at hl
  cases field with
  | era => rcases hl with rfl | rfl | rfl <;> cases width <;> decide +kernel
  | month =>
      cases width with
      | narrow => exact absurd rfl (hw rfl)
      | abbreviated => rcases hl with rfl | rfl | rfl <;> decide +kernel
      | wide => rcases hl with rfl | rfl | rfl <;> decide +kernel
  | weekday => rcases hl with rfl | rfl | rfl <;> cases width <;> decide +kernel
  | dayPeriod => rcases hl with rfl | rfl | rfl <;> cases width <;> decide +kernel

theorem ReadsBack.recognize {field : NameField} {locale : Option Locale} {width : Width}
    {index : Nat} (h : field.ReadsBack locale width index) {tail : List Char}
    (ht : ∀ c ∈ tail.head?, c ∈ separators) :
    ∃ found, (field ≠ weekday → found = index) ∧
      field.recognize locale (((locale.getD .english).name field width index).toList ++ tail) =
        some (found, ((locale.getD .english).name field width index).toList.length) := by
  obtain ⟨-, hmatch, hstop⟩ := h
  generalize ((locale.getD .english).name field width index).toList = text at hmatch hstop ⊢
  have hlonger : ∀ name ∈ field.pool locale, text.length < name.text.length →
      beginsWith (text ++ tail) name.text = false := by
    intro name hname hlt
    cases tail with
    | nil => rw [List.append_nil, beginsWith_eq_false_of_length_lt hlt]
    | cons c tail =>
        apply beginsWith_eq_false_of_next _ hlt
        intro n hn
        have hn' := (Option.all_eq_true _ _).1 (hstop name hname) n hn
        simpa using List.all_eq_true.1 hn' c (ht c rfl)
  rw [NameField.recognize, longestMatch_append hlonger]
  cases hfound : longestMatch text (field.pool locale) with
  | none => simp [hfound] at hmatch
  | some name =>
      simp only [hfound, Option.any_some, Bool.and_eq_true, Bool.or_eq_true, beq_iff_eq] at hmatch
      exact ⟨name.index, fun hw => hmatch.2.resolve_right hw, by simp only [hmatch.1]⟩

end NameField

end DatePattern

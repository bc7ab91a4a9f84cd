import DatePattern.Proofs.Locale.Recognition
import DatePattern.Proofs.Pattern.Consumption
import Mathlib.Data.List.Sort

/-! # The name that decides

Of the names with which a text begins the longest one decides, and of equally long ones the earliest
(`exists_longestMatch`).  So the order of a pool matters only among names of one length: those of
the locale that was given come first, and what they stand for is what a text of that length is taken
for (`NameField.recognize_own`).

* `longestMatch_eq_find?`: the same name is the first match when the pool is sorted by length.
* `NameField.recognize_self`: a name of the pool, standing alone, is recognized as a whole. -/

namespace DatePattern

/-! ### Longest matches -/

section
variable {text : List Char}

theorem longestMatch_eq_none_iff {names : List Name} :
    longestMatch text names = none ↔ ∀ name ∈ names, beginsWith text name.text = false := by
  induction names with
  | nil => simp [longestMatch]
  | cons name later ih =>
      rw [longestMatch, List.forall_mem_cons, ← ih]
      cases hname : beginsWith text name.text with
      | false => simp
      | true =>
          cases longestMatch text later with
          | none => simp
          | some other =>
              by_cases hlt : name.text.length < other.text.length <;> simp [hlt]

/-- The longest match is longer than every match before it, and no match after it is longer. -/
theorem exists_longestMatch {names : List Name} {found : Name}
    (h : longestMatch text names = some found) :
    ∃ before after, names = before ++ found :: after ∧ beginsWith text found.text = true ∧
      (∀ name ∈ before, beginsWith text name.text = true →
        name.text.length < found.text.length) ∧
      ∀ name ∈ after, beginsWith text name.text = true →
        name.text.length ≤ found.text.length := by
  induction names generalizing found with
  | nil => simp [longestMatch] at h
  | cons name later ih =>
      rw [longestMatch] at h
      split at h
      case isFalse hname =>
        obtain ⟨before, after, rfl, hfound, hbefore, hafter⟩ := ih h
        exact ⟨name :: before, after, rfl, hfound,
          List.forall_mem_cons.2 ⟨fun hbegins => absurd hbegins hname, hbefore⟩, hafter⟩
      case isTrue hname =>
        cases hlater : longestMatch text later with
        | none =>
            rw [hlater] at h
            cases h
            have hnone := longestMatch_eq_none_iff.1 hlater
            refine ⟨[], later, rfl, hname, by simp, fun other hother hbegins => ?_⟩
            rw [hnone other hother] at hbegins
            contradiction
        | some other =>
            obtain ⟨before, after, hsplit, hother, hbefore, hafter⟩ := ih hlater
            simp only [hlater] at h
            split at h
            · rename_i hlonger
              cases h
              exact ⟨name :: before, after, by rw [hsplit]; rfl, hother,
                List.forall_mem_cons.2 ⟨fun _ => hlonger, hbefore⟩, hafter⟩
            · rename_i hshorter
              cases h
              refine ⟨[], later, rfl, hname, by simp, fun third hthird hbegins => ?_⟩
              have hle : third.text.length ≤ other.text.length := by
                rw [hsplit, List.mem_append, List.mem_cons] at hthird
                rcases hthird with hthird | rfl | hthird
                · exact (hbefore third hthird hbegins).le
                · exact Nat.le_refl _
                · exact hafter third hthird hbegins
              omega

/-- No name of the list with which the text begins is longer than the longest match. -/
theorem length_le_longestMatch {names : List Name} {found : Name}
    (h : longestMatch text names = some found) {name : Name} (hname : name ∈ names)
    (hbegins : beginsWith text name.text = true) :
    name.text.length ≤ found.text.length := by
  obtain ⟨before, after, rfl, -, hbefore, hafter⟩ := exists_longestMatch h
  rw [List.mem_append, List.mem_cons] at hname
  rcases hname with hname | rfl | hname
  · exact (hbefore name hname hbegins).le
  · exact Nat.le_refl _
  · exact hafter name hname hbegins

/-- A match as long as the longest one stands no earlier, so the longest match is among any first
names that hold one. -/
theorem longestMatch_mem_left {own others : List Name} {found name : Name}
    (h : longestMatch text (own ++ others) = some found) (hname : name ∈ own)
    (hbegins : beginsWith text name.text = true)
    (hlength : found.text.length ≤ name.text.length) : found ∈ own := by
  obtain ⟨before, after, hsplit, -, hbefore, -⟩ := exists_longestMatch h
  have hnot : name ∉ before := fun hmem => by
    have hlt := hbefore name hmem hbegins
    omega
  rcases List.append_eq_append_iff.1 hsplit with ⟨rest, rfl, -⟩ | ⟨rest, rfl, hrest⟩
  · exact absurd (List.mem_append_left rest hname) hnot
  · cases rest with
    | nil =>
        rw [List.append_nil] at hname
        exact absurd hname hnot
    | cons first rest =>
        rw [(List.cons.inj hrest).1]
        exact List.mem_append_right before List.mem_cons_self

end

/-! ### Sorting by length -/

/-- The name stands before the other when a pool is sorted by length, longest first. -/
def Name.NotShorter (name other : Name) : Prop := other.text.length ≤ name.text.length

instance (name other : Name) : Decidable (name.NotShorter other) :=
  inferInstanceAs (Decidable (other.text.length ≤ name.text.length))

theorem find?_orderedInsert (p : Name → Bool) (name : Name) {names : List Name}
    (h : names.Pairwise Name.NotShorter) :
    (names.orderedInsert Name.NotShorter name).find? p =
      if p name then
        match names.find? p with
        | some other => if name.text.length < other.text.length then some other else some name
        | none => some name
      else names.find? p := by
  induction names with
  | nil => cases hname : p name <;> simp [hname]
  | cons first names ih =>
      obtain ⟨hfirst, hnames⟩ := List.pairwise_cons.1 h
      rw [List.orderedInsert_cons]
      split
      · rename_i hle
        -- the name comes first, and no name after it is longer
        have hall : ∀ other ∈ first :: names, other.text.length ≤ name.text.length := by
          refine List.forall_mem_cons.2 ⟨hle, fun other hother => ?_⟩
          exact (hfirst other hother).trans hle
        cases hname : p name with
        | false => rw [List.find?_cons_of_neg (by simp [hname])]; rfl
        | true =>
            rw [List.find?_cons_of_pos hname, if_pos rfl]
            cases hother : (first :: names).find? p with
            | none => rfl
            | some other =>
                have hle := hall other (List.mem_of_find?_eq_some hother)
                dsimp only
                rw [if_neg (by omega)]
      · rename_i hlt
        have hlt : name.text.length < first.text.length := Nat.lt_of_not_le hlt
        cases hp : p first with
        | true =>
            rw [List.find?_cons_of_pos hp, List.find?_cons_of_pos hp]
            dsimp only
            rw [if_pos hlt, ite_self]
        | false =>
            have hneg : ¬ p first = true := by simp [hp]
            rw [List.find?_cons_of_neg hneg, List.find?_cons_of_neg hneg, ih hnames]

instance : Std.Total Name.NotShorter := ⟨fun a b => Nat.le_total b.text.length a.text.length⟩

instance : IsTrans Name Name.NotShorter := ⟨fun _ _ _ hab hbc => Nat.le_trans hbc hab⟩

/-- The longest match is the first one after sorting by length, which keeps equally long names in
their order. -/
theorem longestMatch_eq_find? (text : List Char) (names : List Name) :
    longestMatch text names =
      (names.insertionSort Name.NotShorter).find? fun name => beginsWith text name.text := by
  induction names with
  | nil => rfl
  | cons name later ih =>
      rw [longestMatch, ih, List.insertionSort_cons]
      exact (find?_orderedInsert (fun name => beginsWith text name.text) name
        (List.pairwise_insertionSort Name.NotShorter later)).symm

/-! ### Names of a pool -/

/-- A text begins with every name that its first characters spell. -/
theorem beginsWith_append {piece name : List Char}
    (h : List.Forall₂ (fun c n => sameLetter c n = true) piece name) (tail : List Char) :
    beginsWith (piece ++ tail) name = true := by
  induction h with
  | nil => simp [beginsWith]
  | cons hletter _ ih =>
      rw [List.cons_append, beginsWith, Bool.and_eq_true]
      exact ⟨hletter, ih⟩

theorem beginsWith_append_self (name tail : List Char) : beginsWith (name ++ tail) name = true := by
  apply beginsWith_append
  rw [List.forall₂_same]
  exact fun c _ => sameLetter_iff.2 rfl

theorem beginsWith_self (name : List Char) : beginsWith name name = true := by
  have h := beginsWith_append_self name []
  rwa [List.append_nil] at h

namespace NameField

theorem lt_count_of_name_ne_nil {field : NameField} {locale : Locale} {width : Width} {index : Nat}
    (h : (locale.name field width index).toList ≠ []) : index < field.count := by
  have hget : ∀ {n : Nat} (names : Names n), names.get width index ≠ "" → index < n := by
    intro n names hne
    by_contra hle
    have hle := Nat.le_of_not_lt hle
    cases width <;> exact hne (by simp [Names.get, hle])
  have hne : locale.name field width index ≠ "" := fun heq => h (by rw [heq]; rfl)
  cases field <;> exact hget _ hne

theorem mem_namesIn {field : NameField} {locale : Locale} {name : Name} :
    name ∈ field.namesIn locale ↔ ∃ width, ∃ index < field.count,
      name = ⟨(locale.name field width index).toList, index⟩ := by
  have hall : ∀ width : Width, width ∈ Width.all := fun width => by cases width <;> decide
  simp only [namesIn, List.mem_flatMap, List.mem_map, List.mem_range, hall, true_and, eq_comm]

/-- The names of the locale in use, before all others. -/
theorem pool_eq (field : NameField) (locale : Option Locale) :
    ∃ others, field.pool locale =
      (field.namesIn (locale.getD .english)).filter (fun name => !name.text.isEmpty) ++ others := by
  cases locale with
  | none =>
      refine ⟨field.aliases.filter fun name => !name.text.isEmpty, ?_⟩
      simp [pool]
  | some locale =>
      refine ⟨(field.namesIn .english ++ field.aliases).filter fun name => !name.text.isEmpty, ?_⟩
      simp [pool]

theorem mem_own {field : NameField} {locale : Option Locale} {width : Width} {index : Nat}
    (h : ((locale.getD .english).name field width index).toList ≠ []) :
    ⟨((locale.getD .english).name field width index).toList, index⟩ ∈
      (field.namesIn (locale.getD .english)).filter fun name => !name.text.isEmpty := by
  refine List.mem_filter.2 ⟨mem_namesIn.2 ⟨width, index, lt_count_of_name_ne_nil h, rfl⟩, ?_⟩
  simpa using h

theorem mem_pool_of_name_ne_nil {field : NameField} {locale : Option Locale} {width : Width}
    {index : Nat} (h : ((locale.getD .english).name field width index).toList ≠ []) :
    ⟨((locale.getD .english).name field width index).toList, index⟩ ∈ field.pool locale := by
  obtain ⟨others, hpool⟩ := field.pool_eq locale
  rw [hpool]
  exact List.mem_append_left others (mem_own h)

/-- A name of the pool, standing alone, is recognized as a whole, if perhaps for another one. -/
theorem recognize_self {field : NameField} {locale : Option Locale} {name : Name}
    (h : name ∈ field.pool locale) :
    ∃ index, field.recognize locale name.text = some (index, name.text.length) := by
  have hself := beginsWith_self name.text
  cases hfound : longestMatch name.text (field.pool locale) with
  | none =>
      rw [longestMatch_eq_none_iff.1 hfound name h] at hself
      contradiction
  | some found =>
      have hle := length_le_longestMatch hfound h hself
      have hge : found.text.length ≤ name.text.length := by
        by_contra hlonger
        have hbegins := (longestMatch_eq_some hfound).2
        rw [beginsWith_eq_false_of_length_lt (Nat.lt_of_not_le hlonger)] at hbegins
        contradiction
      refine ⟨found.index, ?_⟩
      simp only [recognize, hfound]
      rw [Nat.le_antisymm hge hle]

/-- A name of the locale in use is recognized in front of a text with which no longer name of the
pool begins, if it is the name of one index only. -/
theorem recognize_own {field : NameField} {locale : Option Locale} {width : Width} {index : Nat}
    {name suffix : List Char}
    (hname : ((locale.getD .english).name field width index).toList = name) (hne : name ≠ [])
    (hlonger : ∀ other ∈ field.pool locale, name.length < other.text.length →
      beginsWith (name ++ suffix) other.text = false)
    (hindex : ∀ other ∈ field.namesIn (locale.getD .english),
      List.Forall₂ (fun c n => sameLetter c n = true) name other.text → other.index = index) :
    field.recognize locale (name ++ suffix) = some (index, name.length) := by
  subst hname
  set name := ((locale.getD .english).name field width index).toList
  have hself := beginsWith_append_self name suffix
  have hmem : ⟨name, index⟩ ∈ field.pool locale := mem_pool_of_name_ne_nil hne
  obtain ⟨others, hpool⟩ := field.pool_eq locale
  cases hfound : longestMatch (name ++ suffix) (field.pool locale) with
  | none =>
      rw [longestMatch_eq_none_iff.1 hfound _ hmem] at hself
      contradiction
  | some found =>
      obtain ⟨hfoundMem, hbegins⟩ := longestMatch_eq_some hfound
      have hlength : found.text.length = name.length := by
        refine Nat.le_antisymm ?_ (length_le_longestMatch hfound hmem hself)
        by_contra hgt
        rw [hlonger found hfoundMem (Nat.lt_of_not_le hgt)] at hbegins
        contradiction
      have hfoundOwn := longestMatch_mem_left (by rwa [hpool] at hfound) (mem_own hne) hself
        hlength.le
      obtain ⟨piece, tail, hpiece, hspelled⟩ := spelled_of_beginsWith hbegins
      have hsame : piece = name :=
        (List.append_inj hpiece (by rw [hspelled.length_eq, hlength])).1.symm
      rw [hsame] at hspelled
      simp only [recognize, hfound, hlength,
        hindex found (List.mem_filter.1 hfoundOwn).1 hspelled]

end NameField

end DatePattern

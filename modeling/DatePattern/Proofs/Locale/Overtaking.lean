import DatePattern.Proofs.Locale.LongestMatch

/-! # Names that go on beyond English ones

A locale adds its names to the pool of English ones, and the longest name decides.  So a text that
begins with an English name is taken otherwise with the locale than without it where a name of the
locale overtakes the English one (`NameField.Overtaken`), and nowhere else, if the locale gives the
English names themselves no other meaning (`NameField.KeepsEnglish`).

* `NameField.recognize_of_not_overtaken`, `NameField.lt_recognize_of_overtaken`: what a locale does
  to the recognition of a text that begins with an English name.
* `NameField.not_overtaken_german`, `NameField.not_overtaken_of_separator`: of the German names only
  those of months and of weekdays overtake English ones, and not before a separator. -/

namespace DatePattern

/-! ### Beginnings of one text -/

section
variable {text name : List Char} (h : beginsWith text name = true)
include h

theorem length_le_of_beginsWith : name.length ≤ text.length := by
  by_contra hlt
  rw [beginsWith_eq_false_of_length_lt (Nat.lt_of_not_le hlt)] at h
  contradiction

/-- Of two beginnings of one text the shorter is one of the longer. -/
theorem beginsWith_congr {other : List Char} (hle : other.length ≤ name.length) :
    beginsWith text other = beginsWith name other := by
  induction other generalizing text name with
  | nil => simp [beginsWith]
  | cons o other ih =>
      cases name with
      | nil => simp at hle
      | cons n name =>
          cases text with
          | nil => simp [beginsWith] at h
          | cons c text =>
              rw [beginsWith, Bool.and_eq_true] at h
              have hletter := sameLetter_congr (sameLetter_iff.1 h.1) o
              rw [beginsWith, beginsWith, hletter, ih h.2 (Nat.le_of_succ_le_succ hle)]

/-- A text that begins with a name, and with no longer one, is taken as the name by itself is. -/
theorem longestMatch_of_beginsWith {names : List Name}
    (hlonger : ∀ other ∈ names, name.length < other.text.length →
      beginsWith text other.text = false) :
    longestMatch text names = longestMatch name names := by
  apply longestMatch_congr
  intro other hother
  rcases Nat.lt_or_ge name.length other.text.length with hlt | hle
  · rw [hlonger other hother hlt, beginsWith_eq_false_of_length_lt hlt]
  · exact beginsWith_congr h hle

end

namespace NameField

/-! ### English names -/

theorem pool_some (field : NameField) (locale : Locale) :
    field.pool (some locale) =
      (field.namesIn locale).filter (fun name => !name.text.isEmpty) ++ field.pool none := by
  simp [pool]

theorem mem_pool_of_english {field : NameField} {name : Name} (h : name ∈ field.pool none) :
    ∀ locale : Option Locale, name ∈ field.pool locale
  | none => h
  | some locale => by
      rw [pool_some]
      exact List.mem_append_right _ h

/-- Each letter that stands for a name by itself is an English name. -/
theorem initial_mem_pool (field : NameField) : ∀ initial ∈ field.initials,
    ∃ name ∈ field.pool none, name.text.length = 1 ∧ beginsWith [initial.1] name.text = true := by
  cases field <;> decide +kernel

/-- Recognition is the longest match: where none of the names matches, no initial does. -/
theorem recognize_eq_longestMatch (field : NameField) (locale : Option Locale) (text : List Char) :
    field.recognize locale text =
      (longestMatch text (field.pool locale)).map fun name => (name.index, name.text.length) := by
  rw [recognize]
  cases hfound : longestMatch text (field.pool locale) with
  | some name => rfl
  | none =>
      rw [Option.map_none, Option.map_eq_none_iff]
      by_contra hinitial
      obtain ⟨index, hindex⟩ := Option.ne_none_iff_exists'.1 hinitial
      obtain ⟨c, tail, initial, rfl, hmem, hc⟩ := matchInitial_eq_some hindex
      obtain ⟨name, hname, hlength, hbegins⟩ := field.initial_mem_pool _ hmem
      have hletter : beginsWith (c :: tail) [initial] = true := by
        simp [beginsWith, hc]
      have hnone := longestMatch_eq_none_iff.1 hfound name (mem_pool_of_english hname locale)
      rw [beginsWith_congr hletter (by simp [hlength]), hbegins] at hnone
      contradiction

theorem recognize_eq_some_iff {field : NameField} {locale : Option Locale} {text : List Char}
    {index taken : Nat} :
    field.recognize locale text = some (index, taken) ↔
      ∃ found, longestMatch text (field.pool locale) = some found ∧ found.index = index ∧
        found.text.length = taken := by
  rw [recognize_eq_longestMatch, Option.map_eq_some_iff]
  simp only [Prod.mk.injEq]

/-! ### Locales beside English -/

/-- A name of the locale with which the text begins is longer than every English one. -/
def Overtaken (field : NameField) (locale : Locale) (text : List Char) : Prop :=
  ∃ name ∈ field.namesIn locale, beginsWith text name.text = true ∧
    ∀ english ∈ field.pool none, beginsWith text english.text = true →
      english.text.length < name.text.length

instance (field : NameField) (locale : Locale) (text : List Char) :
    Decidable (field.Overtaken locale text) := by
  unfold Overtaken; infer_instance

/-- Each English name by itself is taken with the locale as without it. -/
def KeepsEnglish (field : NameField) (locale : Locale) : Prop :=
  ∀ name ∈ field.pool none,
    field.recognize (some locale) name.text = field.recognize none name.text

instance (field : NameField) (locale : Locale) : Decidable (field.KeepsEnglish locale) := by
  unfold KeepsEnglish; infer_instance

section
variable {field : NameField} {locale : Locale} {text : List Char} {index taken : Nat}
  (hfound : field.recognize none text = some (index, taken))
include hfound

/-- Where no name of the locale overtakes the English one, the locale makes no difference. -/
theorem recognize_of_not_overtaken (hkeeps : field.KeepsEnglish locale)
    (h : ¬ field.Overtaken locale text) :
    field.recognize (some locale) text = some (index, taken) := by
  obtain ⟨found, hlongest, -⟩ := recognize_eq_some_iff.1 hfound
  obtain ⟨hmem, hbegins⟩ := longestMatch_eq_some hlongest
  have hlonger : ∀ other ∈ field.pool (some locale), found.text.length < other.text.length →
      beginsWith text other.text = false := by
    intro other hother hlt
    by_contra hne
    have hother' : beginsWith text other.text = true := Bool.eq_true_of_not_eq_false hne
    rw [pool_some, List.mem_append, List.mem_filter] at hother
    rcases hother with ⟨hown, -⟩ | henglish
    · refine h ⟨other, hown, hother', fun english henglish hbegins => ?_⟩
      exact (length_le_longestMatch hlongest henglish hbegins).trans_lt hlt
    · have hle := length_le_longestMatch hlongest henglish hother'
      omega
  have hself := hkeeps found hmem
  rw [← hfound]
  rw [recognize_eq_longestMatch, recognize_eq_longestMatch] at hself ⊢
  rw [longestMatch_of_beginsWith hbegins hlonger, hself, longestMatch_of_beginsWith hbegins
    fun other hother => hlonger other (mem_pool_of_english hother _)]

/-- Where a name of the locale overtakes the English one, more is taken with the locale. -/
theorem lt_recognize_of_overtaken (h : field.Overtaken locale text) :
    ∃ other further, field.recognize (some locale) text = some (other, further) ∧
      taken < further ∧ further ≤ text.length := by
  obtain ⟨found, hlongest, -, rfl⟩ := recognize_eq_some_iff.1 hfound
  obtain ⟨hmem, henglish⟩ := longestMatch_eq_some hlongest
  obtain ⟨name, hname, hbegins, hshorter⟩ := h
  have hlt := hshorter found hmem henglish
  have hpool : name ∈ field.pool (some locale) := by
    have hne : name.text ≠ [] := by
      intro hnil
      simp [hnil] at hlt
    rw [pool_some]
    exact List.mem_append_left _ (List.mem_filter.2 ⟨hname, by simpa using hne⟩)
  cases hother : longestMatch text (field.pool (some locale)) with
  | none =>
      rw [longestMatch_eq_none_iff.1 hother name hpool] at hbegins
      contradiction
  | some other =>
      have hle := length_le_longestMatch hother hpool hbegins
      exact ⟨other.index, other.text.length, recognize_eq_some_iff.2 ⟨other, hother, rfl, rfl⟩,
        hlt.trans_le hle, length_le_of_beginsWith (longestMatch_eq_some hother).2⟩

end

/-! ### German beside English -/

theorem keepsEnglish_german (field : NameField) : field.KeepsEnglish .german := by
  cases field <;> decide +kernel

/-- A German era or day period that begins like an English one is an English one. -/
theorem exists_english_of_german {field : NameField} (h : field ≠ month ∧ field ≠ weekday) :
    ∀ name ∈ field.namesIn .german, ∀ english ∈ field.pool none,
      beginsWith name.text english.text = true →
        ∃ other ∈ field.pool none, beginsWith name.text other.text = true ∧
          other.text.length = name.text.length := by
  cases field with
  | era => decide +kernel
  | month => exact absurd rfl h.1
  | weekday => exact absurd rfl h.2
  | dayPeriod => decide +kernel

/-- Only German months and weekdays overtake English names. -/
theorem not_overtaken_german {field : NameField} (h : field ≠ month ∧ field ≠ weekday)
    {text : List Char} {index taken : Nat}
    (hfound : field.recognize none text = some (index, taken)) :
    ¬ field.Overtaken .german text := by
  rintro ⟨name, hname, hbegins, hshorter⟩
  obtain ⟨found, hlongest, -⟩ := recognize_eq_some_iff.1 hfound
  obtain ⟨hmem, henglish⟩ := longestMatch_eq_some hlongest
  rw [beginsWith_congr hbegins (hshorter found hmem henglish).le] at henglish
  obtain ⟨other, hother, hsame, hlength⟩ :=
    exists_english_of_german h name hname found hmem henglish
  rw [← beginsWith_congr hbegins hlength.le] at hsame
  have hlt := hshorter other hother hsame
  omega

theorem sameLetter_separator_german {field : NameField} (h : ¬ (field ≠ month ∧ field ≠ weekday)) :
    (field.namesIn .german).all fun name => name.text.all fun n =>
      separators.all fun c => !sameLetter c n := by
  cases field with
  | era => exact absurd (by decide) h
  | month => decide +kernel
  | weekday => decide +kernel
  | dayPeriod => exact absurd (by decide) h

/-- No German name overtakes an English one before a separator or at the end of the text. -/
theorem not_overtaken_of_separator {field : NameField} {front tail : List Char} {index : Nat}
    (hfound : field.recognize none (front ++ tail) = some (index, front.length))
    (hnext : ∀ c ∈ tail.head?, c ∈ separators) : ¬ field.Overtaken .german (front ++ tail) := by
  by_cases hfield : field ≠ month ∧ field ≠ weekday
  · exact not_overtaken_german hfield hfound
  rintro ⟨name, hname, hbegins, hshorter⟩
  obtain ⟨found, hlongest, -, hlength⟩ := recognize_eq_some_iff.1 hfound
  obtain ⟨hmem, henglish⟩ := longestMatch_eq_some hlongest
  have hlt : front.length < name.text.length := hlength ▸ hshorter found hmem henglish
  cases tail with
  | nil =>
      have hle := length_le_of_beginsWith hbegins
      rw [List.append_nil] at hle
      omega
  | cons c tail =>
      rw [beginsWith_eq_false_of_next _ hlt] at hbegins
      · contradiction
      · intro n hn
        have hletter := List.mem_of_mem_drop (List.mem_of_mem_head? hn)
        have hname' := List.all_eq_true.1 (sameLetter_separator_german hfield) name hname
        have hletter' := List.all_eq_true.1 hname' n hletter
        simpa using List.all_eq_true.1 hletter' c (hnext c rfl)

end NameField

end DatePattern

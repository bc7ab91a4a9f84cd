import DatePattern.Proofs.Locale.LongestMatch
import DatePattern.Proofs.Pattern.ReadBack

/-! # Reading the names of a locale

Whatever names a locale has, a token that shows a field by name reads them back
(`Token.read_localName`): the name of one index, before a text with which no longer name begins, and
each English name by itself.  The width that the token asks for does not matter.  What the name then
stands for is recorded, and nothing else changes (`NameField.recorded`). -/

namespace DatePattern

/-- The draft with what the name of an index stands for: that month; the first half of the day for 0
and the second for 1; for the era 0 the astronomical year, if the year was one of an era, and for
the era 1 the year as it is; for a weekday nothing. -/
def NameField.recorded (draft : Draft) (index : Nat) : NameField → Draft
  | month => { draft with month := index, supplied := { draft.supplied with month := true } }
  | dayPeriod => { draft with isPm := some (decide (index = 1)) }
  | era =>
    match index with
    | 0 => { draft with year := if 1 ≤ draft.year then 1 - draft.year else draft.year }
    | _ => draft
  | weekday => draft

/-- A name enters what it stands for. -/
theorem NameField.enter_eq_recorded (draft : Draft) (index : Nat) (field : NameField) :
    field.enter draft index = field.recorded draft index := by
  cases field with
  | month | weekday => rfl
  | dayPeriod =>
      rw [enter, recorded]
      rfl
  | era =>
      rw [enter]
      cases index with
      | zero =>
          have hbc : 0 = Era.bc.index := rfl
          rw [if_pos hbc, Draft.beforeChrist, recorded]
          split <;> rfl
      | succ index =>
          have had : index + 1 ≠ Era.bc.index := Nat.succ_ne_zero index
          rw [if_neg had]
          rfl

section
variable {locale : Option Locale} {field : NameField} {width : Width}

/-- A slot for a name reads the name that is recognized. -/
theorem Slot.read_recognized {name suffix : List Char} (hne : name ≠ []) {index : Nat}
    (h : field.recognize locale (name ++ suffix) = some (index, name.length)) (position : Nat)
    (draft : Draft) :
    (Slot.name field width).read locale ⟨position, some (name ++ suffix)⟩ draft =
      .ok (name.length, field.enter draft index) := by
  rw [Slot.read, readName_append hne h position]
  rfl

/-- A slot for a name reads the whole of a name that stands alone, if perhaps as another one. -/
theorem Slot.read_name_alone {name : Name} (h : name ∈ field.pool locale) (position : Nat)
    (draft : Draft) :
    ∃ index, (Slot.name field width).read locale ⟨position, some name.text⟩ draft =
      .ok (name.text.length, field.enter draft index) := by
  obtain ⟨index, hindex⟩ := NameField.recognize_self h
  have hread : (Slot.name field width).read locale ⟨position, some (name.text ++ [])⟩ draft =
      .ok (name.text.length, field.enter draft index) :=
    read_recognized (NameField.text_ne_nil_of_mem_pool h) (by rwa [List.append_nil]) position draft
  rw [List.append_nil] at hread
  exact ⟨index, hread⟩

end

theorem NameField.english_ne_nil (field : NameField) :
    ∀ name ∈ field.namesIn .english ++ field.aliases, name.text ≠ [] := by
  cases field <;> decide +kernel

/-- English names are recognized whatever the locale is. -/
theorem NameField.english_mem_pool {field : NameField} {name : Name}
    (h : name ∈ field.namesIn .english ++ field.aliases) (locale : Option Locale) :
    name ∈ field.pool locale := by
  refine List.mem_filter.2 ⟨?_, by simpa using field.english_ne_nil name h⟩
  rw [List.mem_append] at h ⊢
  exact h.imp_left fun hname => List.mem_flatMap.2 ⟨.english, by simp, hname⟩

/-- A token that shows a field by name reads a name of its locale, takes just the name and records
what its index stands for, if no longer name of the pool begins at the same place and no other index
of the locale has the name, case aside.  It takes the whole of an English name that stands alone,
whatever its locale is. -/
theorem Token.read_localName (locale : Option Locale) {token : Token} {field : NameField}
    {shown : Width} (htoken : token.slot? = some (.name field shown)) (position : Nat)
    (draft : Draft) :
    (∀ width index name suffix, ((locale.getD .english).name field width index).toList = name →
      name ≠ [] →
      (∀ other ∈ field.pool locale, name.length < other.text.length →
        beginsWith (name ++ suffix) other.text = false) →
      (∀ other ∈ field.namesIn (locale.getD .english),
        List.Forall₂ (fun c n => sameLetter c n = true) name other.text → other.index = index) →
      token.read locale ⟨position, some (name ++ suffix)⟩ draft =
        .ok (⟨position + byteLength name, some suffix⟩, field.recorded draft index)) ∧
    ∀ name ∈ field.namesIn .english ++ field.aliases, ∃ index,
      token.read locale ⟨position, some name.text⟩ draft =
        .ok (⟨position + byteLength name.text, some []⟩, field.recorded draft index) := by
  simp only [← NameField.enter_eq_recorded]
  constructor
  · intro width index name suffix hname hne hlonger hindex
    have hrecognized := NameField.recognize_own hname hne hlonger hindex
    exact read_of_slot htoken (Slot.read_recognized hne hrecognized position draft)
  · intro name hname
    obtain ⟨index, hread⟩ :=
      Slot.read_name_alone (NameField.english_mem_pool hname locale) position draft
    exact ⟨index, read_of_slot_alone htoken hread⟩

/-- A locale whose names go on from one another and are English names of other months, of the other
era and of the other half of the day. -/
def entangledLocale : Locale :=
  { Locale.german with
    eras :=
      { narrow := #v["A", "BC"]
        abbreviated := #v["AD", "BC"]
        wide := #v["ADieu", "BCE"] }
    months :=
      { narrow := Vector.replicate 12 ""
        abbreviated := #v["March", "Mar", "Marchen", "", "", "", "", "", "", "", "", "Jan"]
        wide := #v["MARCH", "Mär", "Märchen", "", "", "", "", "", "", "", "", "DECE"] }
    dayPeriods :=
      { narrow := #v["pm", "am"]
        abbreviated := #v["pm", "am"]
        wide := #v["pm", "am"] } }

/-- A January that is called March, before a text that a longer name nearly goes on with, and the
English December, with which a name of the locale begins; an era before Christ that is called AD,
after the year 44 and after the year 0, and one after it that is called BC; a second half of the day
that is called am. -/
theorem Token.read_localName_entangled :
    ((Token.field .month 3).slot? = some (.name .month .abbreviated) ∧
      (entangledLocale.name .month .abbreviated 0).toList = "March".toList ∧
      (∀ other ∈ NameField.month.pool (some entangledLocale), 5 < other.text.length →
        beginsWith ("March".toList ++ "es 4".toList) other.text = false) ∧
      (∀ other ∈ NameField.month.namesIn entangledLocale,
        List.Forall₂ (fun c n => sameLetter c n = true) "March".toList other.text →
          other.index = 0) ∧
      (Token.field .month 3).read (some entangledLocale) (.start "Marches 4".toList)
          (.ofReference .epoch) =
        .ok (⟨5, some "es 4".toList⟩, (Draft.ofReference .epoch).supplyMonth 0) ∧
      ∃ index, (Token.field .month 3).read (some entangledLocale) (.start "December".toList)
          (.ofReference .epoch) =
        .ok (⟨8, some []⟩, (Draft.ofReference .epoch).supplyMonth index)) ∧
    (let caesar := (Draft.ofReference .epoch).supplyYear 44
      let turned := (Draft.ofReference .epoch).supplyYear 0
      (Token.field .era 1).slot? = some (.name .era .abbreviated) ∧
      (Token.field .era 1).read (some entangledLocale) (.start "AD. ".toList) caesar =
        .ok (⟨2, some ". ".toList⟩, { caesar with year := -43 }) ∧
      (Token.field .era 1).read (some entangledLocale) (.start "AD. ".toList) turned =
        .ok (⟨2, some ". ".toList⟩, turned) ∧
      (Token.field .era 1).read (some entangledLocale) (.start "BC. ".toList) caesar =
        .ok (⟨2, some ". ".toList⟩, caesar)) ∧
    (Token.field .dayPeriod 1).slot? = some (.name .dayPeriod .abbreviated) ∧
      (Token.field .dayPeriod 1).read (some entangledLocale) (.start "am".toList)
          (.ofReference .epoch) =
        .ok (⟨2, some []⟩, { Draft.ofReference .epoch with isPm := some true }) := by
  refine ⟨?_, ?_, ?_⟩
  · have htoken : (Token.field .month 3).slot? = some (.name .month .abbreviated) := rfl
    have hname : (entangledLocale.name .month .abbreviated 0).toList = "March".toList := by decide
    have hlonger : ∀ other ∈ NameField.month.pool (some entangledLocale),
        5 < other.text.length →
          beginsWith ("March".toList ++ "es 4".toList) other.text = false := by decide +kernel
    have hindex : ∀ other ∈ NameField.month.namesIn entangledLocale,
        List.Forall₂ (fun c n => sameLetter c n = true) "March".toList other.text →
          other.index = 0 := by decide +kernel
    obtain ⟨hown, henglish⟩ :=
      Token.read_localName (some entangledLocale) htoken 0 (.ofReference .epoch)
    obtain ⟨index, hdecember⟩ := henglish ⟨"December".toList, 11⟩ (by decide +kernel)
    exact ⟨htoken, hname, hlonger, hindex,
      hown .abbreviated 0 _ "es 4".toList hname (by decide) hlonger hindex, index, hdecember⟩
  · intro caesar turned
    have htoken : (Token.field .era 1).slot? = some (.name .era .abbreviated) := rfl
    have hown := fun draft => (Token.read_localName (some entangledLocale) htoken 0 draft).1
      .abbreviated
    refine ⟨htoken, ?_, ?_, ?_⟩
    · exact hown caesar 0 "AD".toList ". ".toList (by decide) (by decide) (by decide +kernel)
        (by decide +kernel)
    · exact hown turned 0 "AD".toList ". ".toList (by decide) (by decide) (by decide +kernel)
        (by decide +kernel)
    · exact hown caesar 1 "BC".toList ". ".toList (by decide) (by decide) (by decide +kernel)
        (by decide +kernel)
  · have htoken : (Token.field .dayPeriod 1).slot? = some (.name .dayPeriod .abbreviated) := rfl
    exact ⟨htoken, (Token.read_localName (some entangledLocale) htoken 0 (.ofReference .epoch)).1
      .abbreviated 1 "am".toList [] (by decide) (by decide) (by decide +kernel)
      (by decide +kernel)⟩

end DatePattern

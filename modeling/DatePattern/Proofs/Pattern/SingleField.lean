import DatePattern.Proofs.Pattern.CursorSafety
import DatePattern.Proofs.Pattern.NameReading

/-! # One field by itself

What a date shows in a single field is read by that field as a whole, but for two kinds of runs of
letters that ask for a number of digits which is not enough: four or more letters of the year pad it
and cut nothing off, and two letters of the day of the year pad that.  There the date shows more
digits than the field takes, and reading them fails (`Token.read_format_field`). -/

namespace DatePattern

/-- The run of the letter has room for all that the date shows in it. -/
def Symbol.HasRoom (d : Date) (len : Nat) : Symbol → Prop
  | year => 4 ≤ len → yearOfEra d.year < 10 ^ len
  | dayOfYear => len = 2 → d.dayOfYear < 100
  | _ => True

/-! ### Numbers that are too long -/

theorem readNumber_of_mismatch {field : Field} {span : DigitSpan} {digits : List Char}
    (hne : digits ≠ []) (hd : ∀ c ∈ digits, c.isDigit) {expected : Nat}
    (h : span.mismatch? digits.length = some expected) (position : Nat) :
    readNumber field span ⟨position, some digits⟩ =
      .error (.digitCount field expected digits.length position) := by
  have hrun : readNumber field span ⟨position, some (digits ++ [])⟩ = _ :=
    readNumber_run (List.append_ne_nil_of_left_ne_nil hne []) hd nofun position
  rwa [List.append_nil, h] at hrun

/-- A number that does not fit in as many digits as the run has letters is refused. -/
theorem readNumber_padded_of_not_fits {field : Field} {len value : Nat} (hlen : 1 ≤ len)
    (h : ¬ Fits len value) (position : Nat) :
    readNumber field (.ofLength len) ⟨position, some (padded len value)⟩ =
      .error (.digitCount field len (padded len value).length position) := by
  have hone : len ≠ 1 := fun heq => h (.inl heq)
  have hlong : (padded len value).length ≠ len := fun heq =>
    h (.inr ⟨hlen, (length_padded_eq_iff hlen).1 heq⟩)
  apply readNumber_of_mismatch (padded_ne_nil _ _) fun _ => isDigit_of_mem_padded
  rw [DigitSpan.ofLength, if_neg hone, DigitSpan.mismatch?, if_neg hlong]

/-! ### Slots -/

/-- The slot reads the text as a whole. -/
def Slot.ReadsAll (locale : Option Locale) (text : List Char) (draft : Draft)
    (slot : Slot) : Prop :=
  ∃ entered, slot.read locale (.start text) draft = .ok (text.length, entered)

/-- The slot refuses the text, which has more digits than the run has letters. -/
def Slot.Overflows (locale : Option Locale) (text : List Char) (draft : Draft) (len : Nat)
    (slot : Slot) : Prop :=
  slot.read locale (.start text) draft = .error (.digitCount slot.field len text.length 0)

section
variable {locale : Option Locale} (d : Date) (draft : Draft) {text : List Char}

theorem Slot.readsAll_of_append {slot : Slot} {entered : Draft}
    (h : slot.read locale (.start (text ++ [])) draft = .ok (text.length, entered)) :
    slot.ReadsAll locale text draft := by
  rw [List.append_nil] at h
  exact ⟨entered, h⟩

/-- What a year shows is a number that fits in the letters: two and three of them show only its last
digits. -/
theorem exists_fitting_of_renderYear {len year : Nat} (h1 : 1 ≤ len) (h : 4 ≤ len → year < 10 ^ len)
    (hshown : renderYear len year = some text) :
    ∃ value, text = padded len value ∧ Fits len value ∧ value ≤ year := by
  rcases Nat.lt_or_ge len 4 with hlt | hle
  · interval_cases len
    · exact ⟨_, renderYear_eq_some (.inl rfl) hshown, .inl rfl, Nat.le_refl _⟩
    · cases hshown
      exact ⟨_, rfl, .inr ⟨h1, Nat.mod_lt _ (by decide)⟩, Nat.mod_le _ _⟩
    · cases hshown
      exact ⟨_, rfl, .inr ⟨h1, Nat.mod_lt _ (by decide)⟩, Nat.mod_le _ _⟩
  · exact ⟨_, renderYear_eq_some (.inr hle) hshown, .inr ⟨h1, h hle⟩, Nat.le_refl _⟩

theorem Slot.readsAll_year {len : Nat} (h1 : 1 ≤ len)
    (h : 4 ≤ len → yearOfEra d.year < 10 ^ len)
    (hshown : (Slot.year len).render (locale.getD .english) d = some text) :
    (Slot.year len).ReadsAll locale text draft := by
  have hmax := yearOfEra_le_maxNumber d
  obtain ⟨value, rfl, hfit, hle⟩ := exists_fitting_of_renderYear h1 h hshown
  exact readsAll_of_append draft (read_padded_year draft hfit (hle.trans hmax) (by simp) 0)

theorem Slot.overflows_year {len : Nat} (h4 : 4 ≤ len) (h : 10 ^ len ≤ yearOfEra d.year)
    (hshown : (Slot.year len).render (locale.getD .english) d = some text) :
    (Slot.year len).Overflows locale text draft len := by
  have hfit : ¬ Fits len (yearOfEra d.year) := by
    rintro (hone | ⟨-, hlt⟩)
    · omega
    · omega
  obtain rfl := renderYear_eq_some (.inr h4) hshown
  rw [Overflows, read, Cursor.start, readNumber_padded_of_not_fits (by omega) hfit]
  rfl

theorem Slot.readsAll_number {field : NumberField} {len : Nat} (hfit : Fits len (field.value d))
    (hyear : field = .dayOfYear → draft.year = d.year)
    (hshown : (Slot.number field len).render (locale.getD .english) d = some text) :
    (Slot.number field len).ReadsAll locale text draft :=
  readsAll_of_append draft (read_fitting_number d draft hfit hyear hshown (by simp) 0)

theorem Slot.overflows_number {field : NumberField} {len : Nat} (h1 : 1 ≤ len)
    (hfit : ¬ Fits len (field.value d))
    (hshown : (Slot.number field len).render (locale.getD .english) d = some text) :
    (Slot.number field len).Overflows locale text draft len := by
  obtain ⟨-, rfl⟩ := paddedTo?_eq_some_iff.1 hshown
  rw [Overflows, read, Cursor.start, readNumber_padded_of_not_fits h1 hfit]
  rfl

theorem Slot.readsAll_fraction {len : Nat} (h : 1 ≤ len ∧ len ≤ 3)
    (hshown : (Slot.fraction len).render (locale.getD .english) d = some text) :
    (Slot.fraction len).ReadsAll locale text draft :=
  readsAll_of_append draft (read_fraction d draft h hshown (by simp) 0)

/-- No name of a date is empty. -/
theorem NameField.name_ne_nil (hl : locale ∈ [none, some Locale.english, some Locale.german])
    (field : NameField) (width : Width) :
    ∀ index < field.count, ((locale.getD .english).name field width index).toList ≠ [] := by
  simp only [List.mem_cons, List.not_mem_nil, or_false] at hl
  rcases hl with rfl | rfl | rfl <;> cases field <;> cases width <;> decide +kernel

theorem Slot.readsAll_name (hl : locale ∈ [none, some Locale.english, some Locale.german])
    (field : NameField) (width : Width)
    (hshown : (Slot.name field width).render (locale.getD .english) d = some text) :
    (Slot.name field width).ReadsAll locale text draft := by
  have hne := field.name_ne_nil hl width _ (field.index_lt d)
  rw [← Option.some.inj hshown]
  obtain ⟨index, hread⟩ := read_name_alone (NameField.mem_pool_of_name_ne_nil hne) 0 draft
  exact ⟨_, hread⟩

/-! ### Runs of a letter -/

/-- An ordinal day has at most three digits. -/
theorem fits_dayOfYear_iff {len : Nat} (h1 : 1 ≤ len) (h3 : len ≤ 3) :
    Fits len d.dayOfYear ↔ Symbol.dayOfYear.HasRoom d len := by
  have hle : d.dayOfYear ≤ yearLength d.year :=
    dayOfYear_le_yearLength d.year d.month_lt d.day_le_monthLength
  have hlength := yearLength_spec d.year
  rw [Fits, Symbol.HasRoom]
  interval_cases len <;> omega

/-- The slot of a supported run of a letter reads what the date shows in it if it has room for that,
and refuses it otherwise. -/
theorem Symbol.exists_slot_readsAll
    (hl : locale ∈ [none, some Locale.english, some Locale.german])
    (hyear : draft.year = d.year) {symbol : Symbol} {len : Nat} (h1 : 1 ≤ len)
    (hlen : ∀ longest ∈ symbol.longest?, len ≤ longest) :
    ∃ slot, symbol.slot? len = some slot ∧
      ∀ text, slot.render (locale.getD .english) d = some text →
        (symbol.HasRoom d len → slot.ReadsAll locale text draft) ∧
          (¬ symbol.HasRoom d len → slot.Overflows locale text draft len) := by
  have hnumber : ∀ field : NumberField, field ≠ .dayOfYear → len ≤ field.maxLength → ∀ text,
      (Slot.number field len).render (locale.getD .english) d = some text →
        (Slot.number field len).ReadsAll locale text draft := by
    intro field hfield hmax text
    have hfit : Fits len (field.value d) :=
      NumberField.value_fits d ⟨h1, hmax⟩ fun h => absurd h hfield
    exact Slot.readsAll_number d draft hfit fun h => absurd h hfield
  have hname : ∀ field : NameField, len ≤ 5 → ∃ width, field.slot? len = some (.name field width) ∧
      ∀ text, (Slot.name field width).render (locale.getD .english) d = some text →
        (Slot.name field width).ReadsAll locale text draft := by
    intro field h5
    obtain ⟨width, hwidth⟩ := field.exists_slot? h1 h5
    exact ⟨width, hwidth, fun text => Slot.readsAll_name d draft hl field width⟩
  -- all but the year and its ordinal days have room for whatever is shown
  have hroomy : ∀ {slot : Slot}, symbol.HasRoom d len →
      (∀ text, slot.render (locale.getD .english) d = some text →
        slot.ReadsAll locale text draft) →
      ∀ text, slot.render (locale.getD .english) d = some text →
        (symbol.HasRoom d len → slot.ReadsAll locale text draft) ∧
          (¬ symbol.HasRoom d len → slot.Overflows locale text draft len) :=
    fun hroom hreads text hshown => ⟨fun _ => hreads text hshown, fun h => absurd hroom h⟩
  cases symbol with
  | year =>
      refine ⟨.year len, rfl, fun text hshown =>
        ⟨fun hroom => Slot.readsAll_year d draft h1 hroom hshown, fun hroom => ?_⟩⟩
      obtain ⟨h4, hlong⟩ := Classical.not_imp.1 hroom
      exact Slot.overflows_year d draft h4 (Nat.le_of_not_lt hlong) hshown
  | dayOfYear =>
      have h3 : len ≤ 3 := hlen 3 rfl
      refine ⟨.number .dayOfYear len, NumberField.slot?_of_le h1 h3, fun text hshown =>
        ⟨fun hroom => ?_, fun hroom => ?_⟩⟩
      · have hfit := (fits_dayOfYear_iff d h1 h3).2 hroom
        exact Slot.readsAll_number d draft hfit (fun _ => hyear) hshown
      · have hfit := mt (fits_dayOfYear_iff d h1 h3).1 hroom
        exact Slot.overflows_number d draft h1 hfit hshown
  | month | standaloneMonth =>
      rcases Nat.lt_or_ge 2 len with h2 | h2
      · obtain ⟨width, hslot, hreads⟩ := hname .month (hlen 5 rfl)
        exact ⟨_, (if_neg (by omega)).trans hslot, hroomy trivial hreads⟩
      · exact ⟨_, (if_pos h2).trans (NumberField.slot?_of_le h1 h2),
          hroomy trivial (hnumber .month (by decide) h2)⟩
  | weekday | standaloneWeekday =>
      obtain ⟨width, hslot, hreads⟩ := hname .weekday (hlen 5 rfl)
      exact ⟨_, hslot, hroomy trivial hreads⟩
  | era =>
      obtain ⟨width, hslot, hreads⟩ := hname .era (hlen 5 rfl)
      exact ⟨_, hslot, hroomy trivial hreads⟩
  | dayPeriod =>
      obtain ⟨width, hslot, hreads⟩ := hname .dayPeriod (hlen 5 rfl)
      exact ⟨_, hslot, hroomy trivial hreads⟩
  | fractionalSecond =>
      have h3 : 1 ≤ len ∧ len ≤ 3 := ⟨h1, hlen 3 rfl⟩
      exact ⟨_, if_pos h3, hroomy trivial fun text => Slot.readsAll_fraction d draft h3⟩
  | _ =>
      have h2 : len ≤ 2 := hlen 2 rfl
      exact ⟨_, NumberField.slot?_of_le h1 h2, hroomy trivial (hnumber _ (by decide) h2)⟩

end

/-- A single run of a field letter, no longer than the letter supports and padding allows, shows a
text, which that field reads and takes as a whole if the run has room for it; it is refused for the
number of its digits otherwise. -/
theorem Token.read_format_field {locale : Option Locale}
    (hl : locale ∈ [none, some Locale.english, some Locale.german]) (d reference : Date)
    (hyear : reference.year = d.year) {pattern : String} {symbol : Symbol} {len : Nat}
    (hpattern : tokenize pattern.toList = [.field symbol len])
    (hlen : ∀ longest ∈ symbol.longest?, len ≤ longest) (hpadding : len ≤ maxPadding) :
    ∃ text, format (.date d) pattern locale = some text ∧
      (symbol.HasRoom d len → ∃ entered,
        (Token.field symbol len).read locale (.start text.toList) (.ofReference reference) =
          .ok (⟨text.utf8ByteSize, some []⟩, entered)) ∧
      (¬ symbol.HasRoom d len → ∃ field,
        (Token.field symbol len).read locale (.start text.toList) (.ofReference reference) =
          .error (.digitCount field len text.toList.length 0)) := by
  have hmem : .field symbol len ∈ tokenize pattern.toList := by simp [hpattern]
  have h1 : 1 ≤ len := fieldsNonempty_scan false pattern.toList symbol len hmem
  obtain ⟨slot, hslot, hslotReads⟩ :=
    Symbol.exists_slot_readsAll d (.ofReference reference) hl hyear h1 hlen
  have htoken : (Token.field symbol len).slot? = some slot := hslot
  obtain ⟨text, htext⟩ : ∃ text, format (.date d) pattern locale = some text := by
    refine exists_format_eq_some fun count hcount => ?_
    rw [hpattern, List.mem_singleton] at hcount
    cases hcount
    exact hpadding
  have hshown := format_eq_some_iff.1 htext
  rw [hpattern, renderTokens_singleton, Token.render_of_slot htoken] at hshown
  obtain ⟨hreads, hoverflows⟩ := hslotReads _ hshown
  refine ⟨text, htext, fun hroom => ?_, fun hroom => ?_⟩
  · obtain ⟨entered, hread⟩ := hreads hroom
    have htaken := read_of_slot_alone htoken hread
    rw [Nat.zero_add, byteLength_toList] at htaken
    exact ⟨entered, htaken⟩
  · exact ⟨slot.field, read_of_slot_error htoken (hoverflows hroom)⟩

/-- The last day of a leap year, whose ordinal has room in three letters but not in two. -/
theorem Token.read_format_field_lastDayOfLeapYear :
    (⟨1704067200000, by decide⟩ : Date).year = (⟨1735603200000, by decide⟩ : Date).year ∧
    (tokenize "DDD".toList = [.field .dayOfYear 3] ∧
      format (.date ⟨1735603200000, by decide⟩) "DDD" none = some "366" ∧
      ∃ entered, (Token.field .dayOfYear 3).read none (.start "366".toList)
          (.ofReference ⟨1704067200000, by decide⟩) =
        .ok (⟨"366".utf8ByteSize, some []⟩, entered)) ∧
    (tokenize "DD".toList = [.field .dayOfYear 2] ∧
      format (.date ⟨1735603200000, by decide⟩) "DD" none = some "366" ∧
      ∃ field, (Token.field .dayOfYear 2).read none (.start "366".toList)
          (.ofReference ⟨1704067200000, by decide⟩) =
        .error (.digitCount field 2 "366".toList.length 0)) := by
  have hyear : (⟨1704067200000, by decide⟩ : Date).year =
      (⟨1735603200000, by decide⟩ : Date).year := by decide +kernel
  have hthree : tokenize "DDD".toList = [.field .dayOfYear 3] := by decide
  have htwo : tokenize "DD".toList = [.field .dayOfYear 2] := by decide
  have hshown : ∀ pattern ∈ ["DDD", "DD"],
      format (.date ⟨1735603200000, by decide⟩) pattern none = some "366" := by decide +kernel
  have hordinal : (⟨1735603200000, by decide⟩ : Date).dayOfYear = 366 := by decide +kernel
  refine ⟨hyear, ⟨hthree, hshown _ (by simp), ?_⟩, ⟨htwo, hshown _ (by simp), ?_⟩⟩
  · obtain ⟨text, htext, hreads, -⟩ := Token.read_format_field List.mem_cons_self _ _ hyear hthree
      (by decide) (by decide)
    obtain rfl := Option.some.inj ((hshown _ (by simp)).symm.trans htext)
    exact hreads fun h => by contradiction
  · obtain ⟨text, htext, -, hrefused⟩ := Token.read_format_field List.mem_cons_self _ _ hyear htwo
      (by decide) (by decide)
    obtain rfl := Option.some.inj ((hshown _ (by simp)).symm.trans htext)
    refine hrefused fun h => ?_
    have hlt : (⟨1735603200000, by decide⟩ : Date).dayOfYear < 100 := h rfl
    omega

/-- The hundredth day of 2023 in two letters and the year 12345 in four: more digits are shown than
are read. -/
theorem Token.read_format_field_tooLong :
    (tokenize "DD".toList = [.field .dayOfYear 2] ∧
      (⟨1681084800000, by decide⟩ : Date).calendarDay = ⟨2023, 3, 10⟩ ∧
      format (.date ⟨1681084800000, by decide⟩) "DD" none = some "100" ∧
      (Token.field .dayOfYear 2).read none (.start "100".toList)
          (.ofReference ⟨1681084800000, by decide⟩) =
        .error (.digitCount .dayOfYear 2 3 0)) ∧
    (tokenize "yyyy".toList = [.field .year 4] ∧
      (⟨327403382400000, by decide⟩ : Date).calendarDay = ⟨12345, 0, 1⟩ ∧
      format (.date ⟨327403382400000, by decide⟩) "yyyy" none = some "12345" ∧
      (Token.field .year 4).read none (.start "12345".toList)
          (.ofReference ⟨327403382400000, by decide⟩) =
        .error (.digitCount .year 4 5 0)) :=
  ⟨⟨by decide, by decide +kernel, by decide +kernel, by decide +kernel⟩,
    ⟨by decide, by decide +kernel, by decide +kernel, by decide +kernel⟩⟩

end DatePattern

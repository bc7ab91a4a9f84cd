import DatePattern.Date.Wire
import DatePattern.Proofs.Pattern.RoundTrip
import Mathlib.Data.List.Basic

/-! # Reading written dates back

The written form of a date is its year, after the minus sign if there is one, and then what a
pattern shows of the date (`Date.chars_eq`).  Without the sign it is read as the same day and time of
the year without the sign (`Date.parse_unsignedChars`).  That date exists, because a year and its
opposite have the same months and the range goes on longer after the epoch than before it
(`Date.exists_unsignedDay`), and moving it to the opposite year gives the date itself
(`Date.inOppositeYear_unsignedDay`).

* `ofText_toText`: written dates, between blank ends or not, are read as the dates they show. -/

namespace DatePattern

/-! ### Blank ends -/

theorem trimStart_append {blank text : List Char} (hb : ∀ c ∈ blank, isBlank c)
    (ht : ∀ c ∈ text.head?, isBlank c = false) : trimStart (blank ++ text) = text := by
  rw [trimStart, List.dropWhile_append_of_pos hb]
  cases text with
  | nil => rfl
  | cons c text => simp [ht c rfl]

theorem trimEnd_append {text blank : List Char} (hb : ∀ c ∈ blank, isBlank c)
    (ht : ∀ c ∈ text.getLast?, isBlank c = false) : trimEnd (text ++ blank) = text := by
  have h : trimStart (blank.reverse ++ text.reverse) = text.reverse :=
    trimStart_append (by simpa using hb) (by simpa using ht)
  rw [trimStart, ← List.reverse_append] at h
  rw [trimEnd, h, List.reverse_reverse]

/-- Trimming takes away blank ends and nothing else. -/
theorem trim_append_append {before text after : List Char} (hb : ∀ c ∈ before, isBlank c)
    (ha : ∀ c ∈ after, isBlank c) (hne : text ≠ [])
    (hfirst : ∀ c ∈ text.head?, isBlank c = false)
    (hlast : ∀ c ∈ text.getLast?, isBlank c = false) : trim (before ++ text ++ after) = text := by
  have hhead : (text ++ after).head? = text.head? := List.head?_append_of_ne_nil _ hne
  rw [trim, List.append_assoc, trimStart_append hb (by rwa [hhead]), trimEnd_append ha hlast]

theorem not_isBlank_of_isDigit {c : Char} (h : c.isDigit) : isBlank c = false := by
  simp only [Char.isDigit, Bool.and_eq_true, decide_eq_true_eq] at h
  have hl : 48 ≤ c.toNat := h.1
  have hr : c.toNat ≤ 57 := h.2
  simp only [isBlank, blankRanges, List.any_cons, List.any_nil, Bool.or_false, Bool.or_eq_false_iff,
    Bool.and_eq_false_iff, decide_eq_false_iff_not]
  omega

theorem splitSign_of_head_isDigit {text : List Char} (h : ∀ c ∈ text.head?, c.isDigit) :
    splitSign text = (false, text) := by
  unfold splitSign
  split
  case h_1 => exact absurd (h '-' rfl) (by decide)
  case h_2 => exact absurd (h '+' rfl) (by decide)
  case h_3 => rfl

/-! ### The written form without its sign -/

/-- The tokens of a written date after its year. -/
def tokensAfterYear : List Token :=
  [.literal '-', .field .month 2, .literal '-', .field .day 2, .quoted ['T'], .field .hour23 2,
    .literal ':', .field .minute 2, .literal ':', .field .second 2, .literal '.',
    .field .fractionalSecond 3]

theorem tokenize_writtenPattern :
    tokenize writtenPattern.toList = .field .year 1 :: tokensAfterYear := by decide

theorem slotsOf_tokensAfterYear : slotsOf tokensAfterYear =
    [.number .month 2, .number .day 2, .number .hour23 2, .number .minute 2, .number .second 2,
      .fraction 3] := by decide

namespace Date

variable (d : Date)

/-- The written form after its year. -/
def charsAfterYear : List Char :=
  '-' :: padded 2 (d.month + 1) ++ '-' :: padded 2 d.day ++ 'T' :: padded 2 d.hours ++
    ':' :: padded 2 d.minutes ++ ':' :: padded 2 d.seconds ++ '.' :: padded 3 d.milliseconds

/-- The written form without its sign. -/
def unsignedChars : List Char := padded 4 d.year.natAbs ++ d.charsAfterYear

theorem chars_eq : d.chars = if d.year < 0 then '-' :: d.unsignedChars else d.unsignedChars := by
  rw [unsignedChars, charsAfterYear, chars, writtenYear]
  split <;> simp

/-- The tokens after the year show what is written there. -/
theorem renderTokens_tokensAfterYear (locale : Option Locale) :
    renderTokens locale d tokensAfterYear = some d.charsAfterYear := by
  have hfraction : d.milliseconds / fractionUnit 3 = d.milliseconds := Nat.div_one _
  simp [renderTokens, tokensAfterYear, Token.render, Token.slot?, Symbol.slot?, monthSlot?,
    NumberField.slot?, NumberField.maxLength, Slot.render, paddedTo?, maxPadding,
    NumberField.value, Token.literalText, charsAfterYear, hfraction]

theorem unsignedChars_ne_nil : d.unsignedChars ≠ [] :=
  List.append_ne_nil_of_left_ne_nil (padded_ne_nil _ _) _

theorem head_unsignedChars : ∀ c ∈ d.unsignedChars.head?, c.isDigit := by
  have hhead : d.unsignedChars.head? = (padded 4 d.year.natAbs).head? :=
    List.head?_append_of_ne_nil _ (padded_ne_nil _ _)
  intro c hc
  rw [hhead] at hc
  exact isDigit_of_mem_padded (List.mem_of_mem_head? hc)

theorem getLast_unsignedChars : ∀ c ∈ d.unsignedChars.getLast?, c.isDigit := by
  have hlast : d.unsignedChars.getLast? = (padded 3 d.milliseconds).getLast? := by
    rw [unsignedChars, charsAfterYear, ← List.append_assoc,
      List.getLast?_append_of_ne_nil _ (List.cons_ne_nil _ _)]
    exact List.getLast?_append_of_ne_nil ['.'] (padded_ne_nil _ _)
  intro c hc
  rw [hlast] at hc
  exact isDigit_of_mem_padded (List.mem_of_mem_getLast? hc)

theorem splitSign_unsignedChars : splitSign d.unsignedChars = (false, d.unsignedChars) :=
  splitSign_of_head_isDigit d.head_unsignedChars

/-! ### The year without its sign -/

/-- The calendar day of a date, moved to the year without its sign. -/
def unsignedDay : CalendarDay := ⟨d.year.natAbs, d.month, d.day⟩

/-- In the year without its sign, too, the day and the time of a date make a date. -/
theorem exists_unsignedDay : ∃ e : Date,
    ofParts d.unsignedDay d.clock = .ok e ∧ e.calendarDay = d.unsignedDay ∧ e.clock = d.clock := by
  rcases lt_or_ge d.year 0 with hneg | hpos
  · have hyear : ((d.year.natAbs : Nat) : Int) = -d.year := by omega
    have hlow := d.year_bounds.1
    have hvalid : d.unsignedDay.IsValid := by
      refine ⟨d.month_lt, d.one_le_day, ?_⟩
      rw [unsignedDay, hyear, monthLength_neg _ d.month_lt]
      exact d.day_le_monthLength
    refine ofParts_eq_ok hvalid d.isValid_clock
      (CalendarDay.representable_of_year hvalid d.isValid_clock ?_ ?_)
    · change (-271821 : Int) < d.year.natAbs
      omega
    · change (d.year.natAbs : Int) < 275760
      omega
  · have hday : d.unsignedDay = d.calendarDay := by
      rw [unsignedDay, Int.natAbs_of_nonneg hpos]
      rfl
    rw [hday]
    exact ⟨d, d.ofParts_parts, rfl, rfl⟩

/-- A date of a negative year comes back from the opposite year. -/
theorem inOppositeYear_unsignedDay {e : Date} (hneg : d.year < 0)
    (hday : e.calendarDay = d.unsignedDay) (hclock : e.clock = d.clock) :
    e.inOppositeYear = .ok d := by
  have hyear : -e.year = d.year := by
    rw [year, hday]
    change -(d.year.natAbs : Int) = d.year
    omega
  rw [inOppositeYear, hyear, hday, hclock]
  exact d.ofParts_parts

/-! ### Reading -/

/-- The fields that are read of a written date are its own, in the year without its sign. -/
theorem fields_echo (reference : Date) :
    (echo d ((Draft.ofReference reference).supplyYear d.year.natAbs)
      (slotsOf tokensAfterYear)).fields = .ofParts d.unsignedDay d.clock := by
  have hunit : d.milliseconds / fractionUnit 3 * fractionUnit 3 = d.milliseconds := by
    simp [fractionUnit]
  rw [slotsOf_tokensAfterYear]
  simp only [echo, List.foldl_cons, List.foldl_nil, Slot.echo, hunit]
  rfl

theorem read_year {tail : List Char} (ht : ∀ c ∈ tail.head?, c.isDigit = false) (draft : Draft) :
    (Token.field .year 1).read none (.start (padded 4 d.year.natAbs ++ tail)) draft =
      .ok (⟨byteLength (padded 4 d.year.natAbs), some tail⟩,
        draft.supplyYear d.year.natAbs) := by
  have hmax : numeralValue (padded 4 d.year.natAbs) ≤ maxNumber := by
    have h := d.year_bounds
    rw [numeralValue_padded, maxNumber]
    omega
  have hnumber : readNumber .year (.ofLength 1)
      (.start (padded 4 d.year.natAbs ++ tail)) = .ok (_, _) :=
    readNumber_append (padded_ne_nil _ _) (fun _ => isDigit_of_mem_padded) ht ⟨rfl, rfl⟩ hmax
  rw [numeralValue_padded] at hnumber
  simp only [Token.read, Token.slot?, Symbol.slot?, Slot.read, hnumber, bind, Except.bind]
  rw [Cursor.start, Cursor.advance_append]
  simp

/-- The written form without its sign is read as the date of that day in the year without it. -/
theorem parse_unsignedChars : parse (String.ofList d.unsignedChars) writtenPattern
    { reference := .date epoch } =
      (ofParts d.unsignedDay d.clock).mapError fun _ => .unrepresentable := by
  have hseparated : Separated tokensAfterYear := by decide
  have hlegible : ∀ slot ∈ slotsOf tokensAfterYear, slot.Legible d := by
    simp [slotsOf_tokensAfterYear, Slot.Legible]
  have hordinal : ∀ len, .number .dayOfYear len ∉ slotsOf tokensAfterYear := by
    simp [slotsOf_tokensAfterYear]
  have hdash : ∀ c ∈ d.charsAfterYear.head?, c.isDigit = false := by
    simp [charsAfterYear]
  have hrest := readTokens_render List.mem_cons_self d tokensAfterYear
    ((Draft.ofReference epoch).supplyYear d.year.natAbs) (byteLength (padded 4 d.year.natAbs))
    (d.renderTokens_tokensAfterYear none) hseparated hlegible fun before len after hsplit =>
      absurd (hsplit ▸ List.mem_append_cons_self) (hordinal len)
  have hparse : parse (String.ofList d.unsignedChars) writtenPattern { reference := .date epoch } =
      parseTokens none epoch (.field .year 1 :: tokensAfterYear) d.unsignedChars := by
    rw [parse, String.toList_ofList, tokenize_writtenPattern]
    rfl
  rw [hparse, parseTokens, readTokens, unsignedChars, d.read_year hdash]
  simp only [bind, Except.bind]
  rw [hrest, ofParts, ← fields_echo d epoch]
  rfl

/-! ### Ends of the written form -/

theorem head_chars : ∀ c ∈ d.chars.head?, isBlank c = false := by
  intro c hc
  rw [chars_eq] at hc
  split at hc
  · cases hc
    decide
  · exact not_isBlank_of_isDigit (d.head_unsignedChars c hc)

theorem getLast_chars : ∀ c ∈ d.chars.getLast?, isBlank c = false := by
  have hlast : d.chars.getLast? = d.unsignedChars.getLast? := by
    rw [chars_eq]
    split
    · exact List.getLast?_append_of_ne_nil ['-'] d.unsignedChars_ne_nil
    · rfl
  intro c hc
  rw [hlast] at hc
  exact not_isBlank_of_isDigit (d.getLast_unsignedChars c hc)

/-- Blank ends of a written date are all that trimming takes away. -/
theorem trim_chars {sign before after : List Char} (hs : ∀ c ∈ sign, isBlank c = false)
    (hb : ∀ c ∈ before, isBlank c) (ha : ∀ c ∈ after, isBlank c) :
    trim (before ++ (sign ++ d.chars) ++ after) = sign ++ d.chars := by
  have hne : d.chars ≠ [] := by
    rw [chars_eq]
    split
    · exact List.cons_ne_nil _ _
    · exact d.unsignedChars_ne_nil
  apply trim_append_append hb ha (List.append_ne_nil_of_right_ne_nil _ hne)
  · intro c hc
    cases sign with
    | nil => exact d.head_chars c hc
    | cons mark marks =>
        cases hc
        exact hs _ List.mem_cons_self
  · intro c hc
    rw [List.getLast?_append_of_ne_nil _ hne] at hc
    exact d.getLast_chars c hc

/-! ### Round trip -/

/-- A text that is, but for blank ends, the written form of a date, or the same after a plus sign,
is read as the date. -/
theorem ofText_eq_ok {text : String} (h : trim text.toList = d.chars ∨
    0 ≤ d.year ∧ trim text.toList = '+' :: d.chars) : ofText text = .ok d := by
  obtain ⟨e, he, hday, hclock⟩ := d.exists_unsignedDay
  have hread := d.parse_unsignedChars
  rw [he] at hread
  rcases lt_or_ge d.year 0 with hneg | hpos
  · have htrim : trim text.toList = '-' :: d.unsignedChars := by
      rw [chars_eq, if_pos hneg] at h
      exact h.resolve_right fun h => absurd h.1 (not_le.2 hneg)
    simp only [ofText, htrim, splitSign, hread]
    exact d.inOppositeYear_unsignedDay hneg hday hclock
  · have hsplit : splitSign (trim text.toList) = (false, d.unsignedChars) := by
      rw [chars_eq, if_neg (not_lt.2 hpos)] at h
      rcases h with h | ⟨-, h⟩
      · rw [h, splitSign_unsignedChars]
      · rw [h, splitSign]
    have hde : e = d := by
      apply eq_of_parts _ hclock
      rw [hday, unsignedDay, Int.natAbs_of_nonneg hpos]
      rfl
    simp only [ofText, hsplit, hread]
    rw [hde]
    rfl

end Date

/-- A written date is read as that date again, also between blank ends and, in the years from 0 on,
after a plus sign, and it travels as a value that is taken as that date again.  So no two dates are
written alike. -/
theorem ofText_toText :
    (∀ d : Date, -271821 ≤ d.year ∧ d.year ≤ 275760 ∧
      (∀ before after : String, (∀ c ∈ before.toList, isBlank c) →
        (∀ c ∈ after.toList, isBlank c) →
          Date.ofText (before ++ d.toText ++ after) = .ok d ∧
            (0 ≤ d.year → Date.ofText (before ++ "+" ++ d.toText ++ after) = .ok d)) ∧
      Date.ofText d.toText = .ok d ∧ Date.ofWire d.toWire = .ok d) ∧
    Function.Injective Date.toText := by
  have hblank : ∀ (d : Date) (before after : String), (∀ c ∈ before.toList, isBlank c) →
      (∀ c ∈ after.toList, isBlank c) →
        Date.ofText (before ++ d.toText ++ after) = .ok d ∧
          (0 ≤ d.year → Date.ofText (before ++ "+" ++ d.toText ++ after) = .ok d) := by
    intro d before after hb ha
    constructor
    · apply d.ofText_eq_ok
      left
      have htrim := d.trim_chars (List.forall_mem_nil _) hb ha
      simpa [Date.toText] using htrim
    · intro hpos
      apply d.ofText_eq_ok
      right
      constructor
      · exact hpos
      · have hplus : ∀ c ∈ ['+'], isBlank c = false := by
          intro c hc
          rw [List.mem_singleton.1 hc]
          decide
        have htrim := d.trim_chars hplus hb ha
        simpa [Date.toText] using htrim
  have hplain : ∀ d : Date, Date.ofText d.toText = .ok d := by
    intro d
    have h := (hblank d "" "" (by simp) (by simp)).1
    rwa [String.empty_append, String.append_empty] at h
  constructor
  · intro d
    refine ⟨d.year_bounds.1, d.year_bounds.2, hblank d, hplain d, ?_⟩
    rw [Date.toWire, Date.ofWire, hplain]
    rfl
  · intro d e hde
    have h := hplain d
    rw [hde, hplain] at h
    exact (Except.ok.inj h).symm

/-- The last instants of the leap days of the years -4 and 0. -/
theorem ofText_toText_leapDays :
    ((∀ c ∈ "\u2003\n".toList, isBlank c) ∧ (∀ c ∈ "\u3000".toList, isBlank c)) ∧
      Date.ofText ("\u2003\n" ++ (⟨-62288265600001, by decide⟩ : Date).toText ++ "\u3000") =
        .ok ⟨-62288265600001, by decide⟩ ∧
      0 ≤ (⟨-62162035200001, by decide⟩ : Date).year ∧
      Date.ofText ("\u2003\n" ++ "+" ++ (⟨-62162035200001, by decide⟩ : Date).toText ++ "\u3000") =
        .ok ⟨-62162035200001, by decide⟩ := by
  have hbefore : ∀ c ∈ "\u2003\n".toList, isBlank c := List.all_eq_true.1 (by decide)
  have hafter : ∀ c ∈ "\u3000".toList, isBlank c := List.all_eq_true.1 (by decide)
  have hyear : 0 ≤ (⟨-62162035200001, by decide⟩ : Date).year := by decide
  exact ⟨⟨hbefore, hafter⟩,
    ((ofText_toText.1 _).2.2.1 _ _ hbefore hafter).1, hyear,
    ((ofText_toText.1 _).2.2.1 _ _ hbefore hafter).2 hyear⟩

end DatePattern

import DatePattern.Proofs.Date.WrittenGrammar

/-! # Texts that are not read as dates

A text of another form than that of written dates is an invalid one.  A text of that form is read
without its sign first, and where the date without the sign is out of the range, the text is called
invalid as well.  Only a date with a minus sign can be found to be out of the range after that: the
range reaches further after the epoch than before it, so the opposite year may be in the range.

* `WrittenDate.parse_unsignedChars`: what reading a text of the form without its sign comes to.
* `Date.errorFits_iff`: the texts whose error says what is wrong with them.
* `ofText_eq_error_iff`: which texts are out of the range, and which ones invalid. -/

namespace DatePattern

/-- A day that may roll over and a time of day make the date of their instant. -/
theorem Date.ofParts_eq_ofMillis_millis {day : CalendarDay} {clock : Clock} (hm : day.month < 12)
    (h1 : 1 ≤ day.day) (h31 : day.day ≤ 31) (hclock : clock.IsValid) :
    ofParts day clock = ofMillis (Fields.ofParts day clock).millis := by
  rw [← ofParts_rolledOver hm h1 h31,
    ofParts_eq_ofMillis (CalendarDay.isValid_rolledOver hm h1 h31) hclock,
    CalendarDay.epochDay_rolledOver hm h1 h31, Fields.millis_ofParts hm]

theorem Date.eq_outOfRange_of_ofFields {f : Fields} {e : DateError} (h : ofFields f = .error e) :
    e = .outOfRange := by
  rw [ofFields] at h
  split at h
  · exact (ofMillis_eq_error_iff.1 h).2
  · exact (Except.error.inj h).symm

/-- Fields of the same dates come to the same, as there is only one way not to be a date. -/
theorem Date.ofFields_congr {f g : Fields} (h : ∀ d, ofFields f = .ok d ↔ ofFields g = .ok d) :
    ofFields f = ofFields g := by
  cases hf : ofFields f with
  | ok d => exact ((h d).1 hf).symm
  | error e =>
      cases hg : ofFields g with
      | ok d => exact absurd (hf.symm.trans ((h d).2 hg)) nofun
      | error e' => rw [eq_outOfRange_of_ofFields hf, eq_outOfRange_of_ofFields hg]

/-- A number that is too large is refused wherever its digits end. -/
theorem readNumber_tooLarge {field : Field} {digits tail : List Char} (hne : digits ≠ [])
    (hd : ∀ c ∈ digits, c.isDigit) (ht : ∀ c ∈ tail.head?, c.isDigit = false)
    (hmax : maxNumber < numeralValue digits) (position : Nat) :
    readNumber field .any ⟨position, some (digits ++ tail)⟩ =
      .error (.numberTooLarge field position) := by
  rw [readNumber_run (List.append_ne_nil_of_left_ne_nil hne tail) hd ht]
  simp only [DigitSpan.mismatch?, DigitSpan.taken, List.take_length]
  rw [if_neg hne, if_pos hmax]

namespace WrittenDate

/-! ### Dates in the range -/

variable (w : WrittenDate)

/-- The date that the text denotes lies in the range. -/
def InRange : Prop := Representable w.fields.millis

instance : Decidable w.InRange := by
  unfold InRange; infer_instance

/-- The same without a sign. -/
def unsigned : WrittenDate := { w with sign := .none }

theorem fields_unsigned : w.unsigned.fields = .ofParts w.unsignedDay w.clock :=
  w.unsigned.fields_eq

theorem ofFields_eq_ofMillis : Date.ofFields w.fields = Date.ofMillis w.fields.millis := by
  have hparts : Date.ofParts (w.unsignedDay.inYear (w.sign.apply (numeralValue w.year)))
      w.clock = _ :=
    Date.ofParts_eq_ofMillis_millis w.month_lt w.day.low_le w.day.le_high w.isValid_clock
  rw [w.fields_eq]
  exact hparts

theorem inRange_iff : w.InRange ↔ ∃ d, Date.ofFields w.fields = .ok d := by
  rw [ofFields_eq_ofMillis]
  constructor
  · exact fun h => ⟨⟨_, h⟩, Date.ofMillis_eq_ok_iff.2 rfl⟩
  · rintro ⟨d, hd⟩
    rw [InRange, ← Date.ofMillis_eq_ok_iff.1 hd]
    exact d.representable

theorem inRange_unsigned_iff :
    w.unsigned.InRange ↔ ∃ d, Date.ofParts w.unsignedDay w.clock = .ok d := by
  rw [inRange_iff, fields_unsigned]
  rfl

theorem ofFields_eq_outOfRange_iff :
    Date.ofFields w.fields = .error .outOfRange ↔ ¬ w.InRange := by
  rw [ofFields_eq_ofMillis, Date.ofMillis_eq_error_iff, InRange]
  exact and_iff_left rfl

variable {w} in
/-- Only a minus sign changes the date. -/
theorem inRange_unsigned_iff_of_ne_minus (h : w.sign ≠ .minus) :
    w.unsigned.InRange ↔ w.InRange := by
  have hfields : w.unsigned.fields = w.fields := by
    rw [fields_unsigned, fields_eq]
    cases hsign : w.sign with
    | none | plus => rfl
    | minus => exact absurd hsign h
  rw [InRange, InRange, hfields]

theorem sign_eq_minus {w : WrittenDate} (h : w.unsigned.InRange) (hrange : ¬ w.InRange) :
    w.sign = .minus := by
  by_contra hsign
  exact hrange ((inRange_unsigned_iff_of_ne_minus hsign).1 h)

/-! ### Reading the text without its sign -/

/-- What reading the text without its sign comes to. -/
theorem parse_unsignedChars :
    parse (String.ofList w.unsignedChars) writtenPattern { reference := .date .epoch } =
      if maxNumber < numeralValue w.year then .error (.numberTooLarge .year 0)
      else (Date.ofParts w.unsignedDay w.clock).mapError fun _ => .unrepresentable := by
  rw [parse_eq_parseTokens, tokenize_writtenPattern, String.toList_ofList, parseTokens,
    Cursor.start]
  split
  · rename_i hmax
    have hchars : w.unsignedChars = w.year ++ ('-' :: w.pieces.tail.tail.flatten) := by
      simp [unsignedChars, pieces]
    have hnumber : readNumber .year .any ⟨0, some (w.year ++ '-' :: w.pieces.tail.tail.flatten)⟩ =
        .error (.numberTooLarge .year 0) :=
      readNumber_tooLarge w.year_ne_nil w.isDigit_year (by simp) hmax 0
    have hslot : Slot.read none ⟨0, some w.unsignedChars⟩ (.ofReference .epoch) (.year 1) =
        .error (.numberTooLarge .year 0) := by
      rw [Slot.read, DigitSpan.ofLength, if_pos rfl, hchars, hnumber]
      rfl
    have hfield : (Token.field .year 1).slot? = some (.year 1) := rfl
    have htoken := Token.read_of_slot_error hfield hslot
    simp only [readTokens, htoken, bind, Except.bind]
  · rename_i hmax
    have hs : ∀ token ∈ Token.field .year 1 :: tokensAfterYear, token.Numeric := by decide
    have hrun : readTokens none (.field .year 1 :: tokensAfterYear)
        ⟨0, some w.pieces.flatten⟩ (.ofReference .epoch) = .ok _ :=
      readTokens_of_admits (w.admits_pieces (Nat.not_lt.1 hmax)) hs (by decide) 0
        (.ofReference .epoch)
    rw [flatten_pieces] at hrun
    rw [hrun]
    change Draft.finish _ = _
    rw [Draft.finish, fields_fillAll, fieldsOf_pieces]
    rfl

/-- Why the text without its sign is refused, where its date is not in the range. -/
def cause : ParseError :=
  if maxNumber < numeralValue w.year then .numberTooLarge .year 0 else .unrepresentable

theorem parse_unsignedChars_of_not_inRange (h : ¬ w.unsigned.InRange) :
    parse (String.ofList w.unsignedChars) writtenPattern { reference := .date .epoch } =
      .error w.cause := by
  rw [parse_unsignedChars, cause]
  split
  · rfl
  · cases hdate : Date.ofParts w.unsignedDay w.clock with
    | ok d => exact absurd (w.inRange_unsigned_iff.2 ⟨d, hdate⟩) h
    | error e => rfl

/-! ### Reading a text of the form -/

section
variable {w} {text : String} (htext : trim text.toList = w.chars)
include htext

/-- A text of the form is read without its sign first. -/
theorem ofText_of_not_inRange_unsigned (h : ¬ w.unsigned.InRange) :
    Date.ofText text = .error (.invalidFormat (String.ofList w.chars) w.cause) := by
  simp only [Date.ofText, htext, splitSign_chars, w.parse_unsignedChars_of_not_inRange h]

/-- Where the date without the sign is in the range, the text is read as its date, or is found to
be out of the range. -/
theorem ofText_of_inRange_unsigned (h : w.unsigned.InRange) :
    Date.ofText text = Date.ofFields w.fields := by
  obtain ⟨e, he⟩ := w.inRange_unsigned_iff.1 h
  have hparse : parse (String.ofList w.unsignedChars) writtenPattern
      { reference := .date .epoch } = .ok e :=
    (parse_writtenPattern_iff w.sign _ e).2 ⟨w, rfl, rfl, he⟩
  have hsame : ∀ d, (if w.sign == .minus then e.inOppositeYear else .ok e) = .ok d ↔
      Date.ofFields w.fields = .ok d := by
    intro d
    rw [ofFields_eq_ok_iff, he]
    simp
  simp only [Date.ofText, htext, splitSign_chars, hparse]
  cases hsign : w.sign with
  | none | plus =>
      rw [hsign] at hsame
      exact ((hsame e).1 rfl).symm
  | minus =>
      rw [hsign] at hsame
      exact Date.ofFields_congr hsame

theorem ofText_eq_outOfRange_iff :
    Date.ofText text = .error .outOfRange ↔ w.sign = .minus ∧ w.unsigned.InRange ∧ ¬ w.InRange := by
  by_cases h : w.unsigned.InRange
  · rw [ofText_of_inRange_unsigned htext h, w.ofFields_eq_outOfRange_iff]
    exact ⟨fun hrange => ⟨sign_eq_minus h hrange, h, hrange⟩, fun hminus => hminus.2.2⟩
  · rw [ofText_of_not_inRange_unsigned htext h]
    simp [h]

end

end WrittenDate

/-- A text of another form is an invalid one. -/
theorem Date.ofText_of_forall_ne {text : String}
    (h : ∀ w : WrittenDate, trim text.toList ≠ w.chars) :
    ∃ cause, ofText text = .error (.invalidFormat (String.ofList (trim text.toList)) cause) := by
  obtain ⟨sign, htrim, -⟩ := exists_sign (trim text.toList)
  cases hparse : parse (String.ofList (splitSign (trim text.toList)).2) writtenPattern
      { reference := .date epoch } with
  | ok d =>
      obtain ⟨w, rfl, hchars, -⟩ := (WrittenDate.parse_writtenPattern_iff sign _ d).1 hparse
      rw [← hchars] at htrim
      exact absurd htrim (h w)
  | error cause =>
      refine ⟨cause, ?_⟩
      simp only [ofText, hparse]

namespace Date

variable (text : String)

theorem ofText_eq_outOfRange_iff : ofText text = .error .outOfRange ↔ ∃ w : WrittenDate,
    trim text.toList = w.chars ∧ w.sign = .minus ∧ w.unsigned.InRange ∧ ¬ w.InRange := by
  constructor
  · intro h
    by_contra hform
    obtain ⟨cause, hcause⟩ := ofText_of_forall_ne fun w (htext : trim text.toList = _) =>
      hform ⟨w, htext, (WrittenDate.ofText_eq_outOfRange_iff htext).1 h⟩
    exact absurd (h.symm.trans hcause) nofun
  · rintro ⟨w, htext, hw⟩
    exact (WrittenDate.ofText_eq_outOfRange_iff htext).2 hw

theorem ofText_eq_invalidFormat_iff :
    (∃ cause, ofText text =
        .error (.invalidFormat (String.ofList (trim text.toList)) cause)) ↔
      ∀ w : WrittenDate, trim text.toList = w.chars → ¬ w.unsigned.InRange := by
  constructor
  · rintro ⟨cause, hcause⟩ w htext hrange
    have hdate := WrittenDate.ofText_of_inRange_unsigned htext hrange
    have hout := eq_outOfRange_of_ofFields (hdate.symm.trans hcause)
    exact absurd hout nofun
  · intro h
    by_cases hform : ∃ w : WrittenDate, trim text.toList = w.chars
    · obtain ⟨w, htext⟩ := hform
      rw [htext]
      exact ⟨w.cause, WrittenDate.ofText_of_not_inRange_unsigned htext (h w htext)⟩
    · exact ofText_of_forall_ne (not_exists.1 hform)

/-- The error says what is wrong with a text: that it denotes a date out of the range, or that it is
not of the form of written dates. -/
structure ErrorFits : Prop where
  outOfRange : ofText text = .error .outOfRange ↔
    ∃ w : WrittenDate, trim text.toList = w.chars ∧ ¬ w.InRange
  invalidFormat : (∃ cause, ofText text =
      .error (.invalidFormat (String.ofList (trim text.toList)) cause)) ↔
    ∀ w : WrittenDate, trim text.toList ≠ w.chars

theorem errorFits_iff :
    ErrorFits text ↔ ∀ w : WrittenDate, trim text.toList = w.chars → w.unsigned.InRange := by
  constructor
  · intro h w htext
    by_contra hrange
    have hinvalid := WrittenDate.ofText_of_not_inRange_unsigned htext hrange
    rw [← htext] at hinvalid
    exact h.invalidFormat.1 ⟨_, hinvalid⟩ w htext
  · intro h
    constructor
    · rw [ofText_eq_outOfRange_iff]
      constructor
      · rintro ⟨w, htext, -, -, hrange⟩
        exact ⟨w, htext, hrange⟩
      · rintro ⟨w, htext, hrange⟩
        have hunsigned := h w htext
        exact ⟨w, htext, WrittenDate.sign_eq_minus hunsigned hrange, hunsigned, hrange⟩
    · rw [ofText_eq_invalidFormat_iff]
      constructor
      · exact fun hout w htext => hout w htext (h w htext)
      · exact fun hne w htext => absurd htext (hne w)

end Date

/-- The start of a year of six digits. -/
def WrittenDate.newYear (sign : Sign) (year : Numeral 6 0 999999) : WrittenDate where
  sign
  year := year.digits
  year_ne_nil := List.ne_nil_of_length_pos (year.length_eq.symm ▸ by decide)
  isDigit_year := year.isDigit
  month := ⟨['0', '1'], by simp, rfl, by decide, by decide⟩
  day := ⟨['0', '1'], by simp, rfl, by decide, by decide⟩
  hours := ⟨['0', '0'], by simp, rfl, by decide, by decide⟩
  minutes := ⟨['0', '0'], by simp, rfl, by decide, by decide⟩
  seconds := ⟨['0', '0'], by simp, rfl, by decide, by decide⟩
  milliseconds := ⟨['0', '0', '0'], by simp, rfl, by decide, by decide⟩

/-! ### Main statement -/

/-- A text is found to be out of the range exactly when it is of the form of written dates, has a
minus sign, and its date is in the range without the sign, but not with it.  It is called invalid
exactly when it is of no such form, or of one whose date is out of the range without its sign.  So
the error fits all texts but those of the form whose date is out of the range without its sign. -/
theorem ofText_eq_error_iff (text : String) :
    (Date.ofText text = .error .outOfRange ↔ ∃ w : WrittenDate,
      trim text.toList = w.chars ∧ w.sign = .minus ∧ w.unsigned.InRange ∧ ¬ w.InRange) ∧
    ((∃ cause, Date.ofText text =
        .error (.invalidFormat (String.ofList (trim text.toList)) cause)) ↔
      ∀ w : WrittenDate, trim text.toList = w.chars → ¬ w.unsigned.InRange) ∧
    (∀ w : WrittenDate, trim text.toList = w.chars → ¬ w.unsigned.InRange →
      Date.ofText text = .error (.invalidFormat (String.ofList w.chars) w.cause)) ∧
    (Date.ErrorFits text ↔
      ∀ w : WrittenDate, trim text.toList = w.chars → w.unsigned.InRange) :=
  ⟨Date.ofText_eq_outOfRange_iff text, Date.ofText_eq_invalidFormat_iff text,
    fun _ htext => WrittenDate.ofText_of_not_inRange_unsigned htext, Date.errorFits_iff text⟩

/-- The year -275000 is found to be out of the range, as 275000 is not.  The year 300000 is out of
the range as well, and called invalid. -/
theorem ofText_eq_error_iff_sixDigits :
    Date.ofText "-275000-01-01T00:00:00.000" = .error .outOfRange ∧
      ∃ cause, Date.ofText "300000-01-01T00:00:00.000" =
        .error (.invalidFormat "300000-01-01T00:00:00.000" cause) := by
  constructor
  · exact (ofText_eq_error_iff _).1.2
      ⟨.newYear .minus ⟨['2', '7', '5', '0', '0', '0'], by simp, rfl, by decide, by decide⟩,
        by decide +kernel, rfl, by decide +kernel, by decide +kernel⟩
  · exact ⟨_, (ofText_eq_error_iff _).2.2.1
      (.newYear .none ⟨['3', '0', '0', '0', '0', '0'], by simp, rfl, by decide, by decide⟩)
        (by decide +kernel) (by decide +kernel)⟩

/-- A text of the form whose date is out of the range, and that is called invalid nevertheless. -/
theorem ofText_outOfRange_invalid : (∃ w : WrittenDate,
    trim "300000-01-01T00:00:00.000".toList = w.chars ∧ ¬ w.InRange) ∧
      Date.ofText "300000-01-01T00:00:00.000" =
        .error (.invalidFormat "300000-01-01T00:00:00.000" .unrepresentable) ∧
      ¬ Date.ErrorFits "300000-01-01T00:00:00.000" := by
  have hform : ∃ w : WrittenDate,
      trim "300000-01-01T00:00:00.000".toList = w.chars ∧ ¬ w.InRange := by
    refine ⟨.newYear .none ⟨['3', '0', '0', '0', '0', '0'], by simp, rfl, by decide, by decide⟩,
      ?_, ?_⟩
    · decide +kernel
    · decide +kernel
  have herror : Date.ofText "300000-01-01T00:00:00.000" =
      .error (.invalidFormat "300000-01-01T00:00:00.000" .unrepresentable) := by decide +kernel
  refine ⟨hform, herror, fun h => ?_⟩
  exact absurd (herror.symm.trans (h.outOfRange.2 hform)) nofun

end DatePattern

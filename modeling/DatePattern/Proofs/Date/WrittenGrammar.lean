import DatePattern.Proofs.Date.Rollover
import DatePattern.Proofs.Date.WrittenForm
import DatePattern.Proofs.Pattern.NumericGrammar

/-! # The texts that are read as dates

A `WrittenDate` is a text by the grammar of written dates: a sign or none, a year of any number of
digits, and the other fields with their fixed numbers of digits, each in its range.

The day may lie past the end of its month and then rolls over.  A date with a minus sign is read
without it first, so the day rolls over in the opposite year, and only then does the date move to
its own year.  Nothing is lost on the way (`Date.ofParts_inOppositeYear_iff`): in both years the day
rolls over to the same day and month (`CalendarDay.rolledOver_neg`), and the range goes on longer
after the epoch than before it.

* `ofText_eq_ok_iff`: the texts that are read as dates, and the dates they are read as. -/

namespace DatePattern

/-! ### Opposite years -/

/-- The same day and month of another year. -/
def CalendarDay.inYear (d : CalendarDay) (year : Int) : CalendarDay := { d with year }

/-- A year and its opposite have the same months, so the same days roll over to the same days. -/
theorem CalendarDay.rolledOver_neg {d : CalendarDay} (hm : d.month < 12) :
    (d.inYear (-d.year)).rolledOver = d.rolledOver.inYear (-d.year) := by
  have hlength := monthLength_neg d.year hm
  simp only [rolledOver, inYear, hlength]
  split <;> rfl

namespace Date

section
variable {day : CalendarDay} {clock : Clock} {d e : Date} (hm : day.month < 12) (h1 : 1 ≤ day.day)
  (h31 : day.day ≤ 31) (hclock : clock.IsValid)
include hm h1 h31 hclock

theorem ofParts_opposite_eq_ok_iff : ofParts (day.inYear (-day.year)) clock = .ok d ↔
    d.calendarDay = day.rolledOver.inYear (-day.year) ∧ d.clock = clock := by
  rw [← CalendarDay.rolledOver_neg hm]
  exact ofParts_eq_ok_iff hm h1 h31 hclock

/-- In a year and in its opposite a day rolls over to the same day and month. -/
theorem calendarDay_of_opposite (hd : ofParts day clock = .ok d)
    (he : ofParts (day.inYear (-day.year)) clock = .ok e) :
    e.calendarDay = d.calendarDay.inYear (-d.year) ∧ e.clock = d.clock := by
  obtain ⟨hday, rfl⟩ := (ofParts_eq_ok_iff hm h1 h31 hclock).1 hd
  obtain ⟨hopposite, heclock⟩ := (ofParts_opposite_eq_ok_iff hm h1 h31 hclock).1 he
  refine ⟨?_, heclock⟩
  rw [hopposite, year, hday, day.rolledOver_year]

/-- Reading a date without its minus sign, and then moving it to its own year, comes to the same as
making it of its own fields. -/
theorem ofParts_inOppositeYear_iff (hpos : 0 ≤ day.year) :
    (∃ e, ofParts day clock = .ok e ∧ e.inOppositeYear = .ok d) ↔
      ofParts (day.inYear (-day.year)) clock = .ok d := by
  have hopposite : ∀ e : Date, e.calendarDay = day.rolledOver → e.clock = clock →
      e.inOppositeYear = ofParts (day.inYear (-day.year)) clock := by
    intro e hday he
    have hroll : ofParts (day.inYear (-day.year)).rolledOver clock =
        ofParts (day.inYear (-day.year)) clock := ofParts_rolledOver hm h1 h31
    rw [← hroll, CalendarDay.rolledOver_neg hm, inOppositeYear, year, hday, he,
      day.rolledOver_year]
    rfl
  constructor
  · rintro ⟨e, he, hd⟩
    obtain ⟨hday, he⟩ := (ofParts_eq_ok_iff hm h1 h31 hclock).1 he
    rwa [hopposite e hday he] at hd
  · intro hd
    obtain ⟨hday, hdclock⟩ := (ofParts_opposite_eq_ok_iff hm h1 h31 hclock).1 hd
    obtain ⟨e, he, heday, heclock⟩ := d.exists_unsignedDay
    have hyear : d.year = -day.year := by
      rw [year, hday]
      rfl
    have hunsigned : d.unsignedDay = day.rolledOver := by
      have hpositive : d.unsignedDay = d.calendarDay.inYear day.year := by
        rw [unsignedDay, hyear, Int.natAbs_neg, Int.natAbs_of_nonneg hpos]
        rfl
      rw [hpositive, hday, ← day.rolledOver_year]
      rfl
    rw [hunsigned, hdclock, ofParts_rolledOver hm h1 h31] at he
    refine ⟨e, he, ?_⟩
    rw [hopposite e (heday.trans hunsigned) (heclock.trans hdclock), hd]

end

end Date

/-! ### The grammar -/

/-- So many digits, with a value between two bounds. -/
structure Numeral (len low high : Nat) where
  digits : List Char
  isDigit : ∀ c ∈ digits, c.isDigit
  length_eq : digits.length = len
  low_le : low ≤ numeralValue digits
  le_high : numeralValue digits ≤ high

/-- The number that the digits denote. -/
def Numeral.value {len low high : Nat} (n : Numeral len low high) : Nat := numeralValue n.digits

section
variable {symbol : Symbol} {len low high : Nat} (h1 : 1 < len) (hlen : symbol.Supports len)
include h1 hlen

/-- A numeral fills a run of its length if its bounds are within the range of the letter. -/
theorem Numeral.admits (n : Numeral len low high) (hmax : high ≤ maxNumber)
    (hholds : symbol.Holds n.value) : (Token.field symbol len).Admits n.digits := by
  refine (Token.admits_field hlen).2 ⟨n.isDigit, ?_, n.le_high.trans hmax, hholds⟩
  rw [Symbol.Counts, if_neg (by omega)]
  exact n.length_eq

/-- What fills a run of more than one letter is a numeral of its length. -/
theorem exists_numeral_of_admits {piece : List Char} (h : (Token.field symbol len).Admits piece)
    (hbounds : ∀ value, symbol.Holds value → value < 10 ^ len → low ≤ value ∧ value ≤ high) :
    ∃ n : Numeral len low high, n.digits = piece := by
  obtain ⟨hdigits, hcounts, -, hholds⟩ := (Token.admits_field hlen).1 h
  rw [Symbol.Counts, if_neg (by omega)] at hcounts
  have hlt := numeralValue_lt hdigits
  rw [hcounts] at hlt
  obtain ⟨hlow, hhigh⟩ := hbounds _ hholds hlt
  exact ⟨⟨piece, hdigits, hcounts, hlow, hhigh⟩, rfl⟩

end

/-- What may stand before the year. -/
inductive Sign where
  | none
  | plus
  | minus
deriving DecidableEq, Repr

namespace Sign

/-- How the sign is written. -/
def chars : Sign → List Char
  | none => []
  | plus => ['+']
  | minus => ['-']

/-- The year that follows the sign, with the sign. -/
def apply (year : Nat) : Sign → Int
  | none | plus => year
  | minus => -year

end Sign

/-- A date as the grammar of written dates has it. -/
structure WrittenDate where
  sign : Sign
  year : List Char
  year_ne_nil : year ≠ []
  isDigit_year : ∀ c ∈ year, c.isDigit
  month : Numeral 2 1 12
  day : Numeral 2 1 31
  hours : Numeral 2 0 23
  minutes : Numeral 2 0 59
  seconds : Numeral 2 0 59
  milliseconds : Numeral 3 0 999

namespace WrittenDate

/-- The text after the sign. -/
def unsignedChars (w : WrittenDate) : List Char :=
  w.year ++ '-' :: w.month.digits ++ '-' :: w.day.digits ++ 'T' :: w.hours.digits
    ++ ':' :: w.minutes.digits ++ ':' :: w.seconds.digits ++ '.' :: w.milliseconds.digits

/-- The text. -/
def chars (w : WrittenDate) : List Char := w.sign.chars ++ w.unsignedChars

/-- The fields that the text denotes. -/
def fields (w : WrittenDate) : Fields where
  year := w.sign.apply (numeralValue w.year)
  month := w.month.value - 1
  day := w.day.value
  hours := w.hours.value
  minutes := w.minutes.value
  seconds := w.seconds.value
  milliseconds := w.milliseconds.value

/-! ### The text without its sign -/

/-- The day and month of the text, in the year without the sign. -/
def unsignedDay (w : WrittenDate) : CalendarDay :=
  ⟨numeralValue w.year, w.month.value - 1, w.day.value⟩

/-- The time of day of the text. -/
def clock (w : WrittenDate) : Clock :=
  ⟨w.hours.value, w.minutes.value, w.seconds.value, w.milliseconds.value⟩

/-- The text without its sign, a piece for each token of the pattern. -/
def pieces (w : WrittenDate) : List (List Char) :=
  [w.year, ['-'], w.month.digits, ['-'], w.day.digits, ['T'], w.hours.digits, [':'],
    w.minutes.digits, [':'], w.seconds.digits, ['.'], w.milliseconds.digits]

variable (w : WrittenDate)

theorem flatten_pieces : w.pieces.flatten = w.unsignedChars := by
  simp [pieces, unsignedChars]

theorem fields_eq :
    w.fields = .ofParts (w.unsignedDay.inYear (w.sign.apply (numeralValue w.year))) w.clock := by
  have hmonth : ((w.month.value - 1 : Nat) : Int) = w.month.value - 1 :=
    Nat.cast_pred w.month.low_le
  simp only [Fields.ofParts, unsignedDay, CalendarDay.inYear, hmonth]
  rfl

theorem month_lt : w.unsignedDay.month < 12 := by
  have h1 : 1 ≤ w.month.value := w.month.low_le
  have h12 : w.month.value ≤ 12 := w.month.le_high
  change w.month.value - 1 < 12
  omega

theorem isValid_clock : w.clock.IsValid :=
  ⟨Nat.lt_succ_of_le w.hours.le_high, Nat.lt_succ_of_le w.minutes.le_high,
    Nat.lt_succ_of_le w.seconds.le_high, Nat.lt_succ_of_le w.milliseconds.le_high⟩

theorem fieldsOf_pieces :
    fieldsOf .epoch (readings (.field .year 1 :: tokensAfterYear) w.pieces) =
      .ofParts w.unsignedDay w.clock := by
  have hunit : w.milliseconds.value * fractionUnit 3 = w.milliseconds.value := Nat.mul_one _
  have hlast : fieldsOf .epoch (readings (.field .year 1 :: tokensAfterYear) w.pieces) =
      { year := numeralValue w.year
        month := (w.month.value - 1 : Nat)
        day := w.day.value
        hours := w.hours.value
        minutes := w.minutes.value
        seconds := w.seconds.value
        milliseconds := (w.milliseconds.value * fractionUnit 3 : Nat) } := rfl
  rw [hlast, hunit]
  rfl

theorem le_maxNumber {d : Date} (h : Date.ofParts w.unsignedDay w.clock = .ok d) :
    numeralValue w.year ≤ maxNumber := by
  rw [Date.ofParts, Date.ofFields] at h
  split at h
  · rename_i hyear
    rw [Fields.carriedYear_ofParts w.month_lt, maxYear] at hyear
    change (numeralValue w.year : Int).natAbs ≤ 300000 at hyear
    rw [maxNumber]
    omega
  · contradiction

/-! ### Reading the text without its sign -/

theorem admits_pieces (hmax : numeralValue w.year ≤ maxNumber) :
    List.Forall₂ Token.Admits (.field .year 1 :: tokensAfterYear) w.pieces := by
  have hyear : (Token.field .year 1).Admits w.year :=
    (Token.admits_field (by decide)).2
      ⟨w.isDigit_year, List.length_pos_iff.2 w.year_ne_nil, hmax, trivial⟩
  have hmonth : (Token.field .month 2).Admits w.month.digits :=
    w.month.admits (by decide) (by decide) (by decide) ⟨w.month.low_le, w.month.le_high⟩
  have hday : (Token.field .day 2).Admits w.day.digits :=
    w.day.admits (by decide) (by decide) (by decide) ⟨w.day.low_le, w.day.le_high⟩
  have hhours : (Token.field .hour23 2).Admits w.hours.digits :=
    w.hours.admits (by decide) (by decide) (by decide) w.hours.le_high
  have hminutes : (Token.field .minute 2).Admits w.minutes.digits :=
    w.minutes.admits (by decide) (by decide) (by decide) w.minutes.le_high
  have hseconds : (Token.field .second 2).Admits w.seconds.digits :=
    w.seconds.admits (by decide) (by decide) (by decide) w.seconds.le_high
  have hmilliseconds : (Token.field .fractionalSecond 3).Admits w.milliseconds.digits :=
    w.milliseconds.admits (by decide) (by decide) (by decide) trivial
  exact .cons hyear <| .cons rfl <| .cons hmonth <| .cons rfl <| .cons hday <| .cons rfl <|
    .cons hhours <| .cons rfl <| .cons hminutes <| .cons rfl <| .cons hseconds <| .cons rfl <|
      .cons hmilliseconds .nil

theorem exists_of_admits (sign : Sign) {pieces : List (List Char)}
    (h : List.Forall₂ Token.Admits (.field .year 1 :: tokensAfterYear) pieces) :
    ∃ w : WrittenDate, w.sign = sign ∧ w.pieces = pieces := by
  obtain _ | ⟨hyear, _ | ⟨rfl, _ | ⟨hmonth, _ | ⟨rfl, _ | ⟨hday, _ | ⟨rfl, _ | ⟨hhours,
    _ | ⟨rfl, _ | ⟨hminutes, _ | ⟨rfl, _ | ⟨hseconds, _ | ⟨rfl,
      _ | ⟨hmilliseconds, ⟨⟩⟩⟩⟩⟩⟩⟩⟩⟩⟩⟩⟩⟩⟩ := h
  have hyear := (Token.admits_field (by decide)).1 hyear
  obtain ⟨month, rfl⟩ := exists_numeral_of_admits (by decide) (by decide) hmonth fun _ h _ => h
  obtain ⟨day, rfl⟩ := exists_numeral_of_admits (by decide) (by decide) hday fun _ h _ => h
  obtain ⟨hours, rfl⟩ := exists_numeral_of_admits (by decide) (by decide) hhours
    fun _ h _ => ⟨Nat.zero_le _, h⟩
  obtain ⟨minutes, rfl⟩ := exists_numeral_of_admits (by decide) (by decide) hminutes
    fun _ h _ => ⟨Nat.zero_le _, h⟩
  obtain ⟨seconds, rfl⟩ := exists_numeral_of_admits (by decide) (by decide) hseconds
    fun _ h _ => ⟨Nat.zero_le _, h⟩
  obtain ⟨milliseconds, rfl⟩ := exists_numeral_of_admits (by decide) (by decide) hmilliseconds
    fun _ _ h => ⟨Nat.zero_le _, Nat.le_of_lt_succ h⟩
  have hne := List.length_pos_iff.1 hyear.counts
  exact ⟨⟨sign, _, hne, hyear.isDigit, month, day, hours, minutes, seconds, milliseconds⟩, rfl, rfl⟩

/-- The texts that the pattern of written dates reads are those of the grammar, without a sign. -/
theorem parse_writtenPattern_iff (sign : Sign) (text : List Char) (d : Date) :
    parse (String.ofList text) writtenPattern { reference := .date .epoch } = .ok d ↔
      ∃ w : WrittenDate, w.sign = sign ∧ w.unsignedChars = text ∧
        Date.ofParts w.unsignedDay w.clock = .ok d := by
  have hs : ∀ token ∈ Token.field .year 1 :: tokensAfterYear, token.Numeric := by decide
  have hsep : Separated (.field .year 1 :: tokensAfterYear) := by decide
  rw [parse_eq_parseTokens, tokenize_writtenPattern, String.toList_ofList,
    parseTokens_eq_ok_iff hs hsep]
  constructor
  · rintro ⟨pieces, hpieces, rfl, hdate⟩
    obtain ⟨w, hsign, rfl⟩ := exists_of_admits sign hpieces
    rw [fieldsOf_pieces] at hdate
    exact ⟨w, hsign, w.flatten_pieces.symm, hdate⟩
  · rintro ⟨w, -, rfl, hdate⟩
    refine ⟨w.pieces, w.admits_pieces (w.le_maxNumber hdate), w.flatten_pieces, ?_⟩
    rw [fieldsOf_pieces]
    exact hdate

/-! ### Ends of the text -/

theorem unsignedChars_ne_nil : w.unsignedChars ≠ [] := by
  simp [unsignedChars]

theorem head_unsignedChars : ∀ c ∈ w.unsignedChars.head?, c.isDigit := by
  have hhead : w.unsignedChars.head? = w.year.head? := by
    simp only [unsignedChars, List.append_assoc, List.head?_append_of_ne_nil _ w.year_ne_nil]
  intro c hc
  rw [hhead] at hc
  exact w.isDigit_year c (List.mem_of_mem_head? hc)

theorem getLast_unsignedChars : ∀ c ∈ w.unsignedChars.getLast?, c.isDigit := by
  have hne : w.milliseconds.digits ≠ [] := by
    apply List.ne_nil_of_length_pos
    rw [w.milliseconds.length_eq]
    decide
  have hlast : w.unsignedChars.getLast? = w.milliseconds.digits.getLast? := by
    rw [unsignedChars, List.getLast?_append_of_ne_nil _ (List.cons_ne_nil _ _)]
    exact List.getLast?_append_of_ne_nil ['.'] hne
  intro c hc
  rw [hlast] at hc
  exact w.milliseconds.isDigit c (List.mem_of_mem_getLast? hc)

theorem head_chars : ∀ c ∈ w.chars.head?, isBlank c = false := by
  intro c hc
  rw [chars] at hc
  cases hsign : w.sign with
  | none =>
      rw [hsign] at hc
      exact not_isBlank_of_isDigit (w.head_unsignedChars c hc)
  | plus | minus =>
      rw [hsign] at hc
      cases hc
      decide

theorem getLast_chars : ∀ c ∈ w.chars.getLast?, isBlank c = false := by
  intro c hc
  rw [chars, List.getLast?_append_of_ne_nil _ w.unsignedChars_ne_nil] at hc
  exact not_isBlank_of_isDigit (w.getLast_unsignedChars c hc)

theorem trim_chars {before after : List Char} (hb : ∀ c ∈ before, isBlank c)
    (ha : ∀ c ∈ after, isBlank c) : trim (before ++ w.chars ++ after) = w.chars :=
  trim_append_append hb ha (List.append_ne_nil_of_right_ne_nil _ w.unsignedChars_ne_nil)
    w.head_chars w.getLast_chars

theorem splitSign_chars : splitSign w.chars = (w.sign == .minus, w.unsignedChars) := by
  rw [chars]
  cases w.sign with
  | none => exact splitSign_of_head_isDigit w.head_unsignedChars
  | plus => rfl
  | minus => rfl

end WrittenDate

/-! ### Texts taken apart -/

/-- A text begins with a sign, or with none. -/
theorem exists_sign (text : List Char) : ∃ sign : Sign,
    text = sign.chars ++ (splitSign text).2 ∧ (splitSign text).1 = (sign == .minus) := by
  unfold splitSign
  split
  · exact ⟨.minus, rfl, rfl⟩
  · exact ⟨.plus, rfl, rfl⟩
  · exact ⟨.none, rfl, rfl⟩

/-- A text is what trimming leaves of it, between blank ends. -/
theorem exists_blank_ends (text : List Char) : ∃ before after,
    text = before ++ trim text ++ after ∧ (∀ c ∈ before, isBlank c) ∧
      ∀ c ∈ after, isBlank c := by
  have hend : trimStart text =
      trim text ++ ((trimStart text).reverse.takeWhile isBlank).reverse := by
    rw [trim, trimEnd, ← List.reverse_append, List.takeWhile_append_dropWhile,
      List.reverse_reverse]
  refine ⟨text.takeWhile isBlank, ((trimStart text).reverse.takeWhile isBlank).reverse,
    ?_, ?_, ?_⟩
  · rw [List.append_assoc, ← hend, trimStart, List.takeWhile_append_dropWhile]
  · intro c hc
    exact List.mem_takeWhile_imp hc
  · intro c hc
    exact List.mem_takeWhile_imp (List.mem_reverse.1 hc)

theorem Date.ofText_eq_ok_iff_parse {text : String} {d : Date} :
    ofText text = .ok d ↔ ∃ e,
      parse (String.ofList (splitSign (trim text.toList)).2) writtenPattern
        { reference := .date epoch } = .ok e ∧
      (if (splitSign (trim text.toList)).1 then e.inOppositeYear else .ok e) = .ok d := by
  simp only [ofText]
  split
  · rename_i e hparse
    simp [hparse]
  · rename_i hparse
    simp [hparse]

/-! ### Main statement -/

theorem WrittenDate.ofFields_eq_ok_iff {w : WrittenDate} {d : Date} :
    Date.ofFields w.fields = .ok d ↔ ∃ e, Date.ofParts w.unsignedDay w.clock = .ok e ∧
      (if w.sign == .minus then e.inOppositeYear else .ok e) = .ok d := by
  have hopposite := Date.ofParts_inOppositeYear_iff (d := d) w.month_lt w.day.low_le w.day.le_high
    w.isValid_clock (Int.natCast_nonneg _)
  rw [fields_eq]
  cases w.sign with
  | none | plus =>
      simp
      rfl
  | minus => exact hopposite.symm

/-- A text is read as a date exactly when, but for blank ends, it is one of the grammar, and the
date is the one that its fields denote.  A day past the end of its month rolls over, and to the same
day and month in a year as in the opposite one. -/
theorem ofText_eq_ok_iff :
    (∀ (text : String) (d : Date), Date.ofText text = .ok d ↔
      ∃ (before after : List Char) (w : WrittenDate),
        text.toList = before ++ w.chars ++ after ∧ (∀ c ∈ before, isBlank c) ∧
          (∀ c ∈ after, isBlank c) ∧ Date.ofFields w.fields = .ok d) ∧
    ∀ (w : WrittenDate) (d e : Date), Date.ofFields w.fields = .ok d →
      Date.ofFields { w.fields with year := -w.fields.year } = .ok e →
        e.calendarDay = ⟨-d.year, d.month, d.day⟩ ∧ e.clock = d.clock := by
  constructor
  · intro text d
    rw [Date.ofText_eq_ok_iff_parse]
    constructor
    · rintro ⟨e, hparse, hd⟩
      obtain ⟨before, after, htext, hb, ha⟩ := exists_blank_ends text.toList
      obtain ⟨sign, htrim, hsign⟩ := exists_sign (trim text.toList)
      obtain ⟨w, rfl, hchars, he⟩ := (WrittenDate.parse_writtenPattern_iff sign _ e).1 hparse
      refine ⟨before, after, w, ?_, hb, ha, ?_⟩
      · rw [WrittenDate.chars, hchars, ← htrim]
        exact htext
      · rw [hsign] at hd
        exact WrittenDate.ofFields_eq_ok_iff.2 ⟨e, he, hd⟩
    · rintro ⟨before, after, w, htext, hb, ha, hd⟩
      obtain ⟨e, he, hd⟩ := WrittenDate.ofFields_eq_ok_iff.1 hd
      refine ⟨e, ?_, ?_⟩
      · rw [htext, w.trim_chars hb ha, w.splitSign_chars]
        exact (WrittenDate.parse_writtenPattern_iff w.sign _ e).2 ⟨w, rfl, rfl, he⟩
      · rw [htext, w.trim_chars hb ha, w.splitSign_chars]
        exact hd
  · intro w d e hd he
    have hmonth : (w.unsignedDay.inYear (w.sign.apply (numeralValue w.year))).month < 12 :=
      w.month_lt
    rw [w.fields_eq] at hd he
    exact Date.calendarDay_of_opposite hmonth w.day.low_le w.day.le_high w.isValid_clock hd he

/-- The 30th of February of the leap years -4 and 4, both the 1st of March. -/
theorem ofText_eq_ok_iff_leapYears : ∃ w : WrittenDate,
    " -04-02-30T23:59:59.999\n".toList = [' '] ++ w.chars ++ ['\n'] ∧
      Date.ofFields w.fields = .ok ⟨-62288179200001, by decide⟩ ∧
      Date.ofFields { w.fields with year := -w.fields.year } =
        .ok ⟨-62035718400001, by decide⟩ ∧
      Date.ofText " -04-02-30T23:59:59.999\n" = .ok ⟨-62288179200001, by decide⟩ ∧
      (⟨-62035718400001, by decide⟩ : Date).calendarDay = ⟨4, 2, 1⟩ := by
  obtain ⟨w, htext, hminus, hplus⟩ : ∃ w : WrittenDate,
      " -04-02-30T23:59:59.999\n".toList = [' '] ++ w.chars ++ ['\n'] ∧
        Date.ofFields w.fields = .ok ⟨-62288179200001, by decide⟩ ∧
        Date.ofFields { w.fields with year := -w.fields.year } =
          .ok ⟨-62035718400001, by decide⟩ :=
    ⟨{ sign := .minus
       year := ['0', '4']
       year_ne_nil := by decide
       isDigit_year := by simp
       month := ⟨['0', '2'], by simp, rfl, by decide, by decide⟩
       day := ⟨['3', '0'], by simp, rfl, by decide, by decide⟩
       hours := ⟨['2', '3'], by simp, rfl, by decide, by decide⟩
       minutes := ⟨['5', '9'], by simp, rfl, by decide, by decide⟩
       seconds := ⟨['5', '9'], by simp, rfl, by decide, by decide⟩
       milliseconds := ⟨['9', '9', '9'], by simp, rfl, by decide, by decide⟩ },
      by decide, by decide +kernel, by decide +kernel⟩
  have hbefore : ∀ c ∈ [' '], isBlank c := List.all_eq_true.1 (by decide)
  have hafter : ∀ c ∈ ['\n'], isBlank c := List.all_eq_true.1 (by decide)
  have hday := (ofText_eq_ok_iff.2 w _ _ hminus hplus).1
  refine ⟨w, htext, hminus, hplus, ?_, ?_⟩
  · exact (ofText_eq_ok_iff.1 _ _).2 ⟨_, _, w, htext, hbefore, hafter, hminus⟩
  · rw [hday]
    decide

end DatePattern

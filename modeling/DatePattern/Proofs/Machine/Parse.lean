import DatePattern.Proofs.Machine.Date
import DatePattern.Proofs.Machine.Readers
import DatePattern.Proofs.Pattern.CursorSafety
import DatePattern.Proofs.Pattern.SupportedLengths
import DatePattern.Proofs.Pattern.TwoDigitYears

/-! # Texts are read within machine integers

Every number of a draft stays that of a calendar or a clock, but for the year, which is only known
to fit its type (`Draft.Fit`).  This is so from the reference date on, token by token
(`Token.fit_of_read`): a year is read or placed near the reference year, and an era turns a positive
one, so that the least number of the type is never reached.  So the programs of `Machine/Parse.lean`
compute what the parser does (`parse_gives`), and with the programs for dates this is
`programs_within_types`. -/

namespace DatePattern

/-! ### Drafts -/

/-- The numbers of the draft are those of a calendar and a clock; the year is any number that a text
may hold, or such a year turned. -/
structure Draft.Fit (draft : Draft) : Prop extends draft.InRange where
  year_lower : -2 ^ 63 < draft.year
  year_upper : draft.year < 2 ^ 63
  referenceYear : draft.referenceYear.natAbs ≤ 300000
  hours12 : ∀ hour ∈ draft.hours12, hour ≤ 12

theorem Draft.fit_ofReference (reference : Date) : (Draft.ofReference reference).Fit where
  toInRange := inRange_ofReference reference
  year_lower := by
    have hyear := reference.year_bounds
    change _ < reference.year
    omega
  year_upper := by
    have hyear := reference.year_bounds
    change reference.year < _
    omega
  referenceYear := by
    have hyear := reference.year_bounds
    change reference.year.natAbs ≤ _
    omega
  hours12 := nofun

section
variable {before after : Draft} {symbol : Symbol} (h : symbol.Changes before after)
include h

theorem Symbol.Changes.referenceYear_eq : after.referenceYear = before.referenceYear := by
  cases symbol with
  | year | era | dayPeriod =>
      obtain ⟨_, rfl⟩ := h
      rfl
  | month | standaloneMonth | hour23 | hour24 | minute | second | fractionalSecond =>
      obtain ⟨_, -, rfl⟩ := h
      rfl
  | day | hour12 | hour11 =>
      obtain ⟨_, -, -, rfl⟩ := h
      rfl
  | dayOfYear =>
      obtain ⟨_, -, _, -, -, rfl⟩ := h
      rfl
  | weekday | standaloneWeekday =>
      obtain rfl := h
      rfl

theorem Symbol.Changes.hours12_le (hbefore : ∀ hour ∈ before.hours12, hour ≤ 12) :
    ∀ hour ∈ after.hours12, hour ≤ 12 := by
  by_cases hsymbol : symbol ∈ Part.hours12.letters
  · rcases List.mem_pair.1 hsymbol with rfl | rfl
    all_goals
      obtain ⟨hour, -, hle, rfl⟩ := h
      rintro _ ⟨⟩
      exact hle
  · have hsame : after.hours12 = before.hours12 := h.sameIn hsymbol
    rwa [hsame]

end

section
variable {locale : Option Locale} {cursor next : Cursor} {draft entered : Draft}
  (hdraft : draft.Fit)
include hdraft

theorem Draft.Fit.year_beforeChrist :
    -2 ^ 63 < draft.beforeChrist.year ∧ draft.beforeChrist.year < 2 ^ 63 := by
  have hlower := hdraft.year_lower
  have hupper := hdraft.year_upper
  rw [beforeChrist]
  split
  · dsimp only
    omega
  · exact ⟨hlower, hupper⟩

/-- The year is a number that was read, or near the reference year, or turned once by an era; after
that an era leaves it alone. -/
theorem Symbol.year_bounds_of_read {symbol : Symbol} {len taken : Nat} {slot : Slot}
    (hslot : symbol.slot? len = some slot)
    (h : slot.read locale cursor draft = .ok (taken, entered)) :
    -2 ^ 63 < entered.year ∧ entered.year < 2 ^ 63 := by
  have hkept : -2 ^ 63 < draft.year ∧ draft.year < 2 ^ 63 :=
    ⟨hdraft.year_lower, hdraft.year_upper⟩
  by_cases hsymbol : symbol ∈ Part.year.letters
  · rcases List.mem_pair.1 hsymbol with rfl | rfl
    · cases hslot
      obtain ⟨⟨value, count⟩, hnumber, heq⟩ := bind_eq_ok.1 h
      obtain ⟨digits, -, -, -, -, hdigits, hspan, rfl, hmax⟩ := readNumber_eq_ok hnumber
      cases heq
      rw [maxNumber] at hmax
      change -2 ^ 63 < (if len = 2 then _ else _) ∧ (if len = 2 then _ else _) < (2 ^ 63 : Int)
      split
      · rename_i htwo
        subst htwo
        have hlt := numeralValue_twoDigits_lt hspan hdigits
        obtain ⟨hafter, hbefore⟩ := (nearestYear_spec hlt draft.referenceYear).1
        have hreference := hdraft.referenceYear
        omega
      · omega
    · obtain ⟨index, -, rfl⟩ := NameField.read_eq_ok hslot h
      rw [NameField.enter]
      split
      · exact hdraft.year_beforeChrist
      · exact hkept
  · have hsame : entered.year = draft.year := (changes_of_read hslot h).sameIn hsymbol
    rwa [hsame]

/-- What a token reads keeps the draft fit. -/
theorem Token.fit_of_read {token : Token}
    (h : token.read locale cursor draft = .ok (next, entered)) : entered.Fit := by
  have hchanges := read_changes h
  cases hsymbol : token.symbol? with
  | none =>
      rw [hsymbol] at hchanges
      exact hchanges ▸ hdraft
  | some symbol =>
      rw [hsymbol] at hchanges
      obtain ⟨len, slot, rfl, hslot⟩ := symbol?_eq_some_iff.1 hsymbol
      rw [read, slot?, hslot] at h
      obtain ⟨⟨count, filled⟩, hread, heq⟩ := bind_eq_ok.1 h
      cases heq
      obtain ⟨hlower, hupper⟩ := Symbol.year_bounds_of_read hdraft hslot hread
      exact
        { toInRange := hchanges.inRange hdraft.toInRange
          year_lower := hlower
          year_upper := hupper
          referenceYear := hchanges.referenceYear_eq ▸ hdraft.referenceYear
          hours12 := hchanges.hours12_le hdraft.hours12 }

end

/-- Before the end of a text there is something left. -/
theorem Cursor.OnBoundary.position_lt_iff {text : List Char} {cursor : Cursor}
    (h : cursor.OnBoundary text) : cursor.position < byteLength text ↔ cursor.rest ≠ [] := by
  obtain ⟨front, rest, rfl, rfl⟩ := h
  rw [byteLength_append]
  change byteLength front < _ ↔ rest ≠ []
  constructor
  · rintro hlt rfl
    rw [byteLength_nil] at hlt
    omega
  · intro hne
    have hpos := byteLength_pos hne
    omega

/-! ### Slots -/

/-- What entering a number comes to, where the day of a year is looked up in the year. -/
def NumberField.entered (field : NumberField) (draft : Draft) (value : Nat) :
    Except ParseError Draft :=
  match field.enter? draft value with
  | some entered => .ok entered
  | none => .error (.outOfRange field.field value (field.bounds draft).1 (field.bounds draft).2)

namespace Machine

open Program

theorem nearestYear_eq {value : Nat} {reference : Int} (hvalue : value < 100)
    (hreference : reference.natAbs ≤ 300000) :
    nearestYear value reference = some (DatePattern.nearestYear value reference) := by
  rw [nearestYear, DatePattern.nearestYear, i64.divEuclid_eq (by decide) (i64_holds.2 (by omega))]
  simp (disch := (rw [i64_holds]; omega)) only [Signed.add, Signed.sub, Signed.mul, Signed.fit_eq,
    some_bind]
  simp only [gt_iff_lt]
  split
  · rfl
  · split <;> rfl

theorem enterNumber_gives {field : NumberField} {draft : Draft} {value : Nat}
    (hmin : (field.bounds draft).1 ≤ value) (hmax : value ≤ (field.bounds draft).2) :
    (enterNumber draft value field).Gives (field.entered draft value) := by
  have hlength := yearLength_spec draft.year
  have hcast : ∀ {n : Nat}, n ≤ 255 → u8.cast n = some n := fun h =>
    u8.cast_natCast (lt_two_pow_u8_bits.2 h)
  cases field with
  | month =>
      simp only [NumberField.bounds] at hmin hmax
      exact .bind_lift (hcast (by omega))
        (.bind_lift (u8.sub_eq hmin (lt_two_pow_u8_bits.2 (by omega))) (gives_pure _))
  | dayOfYear =>
      simp only [NumberField.bounds] at hmin hmax
      refine .bind_lift (u16.cast_natCast (lt_two_pow_u16_bits.2 (by omega))) ?_
      rw [Int.toNat_natCast, NumberField.entered, NumberField.enter?]
      refine .bind_lift (monthDayOfOrdinal_eq draft.year (by omega)) ?_
      cases DatePattern.monthDayOfOrdinal draft.year value with
      | none => exact .bind_error (gives_okOr_none rfl)
      | some found => exact .bind_ok (gives_okOr rfl) (gives_pure _)
  | hour11 =>
      simp only [NumberField.bounds] at hmax
      rw [enterNumber, NumberField.entered, NumberField.enter?]
      split
      · rename_i hzero
        rw [if_pos (Int.natCast_eq_zero.1 hzero)]
        exact .bind_ok (gives_pure _) (gives_pure _)
      · rename_i hpos
        rw [if_neg fun h => hpos (Int.natCast_eq_zero.2 h)]
        exact .bind_lift (hcast (by omega)) (gives_pure _)
  | hour24 =>
      simp only [NumberField.bounds] at hmax
      have hlt : value % 24 < 24 := Nat.mod_lt _ (by decide)
      refine .bind_lift (i64.rem_eq (by decide) (by omega) (i64_holds.2 (by omega))) ?_
      exact .bind_lift (hcast (hlt.le.trans (by decide))) (gives_pure _)
  | day | hour12 | hour23 | minute | second =>
      simp only [NumberField.bounds] at hmax
      exact .bind_lift (hcast (by omega)) (gives_pure _)

theorem enterName_eq {field : NameField} {draft : Draft} {index : Nat}
    (hindex : index < field.count) (hyear : draft.year < 2 ^ 63) :
    enterName draft index field = some (field.enter draft index) := by
  cases field with
  | era =>
      rw [enterName, NameField.enter, Draft.beforeChrist]
      by_cases hbc : index = Era.bc.index
      · rw [if_pos hbc]
        split
        · rename_i hera
          rw [if_pos hera.2, Signed.sub, i64.fit_eq (i64_holds.2 (by omega)), some_bind]
          rfl
        · rename_i hera
          rw [if_neg fun h => hera ⟨hbc, h⟩]
      · rw [if_neg hbc, if_neg fun h => hbc h.1]
  | month =>
      have hindex : index < 12 := hindex
      rw [enterName, u8.cast_natCast (lt_two_pow_u8_bits.2 (by omega)), some_bind]
      rfl
  | weekday | dayPeriod => rfl

theorem readSlot_gives {usize : Unsigned} {cursor : Cursor} {draft : Draft} {slot : Slot}
    (hfits : cursor.position + byteLength cursor.rest < 2 ^ usize.bits) (hdraft : draft.Fit)
    (hslot : slot.Supported) (locale : Option Locale) :
    (readSlot usize locale cursor.rest cursor.position draft slot).Gives
      ((slot.read locale cursor draft).map fun (taken, entered) =>
        ((cursor.advance taken).position, entered)) := by
  cases slot with
  | year len =>
      refine (readDigits_gives hfits _ _).bind_map ?_
      rintro ⟨value, taken⟩ hread
      dsimp only
      split
      · rename_i htwo
        subst htwo
        have hlt := readNumber_two_lt hread
        exact .bind_lift (nearestYear_eq hlt hdraft.referenceYear) (gives_pure _)
      · exact .bind_ok (gives_pure _) (gives_pure _)
  | number field len =>
      rw [Slot.read_number_eq]
      refine (readBounded_gives hfits field.field len _ _).bind_map ?_
      rintro ⟨value, taken⟩ hread
      obtain ⟨hmin, hmax⟩ := readBounded_eq_ok hread
      refine ((enterNumber_gives hmin hmax).map fun entered =>
        ((cursor.advance taken).position, entered)).trans ?_
      rw [NumberField.entered]
      cases field.enter? draft value <;> rfl
  | fraction len =>
      refine (readDigits_gives hfits _ _).bind_map ?_
      rintro ⟨value, taken⟩ hread
      have hlt := fraction_lt hslot.1 hslot.2 hread
      refine .bind_lift (i64.fit_eq (i64_holds.2 (by omega))) ?_
      refine .bind_lift (u16.cast_eq (by omega) (lt_two_pow_u16_bits.2 (by omega))) ?_
      exact gives_pure _
  | name field width =>
      refine (readName_gives hfits locale field).bind_map ?_
      rintro ⟨index, taken⟩ hread
      exact .bind_lift (enterName_eq (readName_lt_count hread) hdraft.year_upper) (gives_pure _)

/-! ### Tokens -/

section
variable {usize : Unsigned} {text : List Char} (hfits : byteLength text < 2 ^ usize.bits)
  {cursor : Cursor} (hcursor : cursor.OnBoundary text)
include hfits hcursor

theorem readLiteral_gives (expected : List Char) :
    (readLiteral usize text expected cursor.position).Gives
      ((DatePattern.readLiteral expected cursor).map fun taken =>
        (cursor.advance taken).position) := by
  obtain ⟨front, rest, rfl, rfl⟩ := hcursor
  rw [readLiteral, DatePattern.readLiteral, dropBytes?_append]
  dsimp only
  split
  · rename_i hprefix
    obtain ⟨tail, rfl⟩ := List.isPrefixOf_iff_prefix.1 hprefix
    rw [byteLength_append, byteLength_append] at hfits
    simp only [Except.map, Cursor.advance_append]
    exact gives_lift (usize.add_eq (by omega))
  · exact gives_throw _

theorem readToken_gives {draft : Draft} (hdraft : draft.Fit) (locale : Option Locale)
    (token : Token) :
    (readToken usize locale text token cursor.position draft).Gives
      ((token.read locale cursor draft).map fun (next, entered) => (next.position, entered)) := by
  rw [readToken, Token.read]
  cases hslot : token.slot? with
  | none =>
      refine (readLiteral_gives hfits hcursor _).bind_map ?_
      exact fun taken _ => gives_pure _
  | some slot =>
      have hrest : (Cursor.seek text cursor.position).rest = cursor.rest := by
        rw [← hcursor.eq_seek]
      have hleft : cursor.position + byteLength cursor.rest < 2 ^ usize.bits := by
        obtain ⟨front, rest, rfl, rfl⟩ := hcursor
        rwa [byteLength_append] at hfits
      have hread := readSlot_gives hleft hdraft (Token.supported_of_slot? hslot) locale
      dsimp only
      rw [hrest]
      refine hread.trans ?_
      cases slot.read locale cursor draft <;> rfl

end

/-- By induction on the tokens: between two of them the cursor stands on a boundary of the text, and
the draft is fit. -/
theorem readTokens_gives {usize : Unsigned} {text : List Char}
    (hfits : byteLength text < 2 ^ usize.bits) (locale : Option Locale) :
    ∀ (tokens : List Token) {cursor : Cursor} {draft : Draft}, cursor.OnBoundary text → draft.Fit →
      (readTokens usize locale text tokens cursor.position draft).Gives
        ((DatePattern.readTokens locale tokens cursor draft).map fun (last, final) =>
          (last.position, final))
  | [], cursor, draft, _, _ => gives_pure _
  | token :: tokens, cursor, draft, hcursor, hdraft => by
      refine (readToken_gives hfits hcursor hdraft locale token).bind_map ?_
      rintro ⟨next, entered⟩ hread
      obtain ⟨piece, htakes, -⟩ := Token.read_takes hread
      exact readTokens_gives hfits locale tokens (htakes.onBoundary hcursor)
        (Token.fit_of_read hdraft hread)

theorem fit_of_readTokens {locale : Option Locale} : ∀ {tokens : List Token}
    {cursor last : Cursor} {draft final : Draft}, draft.Fit →
      DatePattern.readTokens locale tokens cursor draft = .ok (last, final) → final.Fit
  | [], _, _, _, _, hdraft, h => by
      cases h
      exact hdraft
  | _ :: _, _, _, _, _, hdraft, h => by
      obtain ⟨⟨next, entered⟩, hread, hrun⟩ := bind_eq_ok.1 h
      exact fit_of_readTokens (Token.fit_of_read hdraft hread) hrun

/-! ### Whole texts -/

section
variable {draft : Draft} (hdraft : draft.Fit)
include hdraft

theorem finalHours_eq : finalHours draft = some draft.finalHours := by
  rw [finalHours, Draft.finalHours]
  cases hhours : draft.hours12 with
  | none => rfl
  | some hour =>
      have hle : hour ≤ 12 := hdraft.hours12 hour hhours
      have hlt : hour % 12 < 12 := Nat.mod_lt _ (by decide)
      dsimp only
      rw [u8.rem_eq (by decide) (lt_two_pow_u8_bits.2 (by omega)), some_bind]
      split
      · rw [u8.add_eq (lt_two_pow_u8_bits.2 (by omega))]
      · rfl

theorem finish_gives : (finish draft).Gives draft.finish := by
  have hmonth : draft.finalCalendarDay.month < 12 := Draft.finalMonth_lt hdraft.toInRange
  have hdate := ofParts_gives hmonth (Draft.finalDay_bounds hdraft.toInRange).2
    (Draft.isValid_finalClock hdraft.toInRange) hdraft.year_lower hdraft.year_upper
  exact .bind_lift (finalHours_eq hdraft) (hdate.adapt _)

end

theorem parse_gives {usize : Unsigned} {text : String}
    (hfits : byteLength text.toList < 2 ^ usize.bits) (pattern : String) (options : ParseOptions) :
    (parse usize text pattern options).Gives (DatePattern.parse text pattern options) := by
  refine (gives_liftExcept _).bind fun reference _ => .bind_lift (civil_eq reference) ?_
  have hstart := Cursor.onBoundary_start text.toList
  have hrun := readTokens_gives hfits options.locale (tokenize pattern.toList) hstart
    (Draft.fit_ofReference reference)
  rw [parseTokens]
  cases hread : DatePattern.readTokens options.locale (tokenize pattern.toList)
      (.start text.toList) (.ofReference reference) with
  | error cause =>
      rw [hread] at hrun
      exact hrun.bind_error
  | ok found =>
      obtain ⟨last, final⟩ := found
      rw [hread] at hrun
      obtain ⟨pieces, -, htakes⟩ := readTokens_consumes rfl hread
      have hlast := htakes.onBoundary hstart
      refine hrun.bind_ok ?_
      change Gives _ (if last.rest = [] then final.finish else _)
      dsimp only
      split
      · rename_i hlt
        rw [if_neg (hlast.position_lt_iff.1 hlt), ← hlast.eq_seek]
        exact .bind_error (gives_throw _)
      · rename_i hend
        rw [if_pos (not_not.1 fun h => hend (hlast.position_lt_iff.2 h))]
        exact finish_gives (fit_of_readTokens (Draft.fit_ofReference reference) hread)

/-! ### Main statement -/

/-- No operation leaves its type and no cast changes a number, but for the absolute value of the
carried year -2^63; and no month is looked up that does not exist.  So every program gives what it
is to compute: the fields of a date and its start of a unit, a date moved by any offset or compared
with another, the days of any year by their ordinals, and what a text shows under a pattern, where
the type that counts memory has room for the bytes of the text. -/
theorem programs_within_types :
    (∀ f : Fields, f.Fit →
      (ofFields f).run = if f.carriedYear = -2 ^ 63 then none else some (Date.ofFields f)) ∧
    (∀ d : Date, civil d = some (d.calendarDay, d.clock) ∧ weekday d = some d.weekday ∧
      ordinalDay d = some d.dayOfYear ∧ (∀ e, diffDays d e = some (d.diffDays e)) ∧
      (∀ unit, (truncate d unit).run = some (d.truncate unit)) ∧
      ∀ n : Int, i64.Holds n → (addDays d n).run = some (d.addDays n) ∧
        (addMonths d n).run = some (d.addMonths n) ∧
        (addYears d n).run = some (d.addYears n)) ∧
    (∀ (year : Int) (ordinal : Nat), i64.Holds year → ordinal < 2 ^ 16 →
      monthDayOfOrdinal year ordinal = some (DatePattern.monthDayOfOrdinal year ordinal)) ∧
    ∀ (usize : Unsigned) (text pattern : String) (options : ParseOptions),
      byteLength text.toList < 2 ^ usize.bits →
        (parse usize text pattern options).run =
          some (DatePattern.parse text pattern options) := by
  refine ⟨?_, fun d => ?_, ?_, ?_⟩
  · intro f hf
    split
    · exact ofFields_eq_none hf ‹_›
    · exact ofFields_gives hf ‹_›
  · exact ⟨civil_eq d, weekday_eq d, ordinalDay_eq d, diffDays_eq d, truncate_gives d,
      fun n _ => ⟨addDays_gives d n, addMonths_gives d n, addYears_gives d n⟩⟩
  · exact fun year ordinal _ hordinal => monthDayOfOrdinal_eq year (Nat.le_of_lt_succ hordinal)
  · exact fun usize text pattern options hfits => parse_gives hfits pattern options

/-- The largest fields, offsets and ordinals, and the largest year that a text may hold, turned by
its era; and the one year that goes wrong. -/
theorem programs_within_types_extremes :
    (ofFields ⟨0, 0, 2 ^ 63 - 1, 2 ^ 63 - 1, 2 ^ 63 - 1, 2 ^ 63 - 1, 2 ^ 63 - 1⟩).run =
        some (.error .outOfRange) ∧
      (ofFields ⟨-2 ^ 63 + 1, -12, 1, 0, 0, 0, 0⟩).run = none ∧
      (addYears .epoch (2 ^ 63 - 1)).run = some (.error .outOfRange) ∧
      monthDayOfOrdinal (2 ^ 63 - 1) 65535 = some none ∧
      (parse ⟨64⟩ "9223372036854775807 BC" "y G" { reference := .date .epoch }).run =
        some (.error .unrepresentable) := by
  obtain ⟨hfields, hdates, hordinals, htexts⟩ := programs_within_types
  refine ⟨?_, ?_, ?_, ?_, ?_⟩
  · rw [hfields _ ⟨by decide, by decide, by decide, by decide, by decide, by decide, by decide⟩]
    decide +kernel
  · rw [hfields _ ⟨by decide, by decide, by decide, by decide, by decide, by decide, by decide⟩]
    decide +kernel
  · rw [((hdates .epoch).2.2.2.2.2 _ (by decide)).2.2]
    decide +kernel
  · rw [hordinals _ _ (by decide) (by decide)]
    decide +kernel
  · rw [htexts _ _ _ _ (by decide)]
    decide +kernel

end Machine

end DatePattern

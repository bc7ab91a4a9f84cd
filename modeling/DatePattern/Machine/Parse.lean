import DatePattern.Locale.Candidates
import DatePattern.Machine.Date
import DatePattern.Pattern.Options

/-! # Reading a date in machine integers

Positions are bytes into a text, in the unsigned type that counts memory.  Numbers are read as
64-bit integers and cast to the types of their fields, which are narrower but for the year. -/

namespace DatePattern.Machine

/-! ### Numbers -/

/-- Appends a digit to a number, or gives the error if that is no 64-bit integer. -/
def appendDigit (error : ParseError) (value : Int) (c : Char) : Program ParseError Int := do
  let tens ← okOr (i64.mul value 10) error
  let digit ← u8.sub c.toNat '0'.toNat
  okOr (i64.add tens digit) error

/-- The number that digits denote, or the error if it is no 64-bit integer. -/
def digitsValue (error : ParseError) (digits : List Char) : Program ParseError Int :=
  digits.foldlM (appendDigit error) 0

section
variable (usize : Unsigned) (locale : Option Locale) (rest : List Char) (position : Nat)

/-- The number that the rest of a text begins with, and the position after it. -/
def readDigits (field : Field) (span : DigitSpan) : Program ParseError (Int × Nat) :=
  if rest = [] then throw (.inputExhausted field position)
  else
    let run := digitRun rest
    match span.mismatch? run.length with
    | some expected => throw (.digitCount field expected run.length position)
    | none => do
      let digits := run.take (span.taken run.length)
      if digits = [] then throw (.missingDigits field position)
      let value ← digitsValue (.numberTooLarge field position) digits
      return (value, ← usize.add position digits.length)

/-- A number between two bounds. -/
def readBounded (field : Field) (span : DigitSpan) (min max : Nat) :
    Program ParseError (Int × Nat) := do
  let (value, next) ← readDigits usize rest position field span
  if value < min ∨ max < value then throw (.outOfRange field value.toNat min max)
  return (value, next)

/-! ### Names -/

/-- Bytes of the front of a text that spells the name, on top of those already counted. -/
def prefixLength : (name text : List Char) → Nat → Option (Option Nat)
  | [], _, consumed => some (some consumed)
  | _ :: _, [], _ => some none
  | n :: name, c :: text, consumed =>
    if sameLetter c n then do prefixLength name text (← usize.add consumed c.utf8Size)
    else some none

/-- The first of the names with which a text begins: its index, and how many bytes it takes. -/
def firstName : List Name → Option (Option (Nat × Nat))
  | [] => some none
  | name :: later => do
    match ← prefixLength usize name.text rest 0 with
    | some consumed => return some (name.index, consumed)
    | none => firstName later

/-- The index of the name that the rest of a text begins with, and the position after it. -/
def readName (field : NameField) : Program ParseError (Nat × Nat) :=
  match rest with
  | [] => throw (.inputExhausted field.field position)
  | first :: _ => do
    match ← firstName usize rest (field.candidates locale) with
    | some (index, consumed) => return (index, ← usize.add position consumed)
    | none =>
      let index ← okOr (matchInitial rest field.initials) (.unmatchedText field.field position)
      return (index, ← usize.add position first.utf8Size)

end

/-! ### Slots -/

/-- The year that ends in two digits, near the reference year. -/
def nearestYear (twoDigits reference : Int) : Option Int := do
  let candidate ← i64.add (← i64.mul (← i64.divEuclid reference 100) 100) twoDigits
  if (← i64.add reference 50) < candidate then i64.sub candidate 100
  else if candidate ≤ (← i64.sub reference 50) then i64.add candidate 100
  else return candidate

/-- Enters a number within the bounds of its field. -/
def enterNumber (draft : Draft) (value : Int) : NumberField → Program ParseError Draft
  | .month => do return draft.supplyMonth (← u8.sub (← u8.cast value) 1)
  | .day => do return draft.supplyDay (← u8.cast value)
  | .dayOfYear => do
    let found ← monthDayOfOrdinal draft.year (← u16.cast value)
    let (month, day) ←
      okOr found (.outOfRange .dayOfYear value.toNat 1 (yearLength draft.year))
    return (draft.supplyMonth month).supplyDay day
  | .hour12 => do return { draft with hours12 := some (← u8.cast value) }
  | .hour23 => do return { draft with hours := ← u8.cast value }
  | .hour11 => do
    let hour ← if value = 0 then pure 12 else u8.cast value
    return { draft with hours12 := some hour }
  | .hour24 => do return { draft with hours := ← u8.cast (← i64.rem value 24) }
  | .minute => do return { draft with minutes := ← u8.cast value }
  | .second => do return { draft with seconds := ← u8.cast value }

/-- Enters a name.  The years before Christ are turned, however large. -/
def enterName (draft : Draft) (index : Nat) : NameField → Option Draft
  | .era =>
    if index = Era.bc.index ∧ 1 ≤ draft.year then do
      return { draft with year := ← i64.sub 1 draft.year }
    else some draft
  | .month => do return draft.supplyMonth (← u8.cast index)
  | .weekday => some draft
  | .dayPeriod => some { draft with isPm := some (index == DayPeriod.pm.index) }

section
variable (usize : Unsigned) (locale : Option Locale) (text : List Char)

/-- Reads a slot and enters it in the draft; also the position after it. -/
def readSlot (rest : List Char) (position : Nat) (draft : Draft) :
    Slot → Program ParseError (Nat × Draft)
  | .year length => do
    let (value, next) ← readDigits usize rest position .year (.ofLength length)
    let year ← if length = 2 then nearestYear value draft.referenceYear else pure value
    return (next, draft.supplyYear year)
  | .number field length => do
    let (min, max) := field.bounds draft
    let (value, next) ←
      readBounded usize rest position field.field (.ofLength length) min max
    return (next, ← enterNumber draft value field)
  | .fraction length => do
    let (value, next) ← readDigits usize rest position .millisecond (fractionSpan length)
    let milliseconds ← u16.cast (← i64.mul value (fractionUnit length))
    return (next, { draft with milliseconds })
  | .name field _ => do
    let (index, next) ← readName usize locale rest position field
    return (next, ← enterName draft index field)

/-! ### Texts -/

/-- Reads a text as it stands. -/
def readLiteral (expected : List Char) (position : Nat) : Program ParseError Nat :=
  match dropBytes? text position with
  | some rest =>
    if expected.isPrefixOf rest then usize.add position (byteLength expected)
    else throw (.literalMismatch (String.ofList expected) position)
  | none => throw (.literalMismatch (String.ofList expected) position)

/-- Reads a token from a position on; the position after it and the draft with what was read. -/
def readToken (token : Token) (position : Nat) (draft : Draft) :
    Program ParseError (Nat × Draft) :=
  match token.slot? with
  | some slot => readSlot usize locale (Cursor.seek text position).rest position draft slot
  | none => do return (← readLiteral usize text token.literalText position, draft)

/-- Reads tokens one after the other. -/
def readTokens : List Token → Nat → Draft → Program ParseError (Nat × Draft)
  | [], position, draft => pure (position, draft)
  | token :: tokens, position, draft => do
    let (next, entered) ← readToken usize locale text token position draft
    readTokens tokens next entered

end

/-- The hour that the draft comes to. -/
def finalHours (draft : Draft) : Option Nat :=
  match draft.hours12 with
  | some hour => do
    let halfDay ← u8.rem hour 12
    if draft.isPm = some true then u8.add halfDay 12 else return halfDay
  | none => some draft.hours

/-- The date that the draft comes to. -/
def finish (draft : Draft) : Program ParseError Date := do
  let hours ← finalHours draft
  (ofFields { draft.fields with hours }).adapt fun _ => .unrepresentable

/-- The date that the text shows under the pattern. -/
def parse (usize : Unsigned) (text pattern : String) (options : ParseOptions) :
    Program ParseError Date := do
  let reference ← options.reference.toDate.mapError fun _ => ParseError.unrepresentable
  let (day, _) ← civil reference
  let draft : Draft :=
    { year := day.year, month := day.month, day := day.day
      initialDay := day.day, referenceYear := day.year }
  let (position, draft) ←
    readTokens usize options.locale text.toList (tokenize pattern.toList) 0 draft
  if position < byteLength text.toList then
    let rest := (Cursor.seek text.toList position).rest
    throw (.trailingInput position (String.ofList rest))
  finish draft

end DatePattern.Machine

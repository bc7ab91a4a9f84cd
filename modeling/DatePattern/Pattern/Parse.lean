import DatePattern.Locale.NamePool
import DatePattern.Pattern.Draft
import DatePattern.Pattern.Slot
import DatePattern.Text.Cursor

/-! # Reading a date with a pattern

* `readNumber`, `readName`: a numeral or a name at a cursor.
* `Slot.read`: what a slot reads, entered in a draft; `Token.read`: the same for a token.
* `parseTokens`: a whole text against the tokens of a pattern.

A reader gives the number of characters it takes; nothing is taken where reading fails. -/

namespace DatePattern

/-! ### Numbers -/

/-- How many digits a field takes from a run of digits. -/
inductive DigitSpan where
  /-- So many, and the run must not be longer. -/
  | exactly (n : Nat)
  /-- All of the run, up to so many. -/
  | atMost (n : Nat)
  /-- All of the run. -/
  | any
deriving DecidableEq, Repr

namespace DigitSpan

/-- A single letter takes any number of digits, a run of letters exactly as many. -/
def ofLength (len : Nat) : DigitSpan := if len = 1 then any else exactly len

/-- Digits taken from a run of the given length. -/
def taken (run : Nat) : DigitSpan → Nat
  | exactly n => n
  | atMost n => min run n
  | any => run

/-- The length that a run must have and does not have. -/
def mismatch? (run : Nat) : DigitSpan → Option Nat
  | exactly n => if run = n then none else some n
  | _ => none

end DigitSpan

/-- Largest number that a text may hold, the largest signed one of 64 bits. -/
def maxNumber : Nat := 9223372036854775807

/-- The number at the cursor, and how many digits it takes. -/
def readNumber (field : Field) (span : DigitSpan) (cursor : Cursor) :
    Except ParseError (Nat × Nat) :=
  if cursor.rest = [] then .error (.inputExhausted field cursor.position)
  else
    let run := digitRun cursor.rest
    match span.mismatch? run.length with
    | some expected => .error (.digitCount field expected run.length cursor.position)
    | none =>
      let digits := run.take (span.taken run.length)
      if digits = [] then .error (.missingDigits field cursor.position)
      else if maxNumber < numeralValue digits then .error (.numberTooLarge field cursor.position)
      else .ok (numeralValue digits, digits.length)

/-! ### Names -/

/-- The index of the name at the cursor, and how many characters it takes. -/
def readName (locale : Option Locale) (field : NameField) (cursor : Cursor) :
    Except ParseError (Nat × Nat) :=
  if cursor.rest = [] then .error (.inputExhausted field.field cursor.position)
  else
    match field.recognize locale cursor.rest with
    | some found => .ok found
    | none => .error (.unmatchedText field.field cursor.position)

/-! ### Slots -/

/-- Range of the numbers that a field admits; the days of a year depend on the year read so far. -/
def NumberField.bounds (draft : Draft) : NumberField → Nat × Nat
  | month => (1, 12)
  | day => (1, 31)
  | dayOfYear => (1, yearLength draft.year)
  | hour12 => (1, 12)
  | hour23 => (0, 23)
  | hour11 => (0, 11)
  | hour24 => (1, 24)
  | minute => (0, 59)
  | second => (0, 59)

/-- Enters a number in a draft; none for an ordinal day that the year does not have. -/
def NumberField.enter? (draft : Draft) (value : Nat) : NumberField → Option Draft
  | month => some (draft.supplyMonth (value - 1))
  | day => some (draft.supplyDay value)
  | dayOfYear =>
    (monthDayOfOrdinal draft.year value).map fun found =>
      (draft.supplyMonth found.1).supplyDay found.2
  | hour12 => some { draft with hours12 := some value }
  | hour23 => some { draft with hours := value }
  | hour11 => some { draft with hours12 := some (if value = 0 then 12 else value) }
  | hour24 => some { draft with hours := value % 24 }
  | minute => some { draft with minutes := value }
  | second => some { draft with seconds := value }

/-- Enters a name in a draft.  A weekday is recognized but decides nothing. -/
def NameField.enter (draft : Draft) (index : Nat) : NameField → Draft
  | era => if index = Era.bc.index then draft.beforeChrist else draft
  | month => draft.supplyMonth index
  | weekday => draft
  | dayPeriod => { draft with isPm := some (index == DayPeriod.pm.index) }

/-- The year that ends in two digits and lies less than 50 years before the reference year, or at
most 50 years after it. -/
def nearestYear (twoDigits : Nat) (reference : Int) : Int :=
  let candidate := reference / 100 * 100 + twoDigits
  if candidate > reference + 50 then candidate - 100
  else if candidate ≤ reference - 50 then candidate + 100
  else candidate

/-- A single letter of a fraction takes one digit, more letters exactly as many digits. -/
def fractionSpan (len : Nat) : DigitSpan := if len = 1 then .atMost 1 else .exactly len

/-- Reads a slot and enters it in the draft; also how many characters it takes. -/
def Slot.read (locale : Option Locale) (cursor : Cursor) (draft : Draft) :
    Slot → Except ParseError (Nat × Draft)
  | year len => do
    let (value, taken) ← readNumber .year (.ofLength len) cursor
    .ok (taken, draft.supplyYear
      (if len = 2 then nearestYear value draft.referenceYear else value))
  | number field len => do
    let (value, taken) ← readNumber field.field (.ofLength len) cursor
    let (min, max) := field.bounds draft
    if value < min ∨ max < value then .error (.outOfRange field.field value min max)
    else
      match field.enter? draft value with
      | some entered => .ok (taken, entered)
      | none => .error (.outOfRange field.field value min max)
  | fraction len => do
    let (value, taken) ← readNumber .millisecond (fractionSpan len) cursor
    .ok (taken, { draft with milliseconds := value * fractionUnit len })
  | name field _ => do
    let (index, taken) ← readName locale field cursor
    .ok (taken, field.enter draft index)

/-! ### Tokens -/

/-- Reads a text as it stands; the number of its characters. -/
def readLiteral (expected : List Char) (cursor : Cursor) : Except ParseError Nat :=
  match cursor.rest? with
  | some rest =>
    if expected.isPrefixOf rest then .ok expected.length
    else .error (.literalMismatch (String.ofList expected) cursor.position)
  | none => .error (.literalMismatch (String.ofList expected) cursor.position)

/-- Reads a token; the place after it and the draft with what was read. -/
def Token.read (locale : Option Locale) (token : Token) (cursor : Cursor) (draft : Draft) :
    Except ParseError (Cursor × Draft) :=
  match token.slot? with
  | some slot => do
    let (taken, entered) ← slot.read locale cursor draft
    .ok (cursor.advance taken, entered)
  | none => do
    let taken ← readLiteral token.literalText cursor
    .ok (cursor.advance taken, draft)

/-- Reads tokens one after the other. -/
def readTokens (locale : Option Locale) :
    List Token → Cursor → Draft → Except ParseError (Cursor × Draft)
  | [], cursor, draft => .ok (cursor, draft)
  | token :: tokens, cursor, draft => do
    let (next, entered) ← token.read locale cursor draft
    readTokens locale tokens next entered

/-- Reads a whole text. -/
def parseTokens (locale : Option Locale) (reference : Date) (tokens : List Token)
    (text : List Char) : Except ParseError Date := do
  let (cursor, draft) ← readTokens locale tokens (.start text) (.ofReference reference)
  if cursor.rest = [] then draft.finish
  else .error (.trailingInput cursor.position (String.ofList cursor.rest))

end DatePattern

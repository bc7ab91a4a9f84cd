import DatePattern.Pattern.Format
import DatePattern.Pattern.Parse

/-! # Fields letter by letter

Writing and reading a field with one case for each letter.  The cases of writing and the cases of
reading each decide for themselves which lengths of a run they support.

* `Symbol.render?`, `Symbol.read?`: what a date shows in a run of the letter, if it shows anything
  there, and how the run is read; none for a length that is not supported.
* `Token.renderByLetter`, `Token.readByLetter`: the same for a token.  A run of a length that is not
  supported stands for itself. -/

namespace DatePattern

/-! ### Writing -/

/-- A number padded to the length of its run, which has at most `max` letters. -/
def renderNumber? (value len max : Nat) : Option (Option (List Char)) :=
  if 1 ≤ len ∧ len ≤ max then some (paddedTo? len value) else none

/-- A name in the width that the length of its run selects. -/
def renderName? (locale : Locale) (field : NameField) (index len : Nat) :
    Option (Option (List Char)) :=
  (Width.ofLength? len).map fun width => some (locale.name field width index).toList

/-- A month as a number in one or two letters, as a name in more. -/
def renderMonth? (locale : Locale) (month len : Nat) : Option (Option (List Char)) :=
  match len with
  | 1 | 2 => renderNumber? (month + 1) len 2
  | _ => renderName? locale .month month len

/-- What the millisecond is divided by to leave as many digits as the run has letters. -/
def fractionDivisor? : Nat → Option Nat
  | 1 => some 100
  | 2 => some 10
  | 3 => some 1
  | _ => none

/-- The leading digits of the millisecond, one for each letter of the run. -/
def renderFraction? (milliseconds len : Nat) : Option (Option (List Char)) :=
  (fractionDivisor? len).map fun divisor => paddedTo? len (milliseconds / divisor)

/-- What a date shows in a run of the letter. -/
def Symbol.render? (locale : Locale) (d : Date) (len : Nat) :
    Symbol → Option (Option (List Char))
  | year => some (renderYear len (yearOfEra d.year))
  | month | standaloneMonth => renderMonth? locale d.month len
  | day => renderNumber? d.day len 2
  | dayOfYear => renderNumber? d.dayOfYear len 3
  | weekday | standaloneWeekday => renderName? locale .weekday d.weekday len
  | era => renderName? locale .era (Era.ofYear d.year).index len
  | dayPeriod => renderName? locale .dayPeriod (DayPeriod.ofHours d.hours).index len
  | hour12 => renderNumber? (halfDayHour d.hours) len 2
  | hour23 => renderNumber? d.hours len 2
  | hour11 => renderNumber? (d.hours % 12) len 2
  | hour24 => renderNumber? (fullDayHour d.hours) len 2
  | minute => renderNumber? d.minutes len 2
  | second => renderNumber? d.seconds len 2
  | fractionalSecond => renderFraction? d.milliseconds len

/-- What a date shows for a token. -/
def Token.renderByLetter (locale : Option Locale) (d : Date) (token : Token) :
    Option (List Char) :=
  match token with
  | .field symbol len => (symbol.render? (locale.getD .english) d len).getD (some token.raw)
  | _ => some token.literalText

/-! ### Reading -/

/-- Reads a number between bounds; also how many digits it takes. -/
def readBounded (field : Field) (len min max : Nat) (cursor : Cursor) :
    Except ParseError (Nat × Nat) := do
  let (value, taken) ← readNumber field (.ofLength len) cursor
  if value < min ∨ max < value then .error (.outOfRange field value min max)
  else .ok (value, taken)

/-- Enters the number or the index that was read. -/
def entering (reading : Except ParseError (Nat × Nat)) (enter : Nat → Draft) :
    Except ParseError (Nat × Draft) := do
  let (value, taken) ← reading
  .ok (taken, enter value)

/-- Reads a year; two digits stand for the year nearest to the reference year. -/
def readYear (len : Nat) (cursor : Cursor) (draft : Draft) : Except ParseError (Nat × Draft) :=
  entering (readNumber .year (.ofLength len) cursor) fun value =>
    draft.supplyYear (if len = 2 then nearestYear value draft.referenceYear else value)

/-- Reads an ordinal day of the year that stands in the draft. -/
def readOrdinal (len : Nat) (cursor : Cursor) (draft : Draft) :
    Except ParseError (Nat × Draft) := do
  let max := yearLength draft.year
  let (ordinal, taken) ← readBounded .dayOfYear len 1 max cursor
  match monthDayOfOrdinal draft.year ordinal with
  | some (month, day) => .ok (taken, (draft.supplyMonth month).supplyDay day)
  | none => .error (.outOfRange .dayOfYear ordinal 1 max)

/-- Milliseconds that one unit of a fraction of so many digits counts. -/
def fractionScale : Nat → Nat
  | 1 => 100
  | 2 => 10
  | _ => 1

/-- Reads a fraction of a second; a single letter takes a single digit. -/
def readFraction (len : Nat) (cursor : Cursor) (draft : Draft) : Except ParseError (Nat × Draft) :=
  let span := if len = 1 then .atMost 1 else .exactly len
  entering (readNumber .millisecond span cursor) fun value =>
    { draft with milliseconds := value * fractionScale len }

/-- The reading of a run whose length lies between bounds. -/
def forLengths {α : Type} (min max len : Nat) (reading : α) : Option α :=
  if min ≤ len ∧ len ≤ max then some reading else none

/-- How a run of the letter is read. -/
def Symbol.read? (locale : Option Locale) (cursor : Cursor) (draft : Draft) (len : Nat) :
    Symbol → Option (Except ParseError (Nat × Draft))
  | year => some (readYear len cursor draft)
  | month | standaloneMonth =>
    forLengths 1 2 len
        (entering (readBounded .month len 1 12 cursor) fun value => draft.supplyMonth (value - 1))
      <|> forLengths 3 5 len (entering (readName locale .month cursor) draft.supplyMonth)
  | day => forLengths 1 2 len (entering (readBounded .day len 1 31 cursor) draft.supplyDay)
  | dayOfYear => forLengths 1 3 len (readOrdinal len cursor draft)
  | weekday | standaloneWeekday =>
    forLengths 1 5 len (entering (readName locale .weekday cursor) fun _ => draft)
  | era =>
    forLengths 1 5 len <| entering (readName locale .era cursor) fun index =>
      if index = Era.bc.index ∧ 1 ≤ draft.year then { draft with year := 1 - draft.year }
      else draft
  | dayPeriod =>
    forLengths 1 5 len <| entering (readName locale .dayPeriod cursor) fun index =>
      { draft with isPm := some (index == DayPeriod.pm.index) }
  | hour12 =>
    forLengths 1 2 len <| entering (readBounded .hour12 len 1 12 cursor) fun hour =>
      { draft with hours12 := some hour }
  | hour11 =>
    forLengths 1 2 len <| entering (readBounded .hour11 len 0 11 cursor) fun hour =>
      { draft with hours12 := some (if hour = 0 then 12 else hour) }
  | hour23 =>
    forLengths 1 2 len <| entering (readBounded .hour len 0 23 cursor) fun hours =>
      { draft with hours }
  | hour24 =>
    forLengths 1 2 len <| entering (readBounded .hour24 len 1 24 cursor) fun hour =>
      { draft with hours := hour % 24 }
  | minute =>
    forLengths 1 2 len <| entering (readBounded .minute len 0 59 cursor) fun minutes =>
      { draft with minutes }
  | second =>
    forLengths 1 2 len <| entering (readBounded .second len 0 59 cursor) fun seconds =>
      { draft with seconds }
  | fractionalSecond => forLengths 1 3 len (readFraction len cursor draft)

/-- Reads a text that stands for itself; the place after it, and the draft as it was. -/
def readItself (text : List Char) (cursor : Cursor) (draft : Draft) :
    Except ParseError (Cursor × Draft) := do
  let taken ← readLiteral text cursor
  .ok (cursor.advance taken, draft)

/-- Reads a token; the place after it and the draft with what was read. -/
def Token.readByLetter (locale : Option Locale) (token : Token) (cursor : Cursor)
    (draft : Draft) : Except ParseError (Cursor × Draft) :=
  match token with
  | .field symbol len =>
    match symbol.read? locale cursor draft len with
    | some reading => do
      let (taken, entered) ← reading
      .ok (cursor.advance taken, entered)
    | none => readItself token.raw cursor draft
  | _ => readItself token.literalText cursor draft

end DatePattern

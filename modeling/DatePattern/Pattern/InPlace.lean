import DatePattern.Pattern.Parse

/-! # Reading in place

Reading with one draft at hand that is written to on the way, part by part, and stays as it is by
then when reading fails.

* `NumberField.write`, `NameField.write`: what is written for a number or a name.
* `Slot.readInPlace`, `Token.readInPlace`: the readers of `Pattern/Parse.lean` on a draft at hand.

A reader gives the number of characters it takes, and a token the place after it. -/

namespace DatePattern

/-- A reader with a draft at hand; what it has written stays when it fails. -/
abbrev InPlace := EStateM ParseError Draft

/-- Writes a number.  An ordinal day is written as a month and a day of the year there is. -/
def NumberField.write (value : Nat) : NumberField → InPlace Unit
  | month => modify fun draft => draft.supplyMonth (value - 1)
  | day => modify fun draft => draft.supplyDay value
  | dayOfYear => do
    let year := (← get).year
    match monthDayOfOrdinal year value with
    | some found =>
      modify fun draft => draft.supplyMonth found.1
      modify fun draft => draft.supplyDay found.2
    | none => throw (.outOfRange .dayOfYear value 1 (yearLength year))
  | hour12 => modify fun draft => { draft with hours12 := some value }
  | hour23 => modify fun draft => { draft with hours := value }
  | hour11 => modify fun draft => { draft with hours12 := some (if value = 0 then 12 else value) }
  | hour24 => modify fun draft => { draft with hours := value % 24 }
  | minute => modify fun draft => { draft with minutes := value }
  | second => modify fun draft => { draft with seconds := value }

/-- Writes a name.  An era before Christ turns round the year there is. -/
def NameField.write (index : Nat) : NameField → InPlace Unit
  | era => do
    let year := (← get).year
    if index = Era.bc.index ∧ 1 ≤ year then modify fun draft => { draft with year := 1 - year }
  | month => modify fun draft => draft.supplyMonth index
  | weekday => pure ()
  | dayPeriod => modify fun draft => { draft with isPm := some (index == DayPeriod.pm.index) }

/-- Reads a slot and writes it. -/
def Slot.readInPlace (locale : Option Locale) (cursor : Cursor) : Slot → InPlace Nat
  | year len => do
    let (value, taken) ← ofExcept (readNumber .year (.ofLength len) cursor)
    let reference := (← get).referenceYear
    modify fun draft => draft.supplyYear (if len = 2 then nearestYear value reference else value)
    return taken
  | number field len => do
    let (min, max) := field.bounds (← get)
    let (value, taken) ← ofExcept (readNumber field.field (.ofLength len) cursor)
    if value < min ∨ max < value then throw (.outOfRange field.field value min max)
    field.write value
    return taken
  | fraction len => do
    let (value, taken) ← ofExcept (readNumber .millisecond (fractionSpan len) cursor)
    modify fun draft => { draft with milliseconds := value * fractionUnit len }
    return taken
  | name field _ => do
    let (index, taken) ← ofExcept (readName locale field cursor)
    field.write index
    return taken

/-- Reads a token and writes its slot; the place after it. -/
def Token.readInPlace (locale : Option Locale) (token : Token) (cursor : Cursor) :
    InPlace Cursor :=
  match token.slot? with
  | some slot => return cursor.advance (← slot.readInPlace locale cursor)
  | none => return cursor.advance (← ofExcept (readLiteral token.literalText cursor))

end DatePattern

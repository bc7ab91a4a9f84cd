import DatePattern.Locale.Basic
import DatePattern.Pattern.Token

/-! # Slots of a pattern

What a token leaves to be filled in by a date.  A field letter and the length of its run select a
slot; a length that the letter does not support selects none, and the token then stands for
itself. -/

namespace DatePattern

/-- A field that is shown as a number within a fixed range. -/
inductive NumberField where
  | month
  | day
  | dayOfYear
  | hour12
  | hour23
  | hour11
  | hour24
  | minute
  | second
deriving DecidableEq, Repr

namespace NumberField

/-- How messages name the field. -/
def field : NumberField → Field
  | month => .month
  | day => .day
  | dayOfYear => .dayOfYear
  | hour12 => .hour12
  | hour23 => .hour
  | hour11 => .hour11
  | hour24 => .hour24
  | minute => .minute
  | second => .second

/-- Longest run of letters that the field supports. -/
def maxLength : NumberField → Nat
  | dayOfYear => 3
  | _ => 2

end NumberField

/-- What a field token leaves to be filled in; `len` is the number of letters of the token. -/
inductive Slot where
  /-- Year of the era. -/
  | year (len : Nat)
  /-- A number within a fixed range. -/
  | number (field : NumberField) (len : Nat)
  /-- Leading digits of the millisecond. -/
  | fraction (len : Nat)
  /-- A name in a locale. -/
  | name (field : NameField) (width : Width)
deriving DecidableEq, Repr

/-- The slot of a number, if the length is supported. -/
def NumberField.slot? (field : NumberField) (len : Nat) : Option Slot :=
  if 1 ≤ len ∧ len ≤ field.maxLength then some (.number field len) else none

/-- The slot of a name, if the length is supported. -/
def NameField.slot? (field : NameField) (len : Nat) : Option Slot :=
  (Width.ofLength? len).map (.name field)

/-- The slot of a month: a number in one or two letters, a name in more. -/
def monthSlot? (len : Nat) : Option Slot :=
  if len ≤ 2 then NumberField.month.slot? len else NameField.month.slot? len

/-- The slot that a run of a field letter stands for. -/
def Symbol.slot? (len : Nat) : Symbol → Option Slot
  | year => some (.year len)
  | month | standaloneMonth => monthSlot? len
  | day => NumberField.day.slot? len
  | dayOfYear => NumberField.dayOfYear.slot? len
  | weekday | standaloneWeekday => NameField.weekday.slot? len
  | era => NameField.era.slot? len
  | dayPeriod => NameField.dayPeriod.slot? len
  | hour12 => NumberField.hour12.slot? len
  | hour23 => NumberField.hour23.slot? len
  | hour11 => NumberField.hour11.slot? len
  | hour24 => NumberField.hour24.slot? len
  | minute => NumberField.minute.slot? len
  | second => NumberField.second.slot? len
  | fractionalSecond => if 1 ≤ len ∧ len ≤ 3 then some (.fraction len) else none

/-- The slot that a token leaves; none when it stands for its `literalText`. -/
def Token.slot? : Token → Option Slot
  | field symbol len => symbol.slot? len
  | _ => none

/-- Milliseconds that one unit of a fraction of so many digits counts. -/
def fractionUnit (len : Nat) : Nat := Nat.pow 10 (3 - len)

end DatePattern

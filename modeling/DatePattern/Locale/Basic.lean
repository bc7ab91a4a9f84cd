import DatePattern.Field

/-! # Names in a locale

A locale is a table of names for eras, months, weekdays and halves of the day, each in three
widths.  `Locale.name` looks a name up by what it names (`NameField`), its width and its index;
an index beyond the table has the empty name. -/

namespace DatePattern

/-! ### Widths -/

/-- How verbose a name is. -/
inductive Width where
  | narrow
  | abbreviated
  | wide
deriving DecidableEq, Repr

namespace Width

/-- Every width, most verbose first. -/
def all : List Width := [wide, abbreviated, narrow]

/-- What the width is called. -/
def name : Width → String
  | narrow => "narrow"
  | abbreviated => "abbreviated"
  | wide => "wide"

/-- The width that a run of so many letters asks for. -/
def ofLength? : Nat → Option Width
  | 1 | 2 | 3 => some abbreviated
  | 4 => some wide
  | 5 => some narrow
  | _ => none

end Width

/-! ### What is named -/

/-- A field that is shown by name. -/
inductive NameField where
  | era
  | month
  | weekday
  | dayPeriod
deriving DecidableEq, Repr

namespace NameField

/-- How many names the field has. -/
def count : NameField → Nat
  | era => 2
  | month => 12
  | weekday => 7
  | dayPeriod => 2

/-- How messages name the field. -/
def field : NameField → Field
  | era => .era
  | month => .month
  | weekday => .weekday
  | dayPeriod => .dayPeriod

end NameField

/-! ### Tables -/

/-- One set of names in the three widths. -/
structure Names (n : Nat) where
  narrow : Vector String n
  abbreviated : Vector String n
  wide : Vector String n
deriving DecidableEq, Repr

/-- The name at an index, empty beyond the table. -/
def Names.get {n : Nat} (names : Names n) (width : Width) (index : Nat) : String :=
  match width with
  | .narrow => names.narrow[index]?.getD ""
  | .abbreviated => names.abbreviated[index]?.getD ""
  | .wide => names.wide[index]?.getD ""

/-- A table of names. -/
structure Locale where
  /-- Language tag, for information only. -/
  code : String
  /-- BC, AD. -/
  eras : Names 2
  /-- January first. -/
  months : Names 12
  /-- Sunday first. -/
  weekdays : Names 7
  /-- AM, PM. -/
  dayPeriods : Names 2
deriving DecidableEq, Repr

/-- The name of a field at an index, empty beyond the table. -/
def Locale.name (locale : Locale) (field : NameField) (width : Width) (index : Nat) : String :=
  match field with
  | .era => locale.eras.get width index
  | .month => locale.months.get width index
  | .weekday => locale.weekdays.get width index
  | .dayPeriod => locale.dayPeriods.get width index

end DatePattern

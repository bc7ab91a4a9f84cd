/-! # Eras and halves of the day

The two eras of the calendar and the two halves of a day on a 12-hour clock, with the position
each has in a table of names. -/

namespace DatePattern

/-! ### Eras -/

/-- An era of the calendar. -/
inductive Era where
  /-- Before Christ: astronomical years up to 0. -/
  | bc
  /-- Anno Domini: astronomical years from 1. -/
  | ad
deriving DecidableEq, Repr

namespace Era

/-- The era of an astronomical year. -/
def ofYear (year : Int) : Era := if year ≤ 0 then bc else ad

/-- Position of the era in a table of names. -/
def index : Era → Nat
  | bc => 0
  | ad => 1

/-- Short English name. -/
def name : Era → String
  | bc => "BC"
  | ad => "AD"

end Era

/-- Year counted within its era: 1 BC is the astronomical year 0, 2 BC the year -1. -/
def yearOfEra (year : Int) : Nat := (if year ≤ 0 then 1 - year else year).toNat

/-! ### Halves of the day -/

/-- A half of the day on a 12-hour clock. -/
inductive DayPeriod where
  | am
  | pm
deriving DecidableEq, Repr

namespace DayPeriod

/-- Noon starts the second half of the day. -/
def ofHours (hours : Nat) : DayPeriod := if hours < 12 then am else pm

/-- Position of the period in a table of names. -/
def index : DayPeriod → Nat
  | am => 0
  | pm => 1

/-- Short English name. -/
def name : DayPeriod → String
  | am => "am"
  | pm => "pm"

end DayPeriod

end DatePattern

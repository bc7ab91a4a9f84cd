import DatePattern.Date.Basic

/-! # A date under construction

A `Draft` collects what the tokens of a pattern read from a text.  It begins with the calendar day
of a reference date at midnight; `Draft.finish` settles what was left open and makes the date. -/

namespace DatePattern

/-- Which calendar fields a token has written, as opposed to those taken from the reference. -/
structure Supplied where
  year : Bool := false
  month : Bool := false
  day : Bool := false
deriving DecidableEq, Repr

/-- A date under construction. -/
structure Draft where
  /-- Astronomical year. -/
  year : Int
  /-- Month, counted from 0. -/
  month : Nat
  /-- Day of the month, counted from 1. -/
  day : Nat
  hours : Nat := 0
  minutes : Nat := 0
  seconds : Nat := 0
  milliseconds : Nat := 0
  /-- Half of the day, when one was read. -/
  isPm : Option Bool := none
  /-- Hour on a 12-hour clock, when one was read. -/
  hours12 : Option Nat := none
  /-- Day of the month of the reference date. -/
  initialDay : Nat
  /-- Year of the reference date. -/
  referenceYear : Int
  supplied : Supplied := {}
deriving DecidableEq, Repr

namespace Draft

/-- The calendar day of the reference date, at midnight. -/
def ofReference (reference : Date) : Draft where
  year := reference.year
  month := reference.month
  day := reference.day
  initialDay := reference.day
  referenceYear := reference.year

/-! ### Writing fields -/

/-- Writes the year. -/
def supplyYear (draft : Draft) (year : Int) : Draft :=
  { draft with year, supplied := { draft.supplied with year := true } }

/-- Writes the month. -/
def supplyMonth (draft : Draft) (month : Nat) : Draft :=
  { draft with month, supplied := { draft.supplied with month := true } }

/-- Writes the day of the month. -/
def supplyDay (draft : Draft) (day : Nat) : Draft :=
  { draft with day, supplied := { draft.supplied with day := true } }

/-- Turns a year of the era before Christ into the astronomical year; a year that is astronomical
already stays. -/
def beforeChrist (draft : Draft) : Draft :=
  if 1 ≤ draft.year then { draft with year := 1 - draft.year } else draft

/-! ### Finishing -/

/-- A year without a month means January. -/
def finalMonth (draft : Draft) : Nat :=
  if draft.supplied.year && !draft.supplied.month then 0 else draft.month

/-- A year or a month without a day means the 1st. -/
def finalDay (draft : Draft) : Nat :=
  if (draft.supplied.year || draft.supplied.month) && !draft.supplied.day then 1 else draft.day

/-- An hour on a 12-hour clock wins over one on a 24-hour clock; without a half of the day it
means the first. -/
def finalHours (draft : Draft) : Nat :=
  match draft.hours12 with
  | some hour => if draft.isPm = some true then hour % 12 + 12 else hour % 12
  | none => draft.hours

/-- The fields that the draft comes to. -/
def fields (draft : Draft) : Fields where
  year := draft.year
  month := draft.finalMonth
  day := draft.finalDay
  hours := draft.finalHours
  minutes := draft.minutes
  seconds := draft.seconds
  milliseconds := draft.milliseconds

/-- The date that the draft comes to; a day past the end of its month rolls over. -/
def finish (draft : Draft) : Except ParseError Date :=
  (Date.ofFields draft.fields).mapError fun _ => .unrepresentable

end Draft

end DatePattern

import DatePattern.Calendar.Era
import DatePattern.Date.Basic
import DatePattern.Locale.English
import DatePattern.Pattern.Slot

/-! # Writing a date with a pattern

`Slot.render` fills one slot, `Token.render` writes one token, and `format` a whole pattern.  None of
them gives anything where a number would have to be padded to more digits than there can be
(`paddedTo?`). -/

namespace DatePattern

/-- The value that a date has in a number field. -/
def NumberField.value (d : Date) : NumberField → Nat
  | month => d.month + 1
  | day => d.day
  | dayOfYear => d.dayOfYear
  | hour12 => halfDayHour d.hours
  | hour23 => d.hours
  | hour11 => d.hours % 12
  | hour24 => fullDayHour d.hours
  | minute => d.minutes
  | second => d.seconds

/-- Index of the name that a date has in a field. -/
def NameField.index (d : Date) : NameField → Nat
  | era => (Era.ofYear d.year).index
  | month => d.month
  | weekday => d.weekday
  | dayPeriod => (DayPeriod.ofHours d.hours).index

/-- Widest padding: the width of a padded number has 16 bits. -/
def maxPadding : Nat := 65535

/-- The number, padded to a width that is known only when the program runs.  None where the program
stops, because the width is too great. -/
def paddedTo? (width n : Nat) : Option (List Char) :=
  if width ≤ maxPadding then some (padded width n) else none

/-- The year of an era in a run of so many letters: one letter shows it in full, two and three
only its last digits, more pad it with zeros. -/
def renderYear (len year : Nat) : Option (List Char) :=
  match len with
  | 1 => some (numeral year)
  | 2 => some (padded 2 (year % 100))
  | 3 => some (padded 3 (year % 1000))
  | _ => paddedTo? len year

/-- What a date shows in a slot. -/
def Slot.render (locale : Locale) (d : Date) : Slot → Option (List Char)
  | year len => renderYear len (yearOfEra d.year)
  | number field len => paddedTo? len (field.value d)
  | fraction len => paddedTo? len (d.milliseconds / fractionUnit len)
  | name field width => some (locale.name field width (field.index d)).toList

/-- What a date shows for a token; the names are English unless a locale is given. -/
def Token.render (locale : Option Locale) (d : Date) (token : Token) : Option (List Char) :=
  match token.slot? with
  | some slot => slot.render (locale.getD .english) d
  | none => some token.literalText

/-- What a date shows for the tokens of a pattern. -/
def renderTokens (locale : Option Locale) (d : Date) : List Token → Option (List Char)
  | [] => some []
  | token :: tokens => do
    let piece ← token.render locale d
    let rest ← renderTokens locale d tokens
    some (piece ++ rest)

/-- Shown in place of a date out of range. -/
def invalidDate : String := "Invalid Date"

/-- The date written with the pattern.  None where the program stops instead of writing it. -/
def format (input : DateInput) (pattern : String) (locale : Option Locale) : Option String :=
  match input.toDate with
  | .ok d => (renderTokens locale d (tokenize pattern.toList)).map String.ofList
  | .error _ => some invalidDate

/-- Pattern of the written form of dates in the years 0 to 9999. -/
def isoPattern : String := "yyyy-MM-dd'T'HH:mm:ss.SSS"

end DatePattern

import DatePattern.Date.Written
import DatePattern.Pattern.Options
import DatePattern.Text.Blank

/-! # Reading the written form of a date

`Date.ofText` reads what `Date.toText` writes: blank space around it is ignored, a plus sign may
precede the year, and the year may have any number of digits. -/

namespace DatePattern

/-- Pattern of a written date without its sign. -/
def writtenPattern : String := "y-MM-dd'T'HH:mm:ss.SSS"

/-- The sign that a text begins with: whether it is a minus, and what follows. -/
def splitSign : List Char → Bool × List Char
  | '-' :: rest => (true, rest)
  | '+' :: rest => (false, rest)
  | text => (false, text)

namespace Date

/-- The same day and time of the opposite year; a day that year does not have rolls over. -/
def inOppositeYear (d : Date) : Except DateError Date :=
  ofFields { Fields.ofParts d.calendarDay d.clock with year := -d.year }

/-- The date that a text writes down.  A date with a minus sign is read without it first, and then
moved to the opposite year. -/
def ofText (text : String) : Except DateError Date :=
  let trimmed := trim text.toList
  let (negative, unsigned) := splitSign trimmed
  match parse (String.ofList unsigned) writtenPattern { reference := .date epoch } with
  | .ok d => if negative then d.inOppositeYear else .ok d
  | .error cause => .error (.invalidFormat (String.ofList trimmed) cause)

end Date

end DatePattern

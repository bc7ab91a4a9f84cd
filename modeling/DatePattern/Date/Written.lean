import DatePattern.Date.Basic

/-! # The written form of a date

`yyyy-MM-ddTHH:mm:ss.SSS` with a signed astronomical year: at least four digits, and a minus sign
before the years below 0. -/

namespace DatePattern

/-- The written year. -/
def writtenYear (year : Int) : List Char :=
  if year < 0 then '-' :: padded 4 year.natAbs else padded 4 year.natAbs

namespace Date

/-- The written form, character by character. -/
def chars (d : Date) : List Char :=
  writtenYear d.year ++ '-' :: padded 2 (d.month + 1) ++ '-' :: padded 2 d.day
    ++ 'T' :: padded 2 d.hours ++ ':' :: padded 2 d.minutes ++ ':' :: padded 2 d.seconds
    ++ '.' :: padded 3 d.milliseconds

/-- The written form. -/
def toText (d : Date) : String := String.ofList d.chars

instance : ToString Date := ⟨toText⟩

end Date

end DatePattern

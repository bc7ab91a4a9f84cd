import DatePattern.Date.Reading
import DatePattern.Text.Real

/-! # Dates as exchanged values

A date travels as the string of its written form.  `Date.toWire` gives that value; `Date.ofWire`
takes it back and refuses values of every other type by name. -/

namespace DatePattern

/-- A value received from elsewhere, as far as dates look into it. -/
inductive WireValue where
  | null
  | boolean (value : Bool)
  | integer (value : Int)
  | real (value : Decimal)
  | text (value : String)
  | sequence
  | map
deriving DecidableEq, Repr

/-- The number that a numeral stands for: an integer when it is written as one and fits 64 bits,
and a real otherwise.  There is no integer with a sign but without a magnitude. -/
def WireValue.ofNumeral (numeral : List Char) : WireValue :=
  let decimal := Decimal.ofNumeral numeral
  let whole : Int := if decimal.negative then -decimal.digits else decimal.digits
  if numeral.all (fun c => c == '-' || c.isDigit) && numeral != ['-', '0']
      && -9223372036854775808 ≤ whole && whole ≤ 18446744073709551615 then .integer whole
  else .real decimal

/-- How messages name the value. -/
def WireValue.description : WireValue → String
  | null => "null"
  | boolean value => if value then "boolean `true`" else "boolean `false`"
  | integer value => "integer `" ++ String.ofList (signedNumeral value) ++ "`"
  | real value =>
    "floating point `" ++ (if value.negative then "-" else "")
      ++ String.ofList value.double.text ++ "`"
  | text value => "string " ++ DatePattern.quoted value
  | sequence => "sequence"
  | map => "map"

/-- Why a value is no date. -/
inductive WireError where
  /-- The value is no string. -/
  | wrongType (found : WireValue)
  /-- The string is no date. -/
  | invalid (cause : DateError)
deriving DecidableEq, Repr

/-- The cause in words. -/
def WireError.message : WireError → String
  | wrongType found => "invalid type: " ++ found.description ++ ", expected a string"
  | invalid cause => cause.message

namespace Date

/-- The value as which a date travels. -/
def toWire (d : Date) : WireValue := .text d.toText

/-- The date as which a value is taken. -/
def ofWire : WireValue → Except WireError Date
  | .text value => (ofText value).mapError .invalid
  | found => .error (.wrongType found)

end Date

end DatePattern

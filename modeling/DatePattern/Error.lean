import DatePattern.Calendar.Range
import DatePattern.Field
import DatePattern.Text.Numeral
import DatePattern.Text.Quoted

/-! # Errors

Why a text does not match a pattern (`ParseError`) and why a date cannot be had (`DateError`).
Each constructor is one cause; `message` is the only place where a cause is put into words.
Positions are byte offsets into the UTF-8 form of the text being read. -/

namespace DatePattern

/-- Why a text does not match a pattern. -/
inductive ParseError where
  /-- The text does not continue with a literal of the pattern. -/
  | literalMismatch (expected : String) (position : Nat)
  /-- Nothing is left where a field should be. -/
  | inputExhausted (field : Field) (position : Nat)
  /-- A run of digits is not as long as the field. -/
  | digitCount (field : Field) (expected found position : Nat)
  /-- A number is missing. -/
  | missingDigits (field : Field) (position : Nat)
  /-- A number exceeds every field. -/
  | numberTooLarge (field : Field) (position : Nat)
  /-- A number exceeds the range of its field. -/
  | outOfRange (field : Field) (value min max : Nat)
  /-- The text does not continue with a name of the field. -/
  | unmatchedText (field : Field) (position : Nat)
  /-- Something is left after the last token. -/
  | trailingInput (position : Nat) (rest : String)
  /-- What was read, or the reference date, lies outside the representable range. -/
  | unrepresentable
deriving DecidableEq, Repr

/-- Why a date cannot be had. -/
inductive DateError where
  /-- The date lies outside the representable range. -/
  | outOfRange
  /-- The text is not a written date. -/
  | invalidFormat (text : String) (cause : ParseError)
deriving DecidableEq, Repr

/-! ### Wording -/

/-- A number in a message. -/
def shown (n : Nat) : String := String.ofList (numeral n)

/-- Wording of a date outside the range. -/
def outOfRangeMessage : String :=
  "Date out of range: must be within " ++ shown maxMillis ++ " ms of 1970-01-01"

/-- The cause in words. -/
def ParseError.message : ParseError → String
  | literalMismatch expected position =>
    "Expected " ++ quoted expected ++ " at position " ++ shown position
  | inputExhausted field position =>
    "Input ended at position " ++ shown position ++ " while reading the " ++ field.name
  | digitCount field expected found position =>
    "Expected " ++ shown expected ++ " digits for the " ++ field.name ++ " at position "
      ++ shown position ++ ", found " ++ shown found
  | missingDigits field position =>
    "Expected digits for the " ++ field.name ++ " at position " ++ shown position
  | numberTooLarge field position =>
    "Number for the " ++ field.name ++ " at position " ++ shown position ++ " is too large"
  | outOfRange field value min max =>
    "Invalid " ++ field.name ++ ": " ++ shown value ++ " (must be " ++ shown min ++ "-"
      ++ shown max ++ ")"
  | unmatchedText field position =>
    "No " ++ field.name ++ " name matches at position " ++ shown position
  | trailingInput position rest =>
    "Unexpected trailing input at position " ++ shown position ++ ": " ++ quoted rest
  | unrepresentable => outOfRangeMessage

/-- The cause in words. -/
def DateError.message : DateError → String
  | outOfRange => outOfRangeMessage
  | invalidFormat text cause => "Invalid date format: " ++ text ++ ": " ++ cause.message

end DatePattern

import DatePattern.Pattern.Format
import DatePattern.Pattern.Parse

/-! # Reading a text with options

`parse` reads a text with a pattern; `ParseOptions` holds the locale whose names are tried before
the English ones, and the reference date whose calendar day fills in what the pattern does not
read. -/

namespace DatePattern

/-- Settings for reading. -/
structure ParseOptions where
  locale : Option Locale := none
  reference : DateInput
deriving DecidableEq, Repr

/-- The date that the text shows under the pattern: every token must match in order, and the whole
text must be read. -/
def parse (text pattern : String) (options : ParseOptions) : Except ParseError Date := do
  let reference ← options.reference.toDate.mapError fun _ => .unrepresentable
  parseTokens options.locale reference (tokenize pattern.toList) text.toList

/-- The text can be read with the pattern. -/
def isMatch (text pattern : String) (options : ParseOptions) : Bool :=
  (parse text pattern options).isOk

/-! ### Description -/

/-- The input in one line. -/
def DateInput.description : DateInput → String
  | date d =>
    "Date(Date \x7b millis: " ++ String.ofList (signedNumeral d.millis) ++ " \x7d)"
  | timestamp millis => "Timestamp(" ++ String.ofList (signedNumeral millis) ++ ")"

/-- The options in one line; a locale shows only that it is there. -/
def ParseOptions.description (options : ParseOptions) : String :=
  let locale := if options.locale.isSome then "Some(\"...\")" else "None"
  "ParseOptions \x7b locale: " ++ locale ++ ", reference_date: Some("
    ++ options.reference.description ++ ") \x7d"

end DatePattern

import DatePattern.Text.Invisible

/-! # Quoted text

Text shown in a message: between double quotes, with escapes for the characters that a reader
could not tell apart otherwise. -/

namespace DatePattern

/-- Code point in lower-case hexadecimal, as an escape writes it. -/
def codePointEscape (c : Char) : List Char :=
  ['\\', 'u', '\x7b'] ++ Nat.toDigits 16 c.toNat ++ ['\x7d']

/-- How a character is written between double quotes. -/
def escaped (c : Char) : List Char :=
  match c with
  | '"' => ['\\', '"']
  | '\\' => ['\\', '\\']
  | '\t' => ['\\', 't']
  | '\n' => ['\\', 'n']
  | '\r' => ['\\', 'r']
  | '\x00' => ['\\', '0']
  | c => if isInvisible c then codePointEscape c else [c]

/-- The text between double quotes, with escapes. -/
def quoted (text : String) : String :=
  String.ofList ('"' :: text.toList.flatMap escaped ++ ['"'])

end DatePattern

import DatePattern.Pattern.Symbol

/-! # Tokens of a pattern

A pattern is a sequence of tokens: runs of one field letter (`yyyy`), quoted text (`'at'`, a quote
inside being written twice) and single characters that stand for themselves.

* `Token.raw`: the text of a token as it stands in a pattern.
* `tokenize`: the tokens of a pattern.  It never fails, and it loses nothing: the raw texts of the
  tokens make up the pattern. -/

namespace DatePattern

/-- The character that quotes text. -/
def quote : Char := '\''

/-- A token of a pattern. -/
inductive Token where
  /-- A run of one field letter. -/
  | field (symbol : Symbol) (len : Nat)
  /-- A character that stands for itself. -/
  | literal (c : Char)
  /-- Two quotes outside quoted text, standing for one. -/
  | escapedQuote
  /-- Quoted text, closed by a quote. -/
  | quoted (text : List Char)
  /-- Quoted text that runs to the end of the pattern. -/
  | unclosed (text : List Char)
deriving DecidableEq, Repr

/-- The text with every quote written twice. -/
def doubleQuotes (text : List Char) : List Char :=
  text.flatMap fun c => if c = quote then [quote, quote] else [c]

namespace Token

/-- The token as it stands in a pattern. -/
def raw : Token → List Char
  | field symbol len => List.replicate len symbol.letter
  | literal c => [c]
  | escapedQuote => [quote, quote]
  | quoted text => quote :: doubleQuotes text ++ [quote]
  | unclosed text => quote :: doubleQuotes text

/-- What the token stands for when it is not a field of a supported length: quoted text without
its quoting, everything else as it stands. -/
def literalText : Token → List Char
  | field symbol len => List.replicate len symbol.letter
  | literal c => [c]
  | escapedQuote => [quote]
  | quoted text => text
  | unclosed text => text

end Token

/-! ### Tokenizing -/

/-- Puts a field letter in front of tokens, lengthening a run of the same letter. -/
def prependLetter (symbol : Symbol) : List Token → List Token
  | .field s len :: rest =>
    if s = symbol then .field s (len + 1) :: rest else .field symbol 1 :: .field s len :: rest
  | rest => .field symbol 1 :: rest

/-- Puts a character in front of tokens that begin with quoted text. -/
def prependQuoted (c : Char) : List Token → List Token
  | .quoted text :: rest => .quoted (c :: text) :: rest
  | .unclosed text :: rest => .unclosed (c :: text) :: rest
  | rest => rest

/-- Puts a character that is no quote in front of tokens. -/
def prependPlain (c : Char) (rest : List Token) : List Token :=
  match Symbol.ofLetter? c with
  | some symbol => prependLetter symbol rest
  | none => .literal c :: rest

/-- Tokens of the rest of a pattern; `inside` tells whether it begins inside quoted text, whose
token is then the first. -/
def scan (inside : Bool) : List Char → List Token
  | [] => if inside then [.unclosed []] else []
  | '\'' :: '\'' :: rest =>
    if inside then prependQuoted quote (scan true rest) else .escapedQuote :: scan false rest
  | '\'' :: rest => if inside then .quoted [] :: scan false rest else scan true rest
  | c :: rest =>
    if inside then prependQuoted c (scan true rest) else prependPlain c (scan false rest)

/-- The tokens of a pattern. -/
def tokenize (pattern : List Char) : List Token := scan false pattern

end DatePattern

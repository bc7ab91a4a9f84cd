import DatePattern.Locale.NamePool
import Mathlib.Data.List.Sort

/-! # Searching sorted names

The names of a field in the order in which they are tried: the longest first, and equally long ones
in the order of the pool.  The first one with which a text begins is taken. -/

namespace DatePattern.NameField

/-- The names of the pool, sorted by length. -/
def candidates (field : NameField) (locale : Option Locale) : List Name :=
  (field.pool locale).insertionSort fun name other => other.text.length ≤ name.text.length

/-- The first of the names with which the text begins, or else its initial: the index, and how many
characters are taken. -/
def recognizeFirst (field : NameField) (locale : Option Locale) (text : List Char) :
    Option (Nat × Nat) :=
  match (field.candidates locale).find? fun name => beginsWith text name.text with
  | some name => some (name.index, name.text.length)
  | none => (matchInitial text field.initials).map (·, 1)

end DatePattern.NameField

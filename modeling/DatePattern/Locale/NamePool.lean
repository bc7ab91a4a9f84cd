import DatePattern.Calendar.Era
import DatePattern.Locale.English
import DatePattern.Text.LowerCase

/-! # Recognizing names

The names that a text may show for a field, and the longest of them with which it begins.

* `NameField.pool`: the names of a locale, the English ones after them, and for eras the spellings
  of the common era.
* `longestMatch`: the longest name of a pool, the earliest of equally long ones, with which a text
  begins, case aside.
* `NameField.recognize`: the longest match, or else a single initial. -/

namespace DatePattern

/-- A name and the index it stands for. -/
structure Name where
  text : List Char
  index : Nat
deriving DecidableEq, Repr

namespace NameField

/-- The names of a field in a locale, the widest first. -/
def namesIn (field : NameField) (locale : Locale) : List Name :=
  Width.all.flatMap fun width =>
    (List.range field.count).map fun index => ⟨(locale.name field width index).toList, index⟩

/-- Spellings that belong to no width: those of the common era. -/
def aliases : NameField → List Name
  | era => [⟨['B', 'C', 'E'], Era.bc.index⟩, ⟨['C', 'E'], Era.ad.index⟩]
  | _ => []

/-- Every name under which the field is recognized, in order of precedence. -/
def pool (field : NameField) (locale : Option Locale) : List Name :=
  ((locale.toList ++ [Locale.english]).flatMap field.namesIn ++ field.aliases).filter
    fun name => !name.text.isEmpty

/-- Letters that stand for a name by themselves. -/
def initials : NameField → List (Char × Nat)
  | era => [('b', Era.bc.index), ('a', Era.ad.index)]
  | dayPeriod => [('a', DayPeriod.am.index), ('p', DayPeriod.pm.index)]
  | month | weekday => []

end NameField

/-! ### Matching -/

/-- The text begins with the name, case aside. -/
def beginsWith : (text name : List Char) → Bool
  | _, [] => true
  | [], _ :: _ => false
  | c :: text, n :: name => sameLetter c n && beginsWith text name

/-- The longest of the names with which the text begins, the earliest of equally long ones. -/
def longestMatch (text : List Char) : List Name → Option Name
  | [] => none
  | name :: later =>
    if beginsWith text name.text then
      match longestMatch text later with
      | some other => if name.text.length < other.text.length then some other else some name
      | none => some name
    else longestMatch text later

/-- Index of the first initial with which the text begins, case aside. -/
def matchInitial : (text : List Char) → List (Char × Nat) → Option Nat
  | [], _ => none
  | c :: _, initials => (initials.find? fun (initial, _) => sameLetter c initial).map (·.2)

/-- Index of the name with which a text begins, and how many characters the name takes. -/
def NameField.recognize (field : NameField) (locale : Option Locale) (text : List Char) :
    Option (Nat × Nat) :=
  match longestMatch text (field.pool locale) with
  | some name => some (name.index, name.text.length)
  | none => (matchInitial text field.initials).map (·, 1)

end DatePattern

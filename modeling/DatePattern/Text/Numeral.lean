/-! # Decimal numerals

Numerals of natural numbers over the ten ASCII digits.

* `numeral`, `padded`: the written form, without and with leading zeros up to a width.
* `digitRun`, `numeralValue`: the digits a text begins with, and the number that digits denote. -/

namespace DatePattern

/-- Digits of a number, without leading zeros; zero is one digit. -/
def numeral (n : Nat) : List Char := Nat.toDigits 10 n

/-- Digits of a number, led by zeros up to the width; a longer number keeps all its digits. -/
def padded (width n : Nat) : List Char :=
  List.replicate (width - (numeral n).length) '0' ++ numeral n

/-- Digits of an integer, led by a minus sign when it is negative. -/
def signedNumeral (n : Int) : List Char :=
  if n < 0 then '-' :: numeral n.natAbs else numeral n.natAbs

/-- The digits that a text begins with. -/
def digitRun (text : List Char) : List Char := text.takeWhile Char.isDigit

/-- The number that digits denote, most significant digit first. -/
def numeralValue (digits : List Char) : Nat := Nat.ofDigitChars 10 digits 0

/-! ### Writing, then reading -/

@[simp] theorem numeralValue_numeral (n : Nat) : numeralValue (numeral n) = n :=
  Nat.ofDigitChars_toDigits (by decide) (by decide)

theorem numeralValue_cons_zero (digits : List Char) :
    numeralValue ('0' :: digits) = numeralValue digits := rfl

@[simp] theorem numeralValue_padded (width n : Nat) : numeralValue (padded width n) = n := by
  unfold padded
  induction width - (numeral n).length with
  | zero => simp
  | succ k ih => simpa [List.replicate_succ, numeralValue_cons_zero] using ih

theorem isDigit_of_mem_numeral {n : Nat} {c : Char} (h : c ∈ numeral n) : c.isDigit :=
  Nat.isDigit_of_mem_toDigits (by decide) (by decide) h

theorem isDigit_of_mem_padded {width n : Nat} {c : Char} (h : c ∈ padded width n) :
    c.isDigit := by
  rcases List.mem_append.1 h with h | h
  · rw [List.eq_of_mem_replicate h]; rfl
  · exact isDigit_of_mem_numeral h

theorem length_padded (width n : Nat) :
    (padded width n).length = max width (numeral n).length := by
  simp [padded]; omega

end DatePattern

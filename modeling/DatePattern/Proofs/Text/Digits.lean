import DatePattern.Text.Numeral
import Mathlib.Algebra.Group.Nat.Defs
import Mathlib.Data.List.TakeWhile

/-! # Runs of digits

Where a run of digits ends, how large its number can be, and how long a padded numeral is. -/

namespace DatePattern

/-- A run of digits ends where the text does not go on with a digit. -/
theorem digitRun_append {digits tail : List Char} (hd : ∀ c ∈ digits, c.isDigit)
    (ht : ∀ c ∈ tail.head?, c.isDigit = false) : digitRun (digits ++ tail) = digits := by
  have hstop : tail.takeWhile Char.isDigit = [] := by
    cases tail with
    | nil => rfl
    | cons c tail => simp [ht c rfl]
  rw [digitRun, List.takeWhile_append_of_pos hd, hstop, List.append_nil]

/-- A number is less than the power of ten with an exponent of as many digits as it has. -/
theorem numeralValue_lt : ∀ {digits : List Char}, (∀ c ∈ digits, c.isDigit) →
    numeralValue digits < 10 ^ digits.length
  | [], _ => by decide
  | c :: digits, hd => by
      have ih := numeralValue_lt fun c' hc' => hd c' (List.mem_cons_of_mem c hc')
      have hdigit : c.toNat - '0'.toNat + 1 ≤ 10 := by
        have hc := hd c List.mem_cons_self
        simp only [Char.isDigit, Bool.and_eq_true, decide_eq_true_eq] at hc
        have hr : c.toNat ≤ 57 := hc.2
        change c.toNat - 48 + 1 ≤ 10
        omega
      have hsplit : numeralValue (c :: digits) =
          10 ^ digits.length * (c.toNat - '0'.toNat) + numeralValue digits := by
        rw [numeralValue, Nat.ofDigitChars_cons, Nat.ofDigitChars_eq_ofDigitChars_zero,
          Nat.mul_zero, Nat.zero_add]
        rfl
      calc numeralValue (c :: digits)
          < 10 ^ digits.length * (c.toNat - '0'.toNat) + 10 ^ digits.length := by
            rw [hsplit]
            exact Nat.add_lt_add_left ih _
        _ = 10 ^ digits.length * (c.toNat - '0'.toNat + 1) := (Nat.mul_succ _ _).symm
        _ ≤ 10 ^ digits.length * 10 := Nat.mul_le_mul_left _ hdigit
        _ = 10 ^ (c :: digits).length := rfl

theorem numeral_ne_nil (n : Nat) : numeral n ≠ [] := Nat.toDigits_ne_nil

theorem padded_ne_nil (width n : Nat) : padded width n ≠ [] := by
  simp [padded, numeral_ne_nil]

theorem padded_one (n : Nat) : padded 1 n = numeral n := by
  have h : 1 ≤ (numeral n).length := List.length_pos_iff.2 (numeral_ne_nil n)
  rw [padded, Nat.sub_eq_zero_of_le h, List.replicate_zero, List.nil_append]

/-- Padding is of use up to the width: larger numbers are longer. -/
theorem length_padded_eq_iff {width n : Nat} (hw : 1 ≤ width) :
    (padded width n).length = width ↔ n < 10 ^ width := by
  have hdigits : (numeral n).length ≤ width ↔ n < 10 ^ width :=
    Nat.length_toDigits_le_iff (by decide) hw
  rw [length_padded, ← hdigits]
  omega

theorem length_padded_of_lt {width n : Nat} (hw : 1 ≤ width) (h : n < 10 ^ width) :
    (padded width n).length = width := (length_padded_eq_iff hw).2 h

end DatePattern

import DatePattern.Proofs.Machine.Readers
import DatePattern.Proofs.Pattern.ReadBack

/-! # Runs of digits are decoded exactly

The reader of numbers multiplies and adds digit by digit, stops at the first overflow, and decides
from the run of digits before it how many of them to take.  What it comes to is nevertheless said by
the digits it takes as a whole (`decoded`): their number if that is a 64-bit integer, however many
zeros lead it, and otherwise that the number is too large.

* `readDigits_eq_readNumber`: digit by digit the same number is read as at once.
* `readDigits_any`, `readDigits_atMost`, `readDigits_exactly`: what each span makes of a run.
* `readDigits_exact`: the three together, and what they make of a number that was padded. -/

namespace DatePattern

/-- What digits that begin at a position come to: their number and the position after them, or the
error that the number is no 64-bit integer. -/
def decoded (field : Field) (position : Nat) (digits : List Char) :
    Except ParseError (Int × Nat) :=
  if numeralValue digits ≤ 2 ^ 63 - 1 then .ok (numeralValue digits, position + digits.length)
  else .error (.numberTooLarge field position)

/-- A number of 64 bits comes back from its digits, whatever their width. -/
theorem decoded_padded (field : Field) (position : Nat) {value : Nat} (h : value ≤ 2 ^ 63 - 1)
    (width : Nat) : decoded field position (padded width value) =
      .ok (value, position + (padded width value).length) := by
  rw [decoded, numeralValue_padded, if_pos h]

theorem Cursor.position_advance_of_readNumber {field : Field} {span : DigitSpan} {cursor : Cursor}
    {value taken : Nat} (h : readNumber field span cursor = .ok (value, taken)) :
    (cursor.advance taken).position = cursor.position + taken := by
  obtain ⟨digits, tail, hrest, rfl, -, hd, -⟩ := readNumber_eq_ok h
  have hfront : digits <+: cursor.rest := ⟨tail, by rw [rest, hrest, Option.getD_some]⟩
  exact cursor.position_advance_of_digits hfront hd

namespace Machine

theorem readDigits_eq_readNumber {usize : Unsigned} (cursor : Cursor)
    (hfits : cursor.position + byteLength cursor.rest < 2 ^ usize.bits) (field : Field)
    (span : DigitSpan) :
    (readDigits usize cursor.rest cursor.position field span).run =
      some ((readNumber field span cursor).map fun (value, taken) =>
        ((value : Int), cursor.position + taken)) := by
  refine (readDigits_gives hfits field span).trans ?_
  cases hread : readNumber field span cursor with
  | error cause => rfl
  | ok found =>
      have hnext := Cursor.position_advance_of_readNumber hread
      simp only [Except.map, hnext]

/-! ### The digits that are taken -/

section
variable {usize : Unsigned} {run tail : List Char} {position : Nat}
  (hne : run ++ tail ≠ []) (hd : ∀ c ∈ run, c.isDigit)
  (ht : ∀ c ∈ tail.head?, c.isDigit = false)
  (hfits : position + byteLength (run ++ tail) < 2 ^ usize.bits) (field : Field)
include hne hd ht hfits

theorem readDigits_run (span : DigitSpan) :
    (readDigits usize (run ++ tail) position field span).run =
      some (match span.mismatch? run.length with
        | some expected => .error (.digitCount field expected run.length position)
        | none =>
          if run.take (span.taken run.length) = [] then .error (.missingDigits field position)
          else decoded field position (run.take (span.taken run.length))) := by
  refine (readDigits_eq_readNumber ⟨position, some (run ++ tail)⟩ hfits field span).trans ?_
  rw [readNumber_run hne hd ht]
  cases span.mismatch? run.length with
  | some expected => rfl
  | none =>
      dsimp only
      generalize run.take (span.taken run.length) = digits
      have hmax : maxNumber = 2 ^ 63 - 1 := rfl
      rw [decoded, hmax]
      by_cases hnone : digits = []
      · rw [if_pos hnone, if_pos hnone]
        rfl
      · rw [if_neg hnone, if_neg hnone]
        by_cases hfit : numeralValue digits ≤ 2 ^ 63 - 1
        · rw [if_neg (Nat.not_lt.2 hfit), if_pos hfit]
          rfl
        · rw [if_pos (Nat.not_le.1 hfit), if_neg hfit]
          rfl

theorem readDigits_any :
    (readDigits usize (run ++ tail) position field .any).run =
      some (if run = [] then .error (.missingDigits field position)
        else decoded field position run) := by
  rw [readDigits_run hne hd ht hfits]
  simp only [DigitSpan.mismatch?, DigitSpan.taken, List.take_length]

theorem readDigits_atMost {limit : Nat} (hlimit : 1 ≤ limit) :
    (readDigits usize (run ++ tail) position field (.atMost limit)).run =
      some (if run = [] then .error (.missingDigits field position)
        else decoded field position (run.take limit)) := by
  have htake : run.take (min run.length limit) = run.take limit := by
    rw [Nat.min_comm, ← List.take_eq_take_min]
  have hempty : run.take limit = [] ↔ run = [] := by
    rw [List.take_eq_nil_iff, or_iff_right (Nat.ne_of_gt hlimit)]
  rw [readDigits_run hne hd ht hfits]
  simp only [DigitSpan.mismatch?, DigitSpan.taken, htake, hempty]

theorem readDigits_exactly {n : Nat} (hn : 1 ≤ n) :
    (readDigits usize (run ++ tail) position field (.exactly n)).run =
      some (if run.length = n then decoded field position run
        else .error (.digitCount field n run.length position)) := by
  rw [readDigits_run hne hd ht hfits]
  by_cases hlen : run.length = n
  · subst hlen
    have hsome : run ≠ [] := List.ne_nil_of_length_pos hn
    simp only [DigitSpan.mismatch?, DigitSpan.taken, List.take_length, if_neg hsome, if_true]
  · simp only [DigitSpan.mismatch?, if_neg hlen]

end

/-! ### Main statement -/

/-- Let a text go on, from a position between two of its characters, with a run of digits, and then
end or go on with something else.  Where any number of digits is asked for the whole run is taken,
where at most so many are its front, and digits are missing only where the run is empty; where
exactly so many are asked for the run has that length or is refused for the length it has.  The
digits that are taken are decoded.  So a number that was padded is read back, and with exactly as
many digits as it was padded to if it has no more than these. -/
theorem readDigits_exact (usize : Unsigned) {text run tail : List Char} {position : Nat}
    (hfits : byteLength text < 2 ^ usize.bits)
    (hrest : dropBytes? text position = some (run ++ tail)) (hne : run ++ tail ≠ [])
    (hd : ∀ c ∈ run, c.isDigit) (ht : ∀ c ∈ tail.head?, c.isDigit = false) (field : Field) :
    let cursor := Cursor.seek text position
    let read (span : DigitSpan) := (readDigits usize cursor.rest position field span).run
    (∀ span, read span = some ((readNumber field span cursor).map fun (value, taken) =>
      ((value : Int), position + taken))) ∧
    read .any = some (if run = [] then .error (.missingDigits field position)
      else decoded field position run) ∧
    (∀ limit, 1 ≤ limit → read (.atMost limit) =
      some (if run = [] then .error (.missingDigits field position)
        else decoded field position (run.take limit))) ∧
    (∀ n, 1 ≤ n → read (.exactly n) = some (if run.length = n then decoded field position run
      else .error (.digitCount field n run.length position))) ∧
    ∀ value width, run = padded width value → value ≤ 2 ^ 63 - 1 → 1 ≤ width →
      read .any = some (.ok (value, position + run.length)) ∧
      read (.exactly width) = some (if value < 10 ^ width then .ok (value, position + width)
        else .error (.digitCount field width run.length position)) := by
  obtain ⟨front, rfl, rfl⟩ := eq_append_of_dropBytes? hrest
  rw [byteLength_append] at hfits
  intro cursor read
  have hcursor : cursor = ⟨byteLength front, some (run ++ tail)⟩ := Cursor.seek_append _ _
  have hread : ∀ span, read span =
      (readDigits usize (run ++ tail) (byteLength front) field span).run := by
    intro span
    simp only [read, hcursor]
    rfl
  have hany := readDigits_any hne hd ht hfits field
  refine ⟨?_, (hread _).trans hany, fun limit hlimit => ?_, fun n hn => ?_, ?_⟩
  · intro span
    rw [hread, hcursor]
    exact readDigits_eq_readNumber ⟨byteLength front, some (run ++ tail)⟩ hfits field span
  · exact (hread _).trans (readDigits_atMost hne hd ht hfits field hlimit)
  · exact (hread _).trans (readDigits_exactly hne hd ht hfits field hn)
  · rintro value width rfl hmax hwidth
    have hdecoded := decoded_padded field (byteLength front) hmax width
    rw [hread, hread, hany, if_neg (padded_ne_nil width value), hdecoded,
      readDigits_exactly hne hd ht hfits field hwidth, hdecoded]
    refine ⟨rfl, congrArg some ?_⟩
    by_cases hfit : value < 10 ^ width
    · have hlen := length_padded_of_lt hwidth hfit
      rw [if_pos hlen, if_pos hfit, hlen]
    · rw [if_neg fun hlen => hfit ((length_padded_eq_iff hwidth).1 hlen), if_neg hfit]

/-- The largest number that is read, with zeros before it and a letter on each side, and the number
after it. -/
theorem readDigits_exact_largest :
    let text := "ä00000009223372036854775807h".toList
    let run := "00000009223372036854775807".toList
    let read (span : DigitSpan) := (readDigits ⟨64⟩ (Cursor.seek text 2).rest 2 .year span).run
    (byteLength text < 2 ^ 64 ∧ dropBytes? text 2 = some (run ++ "h".toList) ∧
      (∀ c ∈ run, c.isDigit) ∧ run = padded 26 9223372036854775807 ∧
      read .any = some (.ok (9223372036854775807, 28)) ∧
      read (.atMost 3) = some (.ok (0, 5)) ∧
      read (.exactly 2) = some (.error (.digitCount .year 2 26 2)) ∧
      read (.exactly 26) = some (.ok (9223372036854775807, 28))) ∧
    (readDigits ⟨64⟩ (Cursor.seek "9223372036854775808".toList 0).rest 0 .year .any).run =
      some (.error (.numberTooLarge .year 0)) := by
  intro text run read
  have hfits : byteLength text < 2 ^ 64 := by decide
  have hrest : dropBytes? text 2 = some (run ++ "h".toList) := by decide
  have hd : ∀ c ∈ run, c.isDigit := List.all_eq_true.1 (by decide)
  have ht : ∀ c ∈ "h".toList.head?, c.isDigit = false := by simp
  have hpadded : run = padded 26 9223372036854775807 := by decide +kernel
  obtain ⟨-, -, hatMost, hexactly, hback⟩ :=
    readDigits_exact ⟨64⟩ hfits hrest (by decide) hd ht .year
  obtain ⟨hany, hwhole⟩ := hback _ _ hpadded (by decide) (by decide)
  refine ⟨⟨hfits, hrest, hd, hpadded, hany, (hatMost 3 (by decide)).trans (by decide +kernel),
    (hexactly 2 (by decide)).trans rfl, hwhole⟩, ?_⟩
  have hnext : dropBytes? "9223372036854775808".toList 0 =
      some ("9223372036854775808".toList ++ []) := by decide
  obtain ⟨-, hlarge, -⟩ := readDigits_exact ⟨64⟩ (by decide) hnext (by decide)
    (List.all_eq_true.1 (by decide)) nofun .year
  exact hlarge.trans (by decide +kernel)

end Machine

end DatePattern

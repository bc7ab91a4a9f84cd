import DatePattern.Machine.Parse
import DatePattern.Pattern.ByLetter
import DatePattern.Proofs.Pattern.LongestName

/-! # Numbers and names are read within machine integers

A number is appended to digit by digit, and is too large for its type as soon as one of its fronts
is.  A position only moves over what is left of the text, so it fits wherever the whole text does.

* `digitsValue_gives`: the number that digits denote, or the error that it is too large.
* `readDigits_gives`, `readName_gives`: what is read, and the position after it. -/

namespace DatePattern

theorem le_ofDigitChars (digits : List Char) (value : Nat) :
    value ≤ Nat.ofDigitChars 10 digits value := by
  rw [Nat.ofDigitChars_eq_ofDigitChars_zero]
  have hpow : 1 * value ≤ 10 ^ digits.length * value :=
    Nat.mul_le_mul_right value (Nat.pow_pos (by decide))
  omega

theorem toNat_bounds_of_isDigit {c : Char} (h : c.isDigit) : 48 ≤ c.toNat ∧ c.toNat ≤ 57 := by
  simp only [Char.isDigit, Bool.and_eq_true, decide_eq_true_eq] at h
  exact h

theorem utf8Size_of_isDigit {c : Char} (h : c.isDigit) : c.utf8Size = 1 := by
  have h57 := (toNat_bounds_of_isDigit h).2
  exact Char.utf8Size_eq_one_iff.2 (UInt32.le_iff_toNat_le.2 (h57.trans (by decide)))

/-- Digits are bytes. -/
theorem byteLength_of_isDigit {digits : List Char} (h : ∀ c ∈ digits, c.isDigit) :
    byteLength digits = digits.length := by
  induction digits with
  | nil => rfl
  | cons c digits ih =>
      obtain ⟨hc, hdigits⟩ := List.forall_mem_cons.1 h
      rw [byteLength_cons, ih hdigits, utf8Size_of_isDigit hc, List.length_cons, Nat.add_comm]

/-- Past digits the position grows by as many as there are. -/
theorem Cursor.position_advance_of_digits {cursor : Cursor} {digits : List Char}
    (hfront : digits <+: cursor.rest) (hd : ∀ c ∈ digits, c.isDigit) :
    (cursor.advance digits.length).position = cursor.position + digits.length := by
  rw [advance, ← List.prefix_iff_eq_take.1 hfront, byteLength_of_isDigit hd]

theorem byteLength_front_le {front text : List Char} (h : front <+: text) :
    byteLength front ≤ byteLength text := by
  obtain ⟨tail, rfl⟩ := h
  rw [byteLength_append]
  exact Nat.le_add_right _ _

namespace Machine

open Program

/-! ### Numbers -/

theorem appendDigit_gives (error : ParseError) {value : Nat} (hvalue : value ≤ maxNumber)
    {c : Char} (hc : c.isDigit) : (appendDigit error value c).Gives
      (if maxNumber < 10 * value + (c.toNat - '0'.toNat) then .error error
        else .ok (10 * value + (c.toNat - '0'.toNat) : Nat)) := by
  obtain ⟨h48, h57⟩ := toNat_bounds_of_isDigit hc
  have hzero : '0'.toNat = 48 := rfl
  rw [maxNumber] at hvalue ⊢
  rw [appendDigit, hzero]
  by_cases htens : 10 * value ≤ 9223372036854775807
  · refine .bind_ok (gives_okOr (i64.fit_eq (i64_holds.2 (by omega)))) ?_
    refine .bind_lift (u8.sub_eq h48 (lt_two_pow_u8_bits.2 (by omega))) ?_
    split
    · exact gives_okOr_none (i64.fit_eq_none (mt i64_holds.1 (by omega)))
    · refine gives_okOr ((i64.fit_eq (i64_holds.2 (by omega))).trans ?_)
      rw [Option.some_inj]
      omega
  · rw [if_pos (by omega)]
    exact .bind_error (gives_okOr_none (i64.fit_eq_none (mt i64_holds.1 (by omega))))

/-- Overflow at some digit is overflow of the whole number, as the value only grows. -/
theorem foldlM_appendDigit_gives (error : ParseError) : ∀ {digits : List Char} {value : Nat},
    (∀ c ∈ digits, c.isDigit) → value ≤ maxNumber →
      (digits.foldlM (appendDigit error) (value : Int)).Gives
        (if maxNumber < Nat.ofDigitChars 10 digits value then .error error
          else .ok (Nat.ofDigitChars 10 digits value : Nat))
  | [], value, _, hvalue => by
      rw [List.foldlM_nil, Nat.ofDigitChars_nil, if_neg (Nat.not_lt.2 hvalue)]
      exact gives_pure _
  | c :: digits, value, hd, hvalue => by
      obtain ⟨hc, hdigits⟩ := List.forall_mem_cons.1 hd
      have hstep := appendDigit_gives error hvalue hc
      have hgrows := le_ofDigitChars digits (10 * value + (c.toNat - '0'.toNat))
      rw [List.foldlM_cons, Nat.ofDigitChars_cons]
      split at hstep
      · rw [if_pos (by omega)]
        exact hstep.bind_error
      · exact hstep.bind_ok (foldlM_appendDigit_gives error hdigits (by omega))

theorem digitsValue_gives (error : ParseError) {digits : List Char}
    (h : ∀ c ∈ digits, c.isDigit) : (digitsValue error digits).Gives
      (if maxNumber < numeralValue digits then .error error else .ok (numeralValue digits : Nat)) :=
  foldlM_appendDigit_gives error h (Nat.zero_le _)

section
variable {usize : Unsigned} {cursor : Cursor}
  (hfits : cursor.position + byteLength cursor.rest < 2 ^ usize.bits)
include hfits

theorem position_add_of_digits {digits : List Char} (hfront : digits <+: cursor.rest)
    (hd : ∀ c ∈ digits, c.isDigit) :
    usize.add cursor.position digits.length = some (cursor.advance digits.length).position := by
  have hle := byteLength_front_le hfront
  rw [byteLength_of_isDigit hd] at hle
  rw [cursor.position_advance_of_digits hfront hd, usize.add_eq (by omega)]

theorem readDigits_gives (field : Field) (span : DigitSpan) :
    (readDigits usize cursor.rest cursor.position field span).Gives
      ((readNumber field span cursor).map fun (value, taken) =>
        ((value : Int), (cursor.advance taken).position)) := by
  rw [readDigits, readNumber]
  split
  · exact gives_throw _
  · dsimp only
    cases span.mismatch? (digitRun cursor.rest).length with
    | some expected => exact gives_throw _
    | none =>
        dsimp only
        have hfront : (digitRun cursor.rest).take (span.taken (digitRun cursor.rest).length) <+:
            cursor.rest := (List.take_prefix _ _).trans (List.takeWhile_prefix _)
        have hd : ∀ c ∈ (digitRun cursor.rest).take (span.taken (digitRun cursor.rest).length),
            c.isDigit := fun c hc => List.mem_takeWhile_imp (List.mem_of_mem_take hc)
        generalize (digitRun cursor.rest).take (span.taken (digitRun cursor.rest).length) = digits
          at hfront hd ⊢
        split
        · exact .bind_error (gives_throw _)
        · have hvalue := digitsValue_gives (.numberTooLarge field cursor.position) hd
          by_cases hmax : maxNumber < numeralValue digits
          · rw [if_pos hmax] at hvalue ⊢
            exact .bind_error hvalue
          · rw [if_neg hmax] at hvalue ⊢
            refine .bind_ok hvalue (.bind_lift (position_add_of_digits hfits hfront hd) ?_)
            exact gives_pure _

theorem readBounded_gives (field : Field) (len min max : Nat) :
    (readBounded usize cursor.rest cursor.position field (.ofLength len) min max).Gives
      ((DatePattern.readBounded field len min max cursor).map fun (value, taken) =>
        ((value : Int), (cursor.advance taken).position)) := by
  refine (readDigits_gives hfits field (.ofLength len)).bind_map ?_
  rintro ⟨value, taken⟩ -
  have hbounds : ((value : Int) < min ∨ (max : Int) < value) ↔ value < min ∨ max < value := by
    omega
  simp only [hbounds]
  split
  · exact .bind_error (gives_throw _)
  · exact gives_pure _

end

/-! ### Names -/

section
variable {usize : Unsigned} {rest : List Char} {position : Nat}

/-- The characters that spell a name are counted as they are compared. -/
theorem prefixLength_eq : ∀ {name rest : List Char} {consumed : Nat},
    consumed + byteLength rest < 2 ^ usize.bits →
      prefixLength usize name rest consumed =
        some (if beginsWith rest name then some (consumed + byteLength (rest.take name.length))
          else none)
  | [], rest, consumed, _ => by
      cases rest <;> simp [prefixLength, beginsWith]
  | n :: name, [], consumed, _ => by simp [prefixLength, beginsWith]
  | n :: name, c :: rest, consumed, h => by
      rw [byteLength_cons] at h
      rw [prefixLength, beginsWith]
      cases sameLetter c n with
      | false => rfl
      | true =>
          have hadd : usize.add consumed c.utf8Size = some (consumed + c.utf8Size) :=
            usize.add_eq (by omega)
          rw [if_pos rfl, hadd, some_bind, prefixLength_eq (by omega), Bool.true_and,
            List.length_cons, List.take_succ_cons, byteLength_cons, Nat.add_assoc]

theorem firstName_eq (hfits : byteLength rest < 2 ^ usize.bits) (names : List Name) :
    firstName usize rest names =
      some ((names.find? fun name => beginsWith rest name.text).map fun name =>
        (name.index, byteLength (rest.take name.text.length))) := by
  induction names with
  | nil => rfl
  | cons name later ih =>
      rw [firstName, prefixLength_eq (by omega), some_bind, List.find?_cons]
      cases beginsWith rest name.text with
      | true => simp
      | false => simpa using ih

theorem add_byteLength_take (hfits : position + byteLength rest < 2 ^ usize.bits) (count : Nat) :
    usize.add position (byteLength (rest.take count)) =
      some (position + byteLength (rest.take count)) := by
  have hle := byteLength_front_le (List.take_prefix count rest)
  exact usize.add_eq (by omega)

end

theorem readName_gives {usize : Unsigned} {cursor : Cursor}
    (hfits : cursor.position + byteLength cursor.rest < 2 ^ usize.bits) (locale : Option Locale)
    (field : NameField) :
    (readName usize locale cursor.rest cursor.position field).Gives
      ((DatePattern.readName locale field cursor).map fun (index, taken) =>
        (index, (cursor.advance taken).position)) := by
  rw [DatePattern.readName, ← NameField.recognizeFirst_eq, NameField.recognizeFirst]
  simp only [Cursor.advance]
  generalize cursor.rest = rest at hfits ⊢
  cases rest with
  | nil => exact gives_throw _
  | cons first tail =>
      rw [if_neg (List.cons_ne_nil first tail)]
      refine .bind_lift (firstName_eq (by omega) (field.candidates locale)) ?_
      cases (field.candidates locale).find? fun name => beginsWith (first :: tail) name.text with
      | some name => exact .bind_lift (add_byteLength_take hfits _) (gives_pure _)
      | none =>
          have hadd := add_byteLength_take hfits 1
          rw [List.take_succ_cons, byteLength_cons, List.take_zero, byteLength_nil] at hadd
          cases matchInitial (first :: tail) field.initials with
          | none => exact .bind_error (gives_okOr_none rfl)
          | some index => exact .bind_ok (gives_okOr rfl) (.bind_lift hadd (gives_pure _))

end Machine

end DatePattern

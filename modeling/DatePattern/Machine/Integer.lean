import Mathlib.Algebra.Group.Int.Defs
import Mathlib.Algebra.Group.Nat.Defs

/-! # Machine integers

Integers of a fixed number of bits.  An operation computes exactly, and gives none where a program
would go wrong: where the exact result is not a number of the type, or where there is none.

A program in these operations gives none as soon as one of them does, unless it asks first
(`okOr`).  So a program that gives something has kept every number on the way within its type. -/

namespace DatePattern.Machine

/-! ### Signed types -/

/-- Signed integers of so many bits. -/
structure Signed where
  bits : Nat

def i64 : Signed := ⟨64⟩
def i128 : Signed := ⟨128⟩

namespace Signed

variable (type : Signed)

/-- The type has the number. -/
def Holds (n : Int) : Prop := -2 ^ (type.bits - 1) ≤ n ∧ n < 2 ^ (type.bits - 1)

instance (n : Int) : Decidable (type.Holds n) := by
  unfold Holds; infer_instance

/-- The number, if the type has it. -/
def fit (n : Int) : Option Int := if type.Holds n then some n else none

def add (a b : Int) : Option Int := type.fit (a + b)
def sub (a b : Int) : Option Int := type.fit (a - b)
def mul (a b : Int) : Option Int := type.fit (a * b)
def abs (a : Int) : Option Int := type.fit a.natAbs

/-- Quotient, rounded towards zero. -/
def div (a b : Int) : Option Int := if b = 0 then none else type.fit (a.tdiv b)

/-- What `div` leaves over. -/
def rem (a b : Int) : Option Int := (type.div a b).map fun _ => a.tmod b

/-- Quotient that leaves no negative remainder. -/
def divEuclid (a b : Int) : Option Int := if b = 0 then none else type.fit (a / b)

/-- What `divEuclid` leaves over. -/
def remEuclid (a b : Int) : Option Int := (type.divEuclid a b).map fun _ => a % b

section
variable {n a b : Int}

theorem fit_eq (h : type.Holds n) : type.fit n = some n := if_pos h

theorem fit_eq_none (h : ¬ type.Holds n) : type.fit n = none := if_neg h

theorem div_eq (hb : 0 < b) (ha : 0 ≤ a) (h : type.Holds a) : type.div a b = some (a / b) := by
  obtain ⟨-, hupper⟩ := h
  have hle : a / b ≤ a := Int.ediv_le_self b ha
  have hnonneg : 0 ≤ a / b := Int.ediv_nonneg ha (Int.le_of_lt hb)
  rw [div, if_neg (Int.ne_of_gt hb), Int.tdiv_eq_ediv_of_nonneg ha]
  exact type.fit_eq ⟨by omega, by omega⟩

theorem rem_eq (hb : 0 < b) (ha : 0 ≤ a) (h : type.Holds a) : type.rem a b = some (a % b) := by
  rw [rem, type.div_eq hb ha h, Int.tmod_eq_emod_of_nonneg ha]
  rfl

theorem divEuclid_eq (hb : 0 < b) (h : type.Holds a) : type.divEuclid a b = some (a / b) := by
  obtain ⟨hlower, hupper⟩ := h
  have habs : (a / b).natAbs ≤ a.natAbs := Int.natAbs_ediv_le_natAbs a b
  have hneg : a < 0 → a / b < 0 := fun ha => Int.ediv_neg_of_neg_of_pos ha hb
  rw [divEuclid, if_neg (Int.ne_of_gt hb)]
  exact type.fit_eq ⟨by omega, by omega⟩

theorem remEuclid_eq (hb : 0 < b) (h : type.Holds a) : type.remEuclid a b = some (a % b) := by
  rw [remEuclid, type.divEuclid_eq hb h]
  rfl

end

end Signed

theorem i64_holds {n : Int} :
    i64.Holds n ↔ -9223372036854775808 ≤ n ∧ n ≤ 9223372036854775807 := by
  change -2 ^ 63 ≤ n ∧ n < 2 ^ 63 ↔ _
  omega

theorem i128_holds {n : Int} :
    i128.Holds n ↔ -170141183460469231731687303715884105728 ≤ n ∧
      n ≤ 170141183460469231731687303715884105727 := by
  change -2 ^ 127 ≤ n ∧ n < 2 ^ 127 ↔ _
  omega

/-! ### Unsigned types -/

/-- Natural numbers of so many bits. -/
structure Unsigned where
  bits : Nat

def u8 : Unsigned := ⟨8⟩
def u16 : Unsigned := ⟨16⟩

namespace Unsigned

variable (type : Unsigned)

/-- The number, if the type has it. -/
def fit (n : Nat) : Option Nat := if n < 2 ^ type.bits then some n else none

def add (a b : Nat) : Option Nat := type.fit (a + b)
def sub (a b : Nat) : Option Nat := if b ≤ a then type.fit (a - b) else none
def rem (a b : Nat) : Option Nat := if b = 0 then none else type.fit (a % b)

/-- A number of another type in this one; none where the cast would change it. -/
def cast (n : Int) : Option Nat := if 0 ≤ n then type.fit n.toNat else none

section
variable {n a b : Nat}

theorem fit_eq (h : n < 2 ^ type.bits) : type.fit n = some n := if_pos h

theorem add_eq (h : a + b < 2 ^ type.bits) : type.add a b = some (a + b) := type.fit_eq h

theorem sub_eq (hb : b ≤ a) (h : a < 2 ^ type.bits) : type.sub a b = some (a - b) := by
  rw [sub, if_pos hb, type.fit_eq (Nat.lt_of_le_of_lt (Nat.sub_le a b) h)]

theorem rem_eq (hb : 0 < b) (h : a < 2 ^ type.bits) : type.rem a b = some (a % b) := by
  rw [rem, if_neg (Nat.ne_of_gt hb), type.fit_eq (Nat.lt_of_le_of_lt (Nat.mod_le a b) h)]

theorem cast_eq {n : Int} (h : 0 ≤ n) (h' : n.toNat < 2 ^ type.bits) :
    type.cast n = some n.toNat := by
  rw [cast, if_pos h, type.fit_eq h']

theorem cast_natCast (h : n < 2 ^ type.bits) : type.cast n = some n :=
  type.cast_eq (Int.natCast_nonneg n) h

end

end Unsigned

theorem lt_two_pow_u8_bits {n : Nat} : n < 2 ^ u8.bits ↔ n ≤ 255 := Nat.lt_succ_iff

theorem lt_two_pow_u16_bits {n : Nat} : n < 2 ^ u16.bits ↔ n ≤ 65535 := Nat.lt_succ_iff

/-! ### Programs -/

/-- A program that may give none, and may end in an error. -/
abbrev Program (ε α : Type) := ExceptT ε Option α

/-- A checked result: an error in place of none. -/
def okOr {ε α : Type} (result : Option α) (error : ε) : Program ε α :=
  match result with
  | some a => pure a
  | none => throw error

section
variable {ε α β : Type} {m : Option α} {a : α}

/-- A program goes on with what a part of it gives. -/
theorem bind_of (h : m = some a) (f : α → Option β) : m >>= f = f a := by
  subst h
  rfl

-- not by `rfl`, which would have the kernel compare numbers with the bounds of their types
theorem some_bind (a : α) (f : α → Option β) : some a >>= f = f a := bind_of rfl f

end

namespace Program

variable {ε α β : Type} {p : Program ε α} {f : α → Program ε β} {a : α} {e : ε}
  {result : Except ε β}

/-- The program gives something, and this is what it comes to. -/
def Gives (p : Program ε α) (result : Except ε α) : Prop := p.run = some result

theorem gives_pure (a : α) : Gives (pure a : Program ε α) (.ok a) := rfl

theorem gives_throw (e : ε) : Gives (throw e : Program ε α) (.error e) := rfl

theorem gives_liftExcept (result : Except ε α) : Gives (liftM result : Program ε α) result := rfl

theorem gives_lift {m : Option α} (h : m = some a) : Gives (liftM m : Program ε α) (.ok a) := by
  subst h
  rfl

theorem gives_okOr {m : Option α} (h : m = some a) : (okOr m e).Gives (.ok a) := by
  subst h
  rfl

theorem gives_okOr_none {m : Option α} (h : m = none) : (okOr m e).Gives (.error e) := by
  subst h
  rfl

theorem Gives.trans {other : Except ε α} {result : Except ε α} (h : p.Gives other)
    (heq : other = result) : p.Gives result := heq ▸ h

theorem Gives.run_bind (h : p.Gives (.ok a)) (f : α → Program ε β) :
    (p >>= f).run = (f a).run := by
  change p.run >>= ExceptT.bindCont f = _
  rw [h]
  rfl

theorem run_bind_none {m : Option α} (h : m = none) (f : α → Program ε β) :
    (liftM m >>= f : Program ε β).run = none := by
  subst h
  rfl

/-! #### Parts of a program -/

theorem Gives.bind_ok (h : p.Gives (.ok a)) (hf : (f a).Gives result) : (p >>= f).Gives result :=
  (h.run_bind f).trans hf

theorem Gives.bind_error (h : p.Gives (.error e)) : (p >>= f).Gives (.error e) := by
  change p.run >>= ExceptT.bindCont f = _
  rw [h]
  rfl

theorem Gives.bind_lift {m : Option α} (h : m = some a) (hf : (f a).Gives result) :
    (liftM m >>= f : Program ε β).Gives result :=
  (gives_lift h).bind_ok hf

/-- A program goes right when each of its parts does. -/
theorem Gives.bind {x : Except ε α} {g : α → Except ε β} (h : p.Gives x)
    (hf : ∀ a, x = .ok a → (f a).Gives (g a)) : (p >>= f).Gives (x >>= g) := by
  cases x with
  | ok a => exact h.bind_ok (hf a rfl)
  | error e => exact h.bind_error

/-- The same where what the parts come to is only compared after a change of form. -/
theorem Gives.bind_map {γ δ : Type} {x : Except ε γ} {g : γ → Except ε δ} {φ : γ → α} {ψ : δ → β}
    (h : p.Gives (x.map φ)) (hf : ∀ c, x = .ok c → (f (φ c)).Gives ((g c).map ψ)) :
    (p >>= f).Gives ((x >>= g).map ψ) := by
  cases x with
  | ok c => exact h.bind_ok (hf c rfl)
  | error e => exact h.bind_error

theorem Gives.map {x : Except ε α} (h : p.Gives x) (g : α → β) :
    Gives (do return g (← p)) (x.map g) := by
  cases x with
  | ok a => exact h.bind_ok (gives_pure _)
  | error e => exact h.bind_error

theorem Gives.adapt {ε' : Type} {result : Except ε α} (h : p.Gives result) (g : ε → ε') :
    Gives (ExceptT.adapt g p) (result.mapError g) := by
  rw [Gives] at h
  change p.run.map (Except.mapError g) = _
  rw [h]
  rfl

end Program

end DatePattern.Machine

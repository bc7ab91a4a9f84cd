import DatePattern.Text.Numeral

/-! # Real numbers in double precision

A decimal numeral, the double-precision number as which it is read, and the text of that number
with the fewest digits that read back.

* `Decimal.ofNumeral`: the parts of a numeral.
* `Double.ofRatio`: the double nearest to a ratio, the even one of two equally near.
* `Decimal.double`: the double as which a numeral is read.
* `Double.shortest`, `Double.text`: the digits chosen for a double, and how they are laid out.

All arithmetic is exact; a double is a magnitude `mantissa * 2 ^ exponent`, signs are kept apart,
and magnitudes beyond the largest double do not occur. -/

namespace DatePattern

/-- The numeral `digits * 10 ^ exponent`, with its sign. -/
structure Decimal where
  negative : Bool
  digits : Nat
  exponent : Int
deriving DecidableEq, Repr

/-- The parts of a numeral: an optional minus sign, digits with an optional point, and optionally
an `e` with a signed exponent. -/
def Decimal.ofNumeral (text : List Char) : Decimal :=
  let unsigned := text.dropWhile (· == '-')
  let mantissa := unsigned.takeWhile fun c => c != 'e' && c != 'E'
  let power := unsigned.drop (mantissa.length + 1)
  let places := (mantissa.dropWhile (· != '.')).drop 1
  let magnitude : Int := numeralValue (power.filter Char.isDigit)
  { negative := text.head? == some '-'
    digits := numeralValue (mantissa.filter Char.isDigit)
    exponent := (if power.head? == some '-' then -magnitude else magnitude) - places.length }

/-- The magnitude `mantissa * 2 ^ exponent`. -/
structure Double where
  mantissa : Nat
  exponent : Int
deriving DecidableEq, Repr

namespace Double

/-- Bits of the mantissa of a large enough double. -/
def precision : Nat := 53

/-- Smallest exponent. -/
def minExponent : Int := -1074

/-! ### Rounding -/

/-- The whole number nearest to a ratio, the even one of two equally near. -/
def roundHalfEven (num den : Nat) : Nat :=
  if 2 * (num % den) < den ∨ 2 * (num % den) = den ∧ num / den % 2 = 0 then num / den
  else num / den + 1

/-- A ratio measured in units of a power of two. -/
def scaled (num den : Nat) (exponent : Int) : Nat × Nat :=
  (num * Nat.pow 2 (-exponent).toNat, den * Nat.pow 2 exponent.toNat)

/-- Exponent of the last place of the double nearest to a ratio. -/
def lastPlace (num den : Nat) : Int :=
  let guess := max ((num.log2 : Int) - den.log2 - precision) minExponent
  let (n, d) := scaled num den guess
  if n / d < Nat.pow 2 precision then guess else guess + 1

/-- The double nearest to a ratio. -/
def ofRatio (num den : Nat) : Double :=
  let exponent := lastPlace num den
  let (n, d) := scaled num den exponent
  let mantissa := roundHalfEven n d
  if mantissa = Nat.pow 2 precision then ⟨Nat.pow 2 (precision - 1), exponent + 1⟩
  else ⟨mantissa, exponent⟩

/-- Numerator of a double as a ratio. -/
def num (x : Double) : Nat := x.mantissa * Nat.pow 2 x.exponent.toNat

/-- Denominator of a double as a ratio. -/
def den (x : Double) : Nat := Nat.pow 2 (-x.exponent).toNat

/-- Product, rounded. -/
def mul (x y : Double) : Double := ofRatio (x.num * y.num) (x.den * y.den)

/-- Quotient, rounded. -/
def div (x y : Double) : Double := ofRatio (x.num * y.den) (x.den * y.num)

/-- A power of ten, rounded. -/
def powerOfTen (n : Nat) : Double := ofRatio (Nat.pow 10 n) 1

end Double

/-! ### Reading a numeral -/

namespace Decimal

/-- Largest exponent of ten that a double reaches. -/
def maxPower : Nat := 308

/-- Trailing digits dropped to let the leading ones fit 64 bits. -/
def droppedDigits (digits : Nat) : Nat :=
  ((List.range (numeral digits).length).find? fun n => digits / Nat.pow 10 n < Nat.pow 2 64).getD 0

/-- The double as which a numeral is read: its leading digits, the power of ten and their product
or quotient are each rounded in turn. -/
def double (d : Decimal) : Double :=
  let dropped := droppedDigits d.digits
  let exponent := d.exponent + dropped
  let lead := Double.ofRatio (d.digits / Nat.pow 10 dropped) 1
  let power := exponent.natAbs
  if 0 ≤ exponent then lead.mul (.powerOfTen power)
  else if power ≤ maxPower then lead.div (.powerOfTen power)
  else if power ≤ 2 * maxPower then
    (lead.div (.powerOfTen maxPower)).div (.powerOfTen (power - maxPower))
  else .ofRatio 0 1

end Decimal

/-! ### Writing a double -/

namespace Double

/-- The multiple of a power of ten that reads back as the double and is nearest to it, the even one
of two equally near; none when no multiple of that power reads back.

The numbers that read back reach half-way to the neighbours of the double, the half-way points
included when the mantissa is even; in quarters of the last place they lie from `low` to `high`. -/
def onGrid? (x : Double) (power : Int) : Option Nat :=
  let atBinade := x.mantissa = Nat.pow 2 (precision - 1) ∧ minExponent < x.exponent
  let low := if atBinade then 4 * x.mantissa - 1 else 4 * x.mantissa - 2
  let high := 4 * x.mantissa + 2
  let quarter := Nat.pow 2 (x.exponent - 2).toNat * Nat.pow 10 (-power).toNat
  let step := Nat.pow 2 (2 - x.exponent).toNat * Nat.pow 10 power.toNat
  let readsBack := fun (n : Nat) =>
    if x.mantissa % 2 = 0 then low * quarter ≤ n * step ∧ n * step ≤ high * quarter
    else low * quarter < n * step ∧ n * step < high * quarter
  let below := 4 * x.mantissa * quarter / step
  if readsBack below ∧ readsBack (below + 1) then
    some (roundHalfEven (4 * x.mantissa * quarter) step)
  else if readsBack below then some below
  else if readsBack (below + 1) then some (below + 1)
  else none

/-- Digits and power of ten of the shortest numeral that reads back. -/
def shortest (x : Double) : Nat × Int :=
  if x.mantissa = 0 then (0, 0)
  else
    let powers := (List.range 633).map fun (n : Nat) => (308 : Int) - n
    (powers.findSome? fun power => (x.onGrid? power).map (·, power)).getD (0, 0)

/-! ### Layout -/

/-- Smallest exponent of the leading digit with which a numeral is written positionally. -/
def positionalFrom : Int := -5

/-- Largest exponent of the leading digit with which a numeral is written positionally. -/
def positionalTo : Int := 15

/-- The numeral `digits * 10 ^ power` with all its places; whole numbers end in `.0`. -/
def positional (digits : Nat) (power : Int) : List Char :=
  if 0 ≤ power then numeral digits ++ List.replicate power.toNat '0' ++ ['.', '0']
  else
    let places := power.natAbs
    let shown := padded (places + 1) digits
    shown.take (shown.length - places) ++ '.' :: shown.drop (shown.length - places)

/-- The digits with a point after the first one, if more follow, and the exponent of the first
digit, which always has a sign. -/
def scientific (digits : Nat) (exponent : Int) : List Char :=
  let shown := numeral digits
  let fraction := shown.drop 1
  shown.take 1 ++ (if fraction = [] then [] else '.' :: fraction)
    ++ 'e' :: (if exponent < 0 then '-' else '+') :: numeral exponent.natAbs

/-- The shortest numeral, written positionally unless it is very large or very small. -/
def text (x : Double) : List Char :=
  let (digits, power) := x.shortest
  let exponent := power + (numeral digits).length - 1
  if positionalFrom ≤ exponent ∧ exponent ≤ positionalTo then positional digits power
  else scientific digits exponent

end Double

end DatePattern

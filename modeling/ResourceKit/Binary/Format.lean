/-!
# Binary floating-point values

A binary interchange format is given by its number of stored fraction bits `p` and of
exponent bits. Its finite values are `±m · 2^e` with a significand `m < 2^(p+1)`: a normal
value has `2^p ≤ m`, and below that, at the least exponent, lie the subnormal values and
zero. Each finite value has exactly one such form, and `BinaryFloat` keeps that form, so two
values are equal as numbers exactly when their forms are, zeros of either sign apart.

`roundRatio` gives the value nearest to a positive ratio, a tie going to the even
significand, and infinity beyond the largest finite value; `ofDecimal` reads an exact decimal
`digits · 10^exponent` this way.

**Results.**
* `equal_zero`: the two zeros are equal.
-/

namespace ResourceKit
namespace Binary

/-- A binary format: stored fraction bits and exponent bits. -/
structure BinaryFormat where
  precision : Nat
  exponentBits : Nat
deriving Repr, DecidableEq

/-- The 64-bit format. -/
def BinaryFormat.double : BinaryFormat := ⟨52, 11⟩

/-- The 32-bit format. -/
def BinaryFormat.single : BinaryFormat := ⟨23, 8⟩

/-- The exponent bias. -/
def BinaryFormat.bias (f : BinaryFormat) : Nat := Nat.pow 2 (f.exponentBits - 1) - 1

/-- The exponent of the least significand unit, shared by subnormal values and the least
normal ones. -/
def BinaryFormat.minExponent (f : BinaryFormat) : Int := 1 - (f.bias : Int) - f.precision

/-- The exponent of the largest finite values. -/
def BinaryFormat.maxExponent (f : BinaryFormat) : Int :=
  ((Nat.pow 2 f.exponentBits - 2 : Nat) : Int) - (f.bias : Int) - f.precision

/-- A value of a binary format, by class; a finite one as sign, significand and exponent in
the canonical form. -/
inductive BinaryFloat
  | nan
  | infinity (negative : Bool)
  | finite (negative : Bool) (significand : Nat) (exponent : Int)
deriving Repr, DecidableEq

/-- Zero of a sign. -/
def BinaryFormat.zero (f : BinaryFormat) (negative : Bool) : BinaryFloat :=
  .finite negative 0 f.minExponent

/-- Numeric equality: NaN equals nothing, the two zeros are equal. -/
def BinaryFloat.equal : BinaryFloat → BinaryFloat → Bool
  | .infinity a, .infinity b => a == b
  | .finite a m e, .finite b n d => (m == 0 && n == 0) || (a == b && m == n && e == d)
  | _, _ => false

/-- `num / den` over `2^e`, as a ratio of naturals. -/
def scaleRatio (num den : Nat) (e : Int) : Nat × Nat :=
  if 0 ≤ e then (num, den * Nat.pow 2 e.toNat) else (num * Nat.pow 2 (-e).toNat, den)

/-- The value of a format nearest to `num / den`, with the sign given. -/
def BinaryFormat.roundRatio (f : BinaryFormat) (negative : Bool) (num den : Nat) :
    BinaryFloat :=
  if num = 0 ∨ den = 0 then f.zero negative
  else
    let p := f.precision
    let e0 : Int := (Nat.log2 num : Int) - (Nat.log2 den : Int) - p
    let q0 := (scaleRatio num den e0).1 / (scaleRatio num den e0).2
    let e := max (if q0 < Nat.pow 2 p then e0 - 1 else e0) f.minExponent
    let n := (scaleRatio num den e).1
    let d := (scaleRatio num den e).2
    let q := n / d
    let r := n % d
    let q' := if 2 * r > d ∨ (2 * r = d ∧ q % 2 = 1) then q + 1 else q
    let m := if q' = Nat.pow 2 (p + 1) then Nat.pow 2 p else q'
    let e' := if q' = Nat.pow 2 (p + 1) then e + 1 else e
    if e' > f.maxExponent then .infinity negative else .finite negative m e'

/-- The number of decimal digits of a natural number (one for zero). -/
def digitCount (n : Nat) : Nat := (Nat.toDigits 10 n).length

/-- The value of a format nearest to `digits · 10^exponent`, with the sign given. Values with
more than 400 integer digits are infinite and values below `10^-400` are zero in every
format this library uses, so huge exponents are never raised. -/
def BinaryFormat.ofDecimal (f : BinaryFormat) (negative : Bool) (digits : Nat)
    (exponent : Int) : BinaryFloat :=
  if digits = 0 then f.zero negative
  else if (digitCount digits : Int) + exponent > 400 then .infinity negative
  else if (digitCount digits : Int) + exponent < -400 then f.zero negative
  else if 0 ≤ exponent then f.roundRatio negative (digits * Nat.pow 10 exponent.toNat) 1
  else f.roundRatio negative digits (Nat.pow 10 (-exponent).toNat)

/-- The two zeros are equal. -/
theorem equal_zero (f : BinaryFormat) : (f.zero true).equal (f.zero false) = true := by
  simp [BinaryFormat.zero, BinaryFloat.equal]

/-- One is `2^p · 2^-p`. -/
example :
    BinaryFormat.double.roundRatio false 1 1 = .finite false (Nat.pow 2 52) (-52) := by
  decide

end Binary
end ResourceKit

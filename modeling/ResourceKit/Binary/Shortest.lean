import ResourceKit.Binary.Format

/-!
# Shortest decimal text of a binary value

A finite non-zero value `v = m · 2^e` reads back from every decimal in its *rounding
interval*. The interval is `[v - u/2, v + u/2]`, with `u` the gap to the neighbouring
values, except at a power-of-two significand, where the gap below is taken as a quarter of
`u`; its ends belong to it exactly when `m` is even.

The text chosen is the decimal with the fewest significant digits in that interval, and of
two such the one nearer to `v`, the larger on a tie. If some `n`-digit decimal lies in the
interval, so does one of the two `n`-digit neighbours of `v`, so trying `n = 1, 2, …` and
those two neighbours finds it. The digits are written out in full, never with an exponent:
`0.00…d` below one, with a point inside them, or followed by zeros; an integral value has no
point.
-/

namespace ResourceKit
namespace Binary

/-- A rounding interval on the scale `2^exp`: the value `mant`, how far the interval reaches
below and above it, and whether its ends belong to it. -/
structure Interval where
  mant : Nat
  minus : Nat
  plus : Nat
  exp : Int
  inclusive : Bool
deriving Repr

/-- The rounding interval of a finite non-zero value `m · 2^e` of a format. -/
def BinaryFormat.interval (f : BinaryFormat) (m : Nat) (e : Int) : Interval :=
  if m = Nat.pow 2 f.precision then ⟨4 * m, 1, 2, e - 2, m % 2 = 0⟩
  else ⟨2 * m, 1, 1, e - 1, m % 2 = 0⟩

/-- Powers: `10^max j 0 · 2^max (-exp) 0` and `2^max exp 0 · 10^max (-j) 0`, so that
`g · 10^j` compares with `x · 2^exp` as `g · P` with `x · Q`. -/
def Interval.scales (i : Interval) (j : Int) : Nat × Nat :=
  (Nat.pow 10 (max j 0).toNat * Nat.pow 2 (max (-i.exp) 0).toNat,
   Nat.pow 2 (max i.exp 0).toNat * Nat.pow 10 (max (-j) 0).toNat)

/-- Whether `g · 10^j` lies in the interval. -/
def Interval.holds (i : Interval) (g : Nat) (j : Int) : Bool :=
  let (P, Q) := i.scales j
  if i.inclusive then (i.mant - i.minus) * Q ≤ g * P && g * P ≤ (i.mant + i.plus) * Q
  else (i.mant - i.minus) * Q < g * P && g * P < (i.mant + i.plus) * Q

/-- The least `k` with `num / den < 10^k`, for a positive ratio. -/
def decimalSize (num den : Nat) : Int :=
  if den ≤ num then digitCount (num / den)
  else
    let m := digitCount (den / num)
    if num * Nat.pow 10 (m - 1) = den then 1 - ((m : Int) - 1) else 1 - (m : Int)

/-- The `n`-digit decimal of the interval nearest to its value, if one of the value's two
`n`-digit neighbours lies in it: digits `g` and exponent `j` of `g · 10^j`. -/
def Interval.nearestWith (i : Interval) (n : Nat) : Option (Nat × Int) :=
  let k := decimalSize (i.mant * Nat.pow 2 (max i.exp 0).toNat) (Nat.pow 2 (max (-i.exp) 0).toNat)
  let j := k - n
  let (P, Q) := i.scales j
  let g := i.mant * Q / P
  match i.holds g j, i.holds (g + 1) j with
  | true, true => if (2 * g + 1) * P ≤ 2 * i.mant * Q then some (g + 1, j) else some (g, j)
  | true, false => some (g, j)
  | false, true => some (g + 1, j)
  | false, false => none

/-- A decimal `g · 10^j` without trailing zeros in `g`. -/
def trimZeros (g : Nat) (j : Int) (fuel : Nat) : Nat × Int :=
  match fuel with
  | 0 => (g, j)
  | fuel + 1 => if g ≠ 0 ∧ g % 10 = 0 then trimZeros (g / 10) (j + 1) fuel else (g, j)

/-- The shortest decimal of the interval, nearest its value: digits and exponent. -/
def Interval.shortest (i : Interval) : Nat × Int :=
  match (List.range' 1 40).findSome? i.nearestWith with
  | some (g, j) => trimZeros g j (digitCount g)
  | none => (i.mant, i.exp)

/-- The text of a natural number's decimal digits. -/
def digitsText (n : Nat) : String :=
  String.ofList (Nat.toDigits 10 n)

/-- Positional text of `0.d · 10^k` for a digit string `d`. -/
def layout (d : String) (k : Int) : String :=
  if k ≤ 0 then "0." ++ String.ofList (List.replicate (-k).toNat '0') ++ d
  else if k.toNat < d.length then
    String.ofList (d.toList.take k.toNat) ++ "." ++ String.ofList (d.toList.drop k.toNat)
  else d ++ String.ofList (List.replicate (k.toNat - d.length) '0')

/-- The text of a value of a format. -/
def BinaryFloat.display (f : BinaryFormat) : BinaryFloat → String
  | .nan => "NaN"
  | .infinity negative => if negative then "-inf" else "inf"
  | .finite negative m e =>
    let sign := if negative then "-" else ""
    if m = 0 then sign ++ "0"
    else
      let (g, j) := (f.interval m e).shortest
      let d := digitsText g
      sign ++ layout d (j + d.length)

/-- One is `1`. -/
example :
    (BinaryFormat.double.roundRatio false 1 1).display BinaryFormat.double = "1" := by
  decide +kernel

/-- The double nearest a tenth is `0.1`. -/
example :
    (BinaryFormat.double.ofDecimal false 1 (-1)).display BinaryFormat.double = "0.1" := by
  decide +kernel

end Binary
end ResourceKit

import ResourceKit.Binary.Format

/-!
# Reading binary values from text

The text of a value is an optional sign, then `inf`, `infinity` or `nan` in any case, or a
decimal: digits with an optional point (at least one digit on either side of it), then an
optional exponent `e` or `E` with an optional sign and at least one digit. Nothing else is
allowed, blanks included. A decimal is read exactly and rounded once to the format.
-/

namespace ResourceKit
namespace Binary

/-- Why text is not a value. -/
inductive FloatProblem
  | empty
  | invalid
deriving Repr, DecidableEq

/-- The text of a problem. -/
def FloatProblem.text : FloatProblem → String
  | .empty => "cannot parse float from empty string"
  | .invalid => "invalid float literal"

/-- The leading ASCII digits of a text and the rest. -/
def spanDigits (cs : List Char) : List Char × List Char :=
  (cs.takeWhile Char.isDigit, cs.dropWhile Char.isDigit)

/-- The value of ASCII digits. -/
def digitsValue (ds : List Char) : Nat :=
  ds.foldl (fun acc c => acc * 10 + (c.toNat - '0'.toNat)) 0

/-- The exponent part, without its `e`: an optional sign and at least one digit. -/
def exponentValue? (cs : List Char) : Option Int :=
  let (negative, body) := match cs with
    | '-' :: r => (true, r)
    | '+' :: r => (false, r)
    | r => (false, r)
  if body ≠ [] ∧ body.all Char.isDigit then
    some (if negative then -(digitsValue body : Int) else digitsValue body)
  else none

/-- A decimal without sign, as `digits · 10^exponent`. -/
def decimal? (cs : List Char) : Option (Nat × Int) :=
  let (whole, rest) := spanDigits cs
  let (fraction, rest) := match rest with
    | '.' :: r => spanDigits r
    | r => ([], r)
  if whole = [] ∧ fraction = [] then none
  else
    let mantissa := digitsValue (whole ++ fraction)
    match rest with
    | [] => some (mantissa, -(fraction.length : Int))
    | c :: r =>
      if c = 'e' ∨ c = 'E' then
        (exponentValue? r).map fun x => (mantissa, x - fraction.length)
      else none

/-- The value a text names in a format. -/
def BinaryFormat.parse (f : BinaryFormat) (s : String) : Except FloatProblem BinaryFloat :=
  let cs := s.toList
  if cs = [] then .error .empty
  else
    let (negative, body) := match cs with
      | '-' :: r => (true, r)
      | '+' :: r => (false, r)
      | r => (false, r)
    let lower := body.map Char.toLower
    if lower = "inf".toList ∨ lower = "infinity".toList then .ok (.infinity negative)
    else if lower = "nan".toList then .ok .nan
    else
      match decimal? body with
      | some (digits, exponent) => .ok (f.ofDecimal negative digits exponent)
      | none => .error .invalid

/-- `0x10` is not a decimal. -/
example : decimal? ['0', 'x', '1', '0'] = none := by
  decide

end Binary
end ResourceKit

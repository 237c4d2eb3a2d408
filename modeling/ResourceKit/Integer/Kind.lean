/-!
# Fixed-width integers and their decimal text

An integer kind is a width in bits and a signedness; its values run from `least` to
`greatest`. Decimal text is an optional sign (`-` only for signed kinds) and ASCII digits,
read left to right: the first character that is not a digit, or the first digit that takes
the value out of range, decides the error.

**Results.**
* `parse_minus_unsigned`: unsigned text with a minus sign has an invalid digit.
-/

namespace ResourceKit
namespace Integer

/-- A width in bits and a signedness. -/
structure IntKind where
  bits : Nat
  signed : Bool
deriving Repr, DecidableEq

/-- The least value of a kind. -/
def IntKind.least (k : IntKind) : Int :=
  if k.signed then -((Nat.pow 2 (k.bits - 1) : Nat) : Int) else 0

/-- The greatest value of a kind. -/
def IntKind.greatest (k : IntKind) : Int :=
  if k.signed then ((Nat.pow 2 (k.bits - 1) : Nat) : Int) - 1
  else ((Nat.pow 2 k.bits : Nat) : Int) - 1

/-- Why text is not a value of a kind. -/
inductive IntProblem
  | empty
  | invalidDigit
  | tooLarge
  | tooSmall
deriving Repr, DecidableEq

/-- The text of a problem. -/
def IntProblem.text : IntProblem → String
  | .empty => "cannot parse integer from empty string"
  | .invalidDigit => "invalid digit found in string"
  | .tooLarge => "number too large to fit in target type"
  | .tooSmall => "number too small to fit in target type"

/-- Digits read onto `acc`, going down for a negative number. -/
def IntKind.accumulate (k : IntKind) (negative : Bool) (acc : Int) :
    List Char → Except IntProblem Int
  | [] => .ok acc
  | c :: cs =>
    if c.isDigit then
      let d : Int := c.toNat - '0'.toNat
      let acc' := if negative then acc * 10 - d else acc * 10 + d
      if acc' > k.greatest then .error .tooLarge
      else if acc' < k.least then .error .tooSmall
      else k.accumulate negative acc' cs
    else .error .invalidDigit

/-- The value of decimal text in a kind. -/
def IntKind.parse (k : IntKind) (s : String) : Except IntProblem Int :=
  match s.toList with
  | [] => .error .empty
  | ['+'] | ['-'] => .error .invalidDigit
  | '+' :: ds => k.accumulate false 0 ds
  | '-' :: ds => if k.signed then k.accumulate true 0 ds else .error .invalidDigit
  | ds => k.accumulate false 0 ds

/-- The decimal text of an integer. -/
def text (n : Int) : String :=
  (if n < 0 then "-" else "") ++ String.ofList (Nat.toDigits 10 n.natAbs)

/-- Unsigned text with a minus sign has an invalid digit. -/
theorem parse_minus_unsigned (ds : List Char) :
    IntKind.parse ⟨8, false⟩ (String.ofList ('-' :: ds)) = .error .invalidDigit := by
  cases ds <;> simp [IntKind.parse]

end Integer
end ResourceKit

import ResourceKit.Integer.Kind
import ResourceKit.Binary.Format
import ResourceKit.Binary.Shortest
import ResourceKit.Binary.Parse

/-!
# Elements of item sequences

The items of a sequence all have one element type: text, a single character, a truth value,
an integer of a fixed kind, or a binary floating-point value. An element's *display* is its
plain text: text as it is, `true`/`false`, integers in decimal, binary values by their
shortest decimal. *Equality* is that of the type: for binary values, NaN equals nothing and
the two zeros are equal.

Elements are read from literals: text, a number as it was written, or a truth value. Integers
and binary values are read from the text either way, so a number written with a point or an
exponent is refused as an integer, and a binary value is the exact value of the text rounded
once.

**Results.**
* `Element.equal_nan`: NaN equals nothing.
* `read_number`: a number reads as the text it was written as.
-/

namespace ResourceKit
namespace Items

open Integer Binary

/-- The type of the elements of a sequence. -/
inductive ElementType
  | text
  | character
  | boolean
  | integer (kind : IntKind)
  | binary (format : BinaryFormat)
deriving Repr, DecidableEq

/-- Whether a type holds numbers. -/
def ElementType.IsNumeric : ElementType → Prop
  | .integer _ | .binary _ => True
  | _ => False

/-- An element. -/
inductive Element
  | text (s : String)
  | character (c : Char)
  | boolean (b : Bool)
  | integer (n : Int)
  | binary (format : BinaryFormat) (x : BinaryFloat)
deriving Repr, DecidableEq

/-- The plain text of an element. -/
def Element.display : Element → String
  | .text s => s
  | .character c => String.singleton c
  | .boolean b => if b then "true" else "false"
  | .integer n => Integer.text n
  | .binary f x => x.display f

/-- Equality of elements of one type. -/
def Element.equal : Element → Element → Bool
  | .text a, .text b => a == b
  | .character a, .character b => a == b
  | .boolean a, .boolean b => a == b
  | .integer a, .integer b => a == b
  | .binary _ x, .binary _ y => x.equal y
  | _, _ => false

/-- NaN equals nothing, itself included. -/
theorem Element.equal_nan (x : Element) (f : BinaryFormat) :
    x.equal (.binary f .nan) = false := by
  cases x with
  | binary g y => cases y <;> rfl
  | _ => rfl

/-- A literal an element is read from. -/
inductive Literal
  | text (s : String)
  | number (text : String)
  | boolean (b : Bool)
  | other
deriving Repr, DecidableEq

/-- Why a literal is not an element of a type. -/
inductive LiteralProblem
  | notText
  | notCharacter
  | notBoolean
  | notNumber
  | integer (text : String) (problem : IntProblem)
  | binary (text : String) (problem : FloatProblem)
deriving Repr, DecidableEq

/-- The text of a problem. -/
def LiteralProblem.message : LiteralProblem → String
  | .notText => "expected a string"
  | .notCharacter => "expected exactly one character"
  | .notBoolean => "expected a boolean"
  | .notNumber => "expected a number or a string"
  | .integer t p => t ++ ": " ++ p.text
  | .binary t p => t ++ ": " ++ p.text

/-- The element a literal stands for in a type. -/
def ElementType.read : ElementType → Literal → Except LiteralProblem Element
  | .text, .text s => .ok (.text s)
  | .text, _ => .error .notText
  | .character, .text s =>
    match s.toList with
    | [c] => .ok (.character c)
    | _ => .error .notCharacter
  | .character, _ => .error .notText
  | .boolean, .boolean b => .ok (.boolean b)
  | .boolean, _ => .error .notBoolean
  | .integer k, .text s | .integer k, .number s =>
    match k.parse s with
    | .ok n => .ok (.integer n)
    | .error p => .error (.integer s p)
  | .integer _, _ => .error .notNumber
  | .binary f, .text s | .binary f, .number s =>
    match f.parse s with
    | .ok x => .ok (.binary f x)
    | .error p => .error (.binary s p)
  | .binary _, _ => .error .notNumber

/-- A number reads as the text it was written as, in the numeric types. -/
theorem read_number (t : ElementType) (s : String) (h : t.IsNumeric) :
    t.read (.number s) = t.read (.text s) := by
  cases t <;> simp_all [ElementType.IsNumeric, ElementType.read]

end Items
end ResourceKit

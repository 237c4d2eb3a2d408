/-!
# UTF-16 with replacement

Bytes are paired into 16-bit code units in either byte order; a lead surrogate followed by a
trail surrogate makes one supplementary character, and any surrogate without its partner
becomes U+FFFD. An odd byte or a lead surrogate at the end of the input is *held*: the input
may go on, and only the end of the input turns it into one U+FFFD.
-/

namespace ResourceKit
namespace Text
namespace Utf16

/-- The order of the two bytes of a code unit. -/
inductive ByteOrder
  | little
  | big
deriving Repr, DecidableEq

/-- What a decoder holds between bytes: the first byte of a unit, and a lead surrogate. -/
structure Held where
  byte : Option UInt8 := none
  lead : Option Nat := none
deriving Repr, DecidableEq

/-- The code unit of two bytes, first byte first. -/
def ByteOrder.unit : ByteOrder → UInt8 → UInt8 → Nat
  | .little, a, b => b.toNat * 256 + a.toNat
  | .big, a, b => a.toNat * 256 + b.toNat

/-- Whether a code unit is a lead surrogate. -/
def IsLead (u : Nat) : Bool := 0xD800 ≤ u && u < 0xDC00

/-- Whether a code unit is a trail surrogate. -/
def IsTrail (u : Nat) : Bool := 0xDC00 ≤ u && u < 0xE000

/-- A code unit read with no lead surrogate held. -/
def freshUnit (u : Nat) : List Char × Option Nat :=
  if IsLead u then ([], some u)
  else if IsTrail u then (['�'], none)
  else ([Char.ofNat u], none)

/-- A code unit read after a lead surrogate, or with none held. -/
def feedUnit : Option Nat → Nat → List Char × Option Nat
  | none, u => freshUnit u
  | some l, u =>
    if IsTrail u then ([Char.ofNat (0x10000 + (l - 0xD800) * 0x400 + (u - 0xDC00))], none)
    else ('�' :: (freshUnit u).1, (freshUnit u).2)

/-- One byte: the first of a unit is held, the second completes the unit. -/
def feed (order : ByteOrder) (h : Held) (b : UInt8) : List Char × Held :=
  match h.byte with
  | none => ([], { h with byte := some b })
  | some a =>
    let (cs, lead) := feedUnit h.lead (order.unit a b)
    (cs, ⟨none, lead⟩)

/-- Decoding from a held state, with characters so far newest first. -/
def decodeFrom (order : ByteOrder) : Held → List UInt8 → List Char → List Char × Held
  | h, [], acc => (acc.reverse, h)
  | h, b :: bs, acc =>
    let (cs, h') := feed order h b
    decodeFrom order h' bs (cs.reverse ++ acc)

/-- The characters of the bytes, and what is held at their end. -/
def decode (order : ByteOrder) (bytes : List UInt8) : List Char × Held :=
  decodeFrom order {} bytes []

/-- What the held state turns into when the input ends: one U+FFFD if anything is held. -/
def flush (h : Held) : List Char :=
  if h.byte.isSome || h.lead.isSome then ['�'] else []

/-- A surrogate pair decodes to its supplementary character. -/
example :
    (decode .little [0x3D, 0xD8, 0x3D, 0xDE]).1 = [Char.ofNat 0x1F63D] := by
  decide

end Utf16
end Text
end ResourceKit

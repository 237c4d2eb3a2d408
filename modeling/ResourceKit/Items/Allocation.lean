/-!
# Sizes and allocations

Sizes are machine words of a 64-bit target: at most `sizeLimit = 2^64 - 1`. Size arithmetic
that goes past it wraps around (`wrapSize`), as it does in a release build; a debug build
panics there instead, which this library does not model.

A buffer is allocated up front for a number of items of a fixed width in bytes. One allocation
holds at most `byteLimit = 2^63 - 1` bytes, so asking for room for more bytes than that panics
with `capacity overflow` before any memory is sought (`reserve`). Items that take no bytes never
overflow, however many there are. A request within the limit is taken to succeed: how much
memory the machine has is not modelled.

**Results.**
* `reserve_eq_ok_iff`: a request goes through exactly when its bytes are within the limit.
* `reserve_zero_width`: room for items of no bytes is always given.
-/

namespace ResourceKit
namespace Items

/-- The largest size the machine can hold, `2^64 - 1`. -/
def sizeLimit : Nat := Nat.pow 2 64 - 1

/-- The most bytes one allocation may hold, `2^63 - 1`. -/
def byteLimit : Nat := Nat.pow 2 63 - 1

/-- A size computed past the largest one, wrapped around. -/
def wrapSize (n : Nat) : Nat := n % (sizeLimit + 1)

/-- Why a call stops without returning. -/
inductive Panic
  | capacityOverflow
deriving Repr, DecidableEq

/-- The text of a panic. -/
def Panic.message : Panic → String
  | .capacityOverflow => "capacity overflow"

/-- Ask for room for `count` items of `width` bytes each. -/
def reserve (count width : Nat) : Except Panic Unit :=
  if byteLimit < count * width then .error .capacityOverflow else .ok ()

/-- A request goes through exactly when its bytes are within the limit. -/
theorem reserve_eq_ok_iff (count width : Nat) :
    reserve count width = .ok () ↔ count * width ≤ byteLimit := by
  unfold reserve
  split
  · next h => simp only [reduceCtorEq, false_iff, Nat.not_le]; exact h
  · next h => simp only [true_iff]; exact Nat.not_lt.mp h

/-- A request that does not go through overflows. -/
theorem reserve_eq_error_iff (count width : Nat) :
    reserve count width = .error .capacityOverflow ↔ byteLimit < count * width := by
  unfold reserve
  split
  · next h => simp only [true_iff]; exact h
  · next h => simp only [reduceCtorEq, false_iff]; exact h

/-- Room for items of no bytes is always given. -/
theorem reserve_zero_width (count : Nat) : reserve count 0 = .ok () :=
  (reserve_eq_ok_iff count 0).mpr (by simp)

end Items
end ResourceKit

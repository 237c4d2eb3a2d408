import ResourceKit.Argument
import ResourceKit.Items.Allocation

/-!
# Collecting items

`asSet` gives the distinct strings of a sequence in code point order. `addAll` appends the
items of each slice to a collection, which must be present. `asList` joins slices into one
list. It first allocates room for a reference to each slice, then checks the slices one by one:
a missing slice is refused at its own position, and before that the running total of lengths
must stay within the machine's size range (`2^64 - 1`). Only then is the list allocated, for
the total number of items of the element type's width, which panics when those bytes are more
than one allocation may hold, although the total itself fits. A reference to a slice takes
16 bytes, and a list of slices the machine can hold has few enough of them for the first
allocation never to fail.
-/

namespace ResourceKit
namespace Items

variable {α : Type}

/-- Why slices cannot be joined into one list. -/
inductive ListError
  | missing (argument : MissingArgument)
  | capacityOverflow
deriving Repr, DecidableEq

/-- The text of a list error. -/
def ListError.message : ListError → String
  | .missing a => a.message
  | .capacityOverflow => "Capacity overflow!"

/-- Adjacent duplicates removed. -/
def dedupSorted : List String → List String
  | a :: b :: rest => if a = b then dedupSorted (b :: rest) else a :: dedupSorted (b :: rest)
  | l => l

/-- The distinct strings, in code point order. -/
def asSet (items : Option (List String)) : Option (List String) :=
  items.map fun xs => dedupSorted (xs.mergeSort fun a b => a < b || a == b)

/-- A collection with the items of each slice appended in order. -/
def addAll (collection : Option (List α)) (arrays : List (List α)) :
    Except MissingArgument (List α) :=
  match collection with
  | none => .error .collection
  | some c => .ok (c ++ arrays.flatten)

/-- The running total of slice lengths, checked slice by slice from `total`. -/
def checkSizesFrom (total : Nat) : List (Option Nat) → Except ListError Nat
  | [] => .ok total
  | none :: _ => .error (.missing .array)
  | some n :: rest =>
    if total + n > sizeLimit then .error .capacityOverflow else checkSizesFrom (total + n) rest

/-- The total length of slices given by their lengths. -/
def checkSizes (lengths : List (Option Nat)) : Except ListError Nat :=
  checkSizesFrom 0 lengths

/-- The bytes a reference to a slice takes: its address and its length. -/
def sliceWidth : Nat := 16

/-- The slices joined into one list of items of `width` bytes each. A panic is an outcome of its
own, apart from the refusals the call returns. -/
def asList (width : Nat) (arrays : List (Option (List α))) :
    Except Panic (Except ListError (List α)) :=
  match reserve arrays.length sliceWidth with
  | .error p => .error p
  | .ok () =>
    match checkSizes (arrays.map fun a => a.map List.length) with
    | .error e => .ok (.error e)
    | .ok size =>
      match reserve size width with
      | .error p => .error p
      | .ok () => .ok (.ok (arrays.flatMap fun a => a.getD []))

/-- Slices that are all present and small enough total their lengths. -/
example : checkSizes [some 2, some 3] = .ok 5 := rfl

end Items
end ResourceKit

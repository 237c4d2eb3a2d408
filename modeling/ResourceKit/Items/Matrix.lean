/-!
# Copying and filling matrices

A matrix is a list of rows. `copy` copies each source row over the start of the destination
row with the same index, in order, and stops at the first row that does not fit: a row with
no destination row, or a destination row shorter than the source row. Rows copied before
the failure stay copied. `fill` sets every item of every present row.

**Results.**
* `copy_nil`: copying no rows changes nothing.
* `fill_length`: filling keeps the number of rows.
-/

namespace ResourceKit
namespace Items

variable {α : Type}

/-- A position outside a sequence: the index asked for and the sequence's length. -/
structure OutOfBounds where
  index : Nat
  length : Nat
deriving Repr, DecidableEq

/-- The text of an index outside a sequence. -/
def OutOfBounds.message (e : OutOfBounds) : String :=
  let i := e.index
  let n := e.length
  s!"Index {i} out of bounds for array with {n} elements!"

/-- Copying source rows from row `i` on over the destination. -/
def copyFrom (i : Nat) (dest : List (List α)) : List (List α) → Option OutOfBounds × List (List α)
  | [] => (none, dest)
  | s :: ss =>
    match dest[i]? with
    | none => (some ⟨i, dest.length⟩, dest)
    | some d =>
      if d.length < s.length then (some ⟨s.length - 1, d.length⟩, dest)
      else copyFrom (i + 1) (dest.set i (s ++ d.drop s.length)) ss

/-- Copy a source matrix over a destination matrix: the failure, if any, and the destination
afterwards. With either matrix missing, nothing happens. -/
def copy (src dest : Option (List (List α))) : Option OutOfBounds × Option (List (List α)) :=
  match src, dest with
  | some s, some d => ((copyFrom 0 d s).1, some (copyFrom 0 d s).2)
  | _, _ => (none, dest)

/-- Set every item of every present row. -/
def fill (matrix : Option (List (Option (List α)))) (value : α) :
    Option (List (Option (List α))) :=
  matrix.map fun rows => rows.map fun row => row.map fun r => r.map fun _ => value

/-- Copying no rows changes nothing. -/
theorem copy_nil (dest : List (List α)) : copy (some []) (some dest) = (none, some dest) := rfl

/-- Filling keeps the number of rows. -/
theorem fill_length (rows : List (Option (List α))) (value : α) :
    ((fill (some rows) value).map List.length) = some rows.length := by
  simp [fill]

end Items
end ResourceKit

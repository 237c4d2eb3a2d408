/-!
# Finding an item

A sequence of items with holes contains a target when some position matches it. A hole
target matches a hole. A value target matches a present item equal to it, by the element
type's equality, which need not be reflexive. A target that *is* the item at a position (a
reference into the sequence) matches that position by identity, whatever the equality says,
and otherwise as the value it refers to.

**Results.**
* `matchesAt_hole`, `matchesAt_value`, `matchesAt_slot`: what a position matches, per kind of
  target.
* `contains_slot`: a reference to a present item is always found.
-/

namespace ResourceKit
namespace Items

variable {α : Type}

/-- What is looked for: a hole, a value, or the item at a position of the sequence. -/
inductive Target (α : Type)
  | hole
  | value (a : α)
  | slot (index : Nat)

/-- Whether the item at position `j` matches a target. -/
def matchesAt (eq : α → α → Bool) (items : List (Option α)) (target : Target α) (j : Nat)
    (item : Option α) : Bool :=
  match target, item with
  | .hole, none => true
  | .value a, some x => eq x a
  | .slot i, some x =>
    j == i || match items[i]? with
      | some (some a) => eq x a
      | _ => false
  | .slot i, none =>
    match items[i]? with
    | some none => true
    | _ => false
  | _, _ => false

/-- A hole target matches the holes. -/
@[simp] theorem matchesAt_hole (eq : α → α → Bool) (items : List (Option α)) (j : Nat)
    (x : Option α) : matchesAt eq items .hole j x = x.isNone := by
  cases x <;> rfl

/-- A value target matches the present items equal to it, item first. -/
@[simp] theorem matchesAt_value (eq : α → α → Bool) (items : List (Option α)) (a : α) (j : Nat)
    (x : Option α) : matchesAt eq items (.value a) j x = x.any (eq · a) := by
  cases x <;> rfl

/-- A reference to a present item matches that item's own position, and any present item
equal to the item it refers to. -/
theorem matchesAt_slot (eq : α → α → Bool) {items : List (Option α)} {i : Nat} {a : α}
    (h : items[i]? = some (some a)) (j : Nat) (x : Option α) :
    matchesAt eq items (.slot i) j x = x.any fun y => j == i || eq y a := by
  cases x <;> simp [matchesAt, h]

/-- Whether a sequence contains a target. -/
def contains (eq : α → α → Bool) (items : Option (List (Option α))) (target : Target α) :
    Bool :=
  match items with
  | none => false
  | some xs => (xs.zipIdx.any fun p => matchesAt eq xs target p.2 p.1)

/-- A reference to a present item is always found. -/
theorem contains_slot (eq : α → α → Bool) (xs : List (Option α)) (i : Nat) (a : α)
    (h : xs[i]? = some (some a)) : contains eq (some xs) (.slot i) = true := by
  simp only [contains, List.any_eq_true]
  refine ⟨(some a, i), ?_, ?_⟩
  · rw [List.mem_iff_getElem?]
    refine ⟨i, ?_⟩
    simp [List.getElem?_zipIdx, h]
  · simp [matchesAt]

end Items
end ResourceKit

import ResourceKit.Items.Element
import ResourceKit.Items.Search

/-!
# Finding an item by identity or by equality

`contains` tries every position of a sequence against the target. A hole target is found at a
hole. A value target, stored apart from the sequence, is found at a present item that the
element type's equality relates to it, the item on the left. A reference into the sequence is
found at its own position whatever the equality says, and otherwise like the value it refers
to. Nothing here assumes the equality reflexive, symmetric or transitive, so the identity test
is what finds an item unequal to itself: a NaN is found through a reference to it, never as a
value.

**Results.**
* `contains_some_iff`: a present sequence contains a target when some position matches it.
* `contains_some_iff_present`: the same for a target that no hole matches, over present items.
* `contains_hole_iff`, `contains_value_iff`, `contains_slot_iff`: the three kinds of target.
* `contains_value_of_unequal`: a value equal to nothing is never found.
* `contains_by_identity_or_equality`: the search, for every sequence, equality and target.
-/

namespace ResourceKit
namespace Items

variable {α : Type} (eq : α → α → Bool)

/-- A present sequence contains a target when the item at some position matches it. -/
theorem contains_some_iff (xs : List (Option α)) (t : Target α) :
    contains eq (some xs) t = true ↔ ∃ j x, xs[j]? = some x ∧ matchesAt eq xs t j x = true := by
  simp only [contains, List.any_eq_true, List.mem_zipIdx_iff_getElem?]
  constructor
  · rintro ⟨⟨x, j⟩, hx, hm⟩
    exact ⟨j, x, hx, hm⟩
  · rintro ⟨j, x, hx, hm⟩
    exact ⟨(x, j), hx, hm⟩

/-- A hole is found exactly when the sequence has one. -/
theorem contains_hole_iff (xs : List (Option α)) :
    contains eq (some xs) .hole = true ↔ none ∈ xs := by
  rw [contains_some_iff, List.mem_iff_getElem?]
  simp

/-- A target that no hole matches is found exactly at a present item that matches it. -/
theorem contains_some_iff_present (xs : List (Option α)) (t : Target α)
    (hhole : ∀ j, matchesAt eq xs t j none = false) :
    contains eq (some xs) t = true ↔
      ∃ j x, xs[j]? = some (some x) ∧ matchesAt eq xs t j (some x) = true := by
  rw [contains_some_iff]
  constructor
  · rintro ⟨j, _ | x, hx, hm⟩
    · rw [hhole j] at hm
      exact absurd hm Bool.false_ne_true
    · exact ⟨j, x, hx, hm⟩
  · rintro ⟨j, x, hx, hm⟩
    exact ⟨j, some x, hx, hm⟩

/-- A value is found exactly when some present item is equal to it. -/
theorem contains_value_iff (xs : List (Option α)) (a : α) :
    contains eq (some xs) (.value a) = true ↔ ∃ x, some x ∈ xs ∧ eq x a = true := by
  rw [contains_some_iff_present eq xs _ (fun _ => rfl)]
  simp only [matchesAt_value, Option.any_some, List.mem_iff_getElem?]
  constructor
  · rintro ⟨j, x, hx, hm⟩
    exact ⟨x, ⟨j, hx⟩, hm⟩
  · rintro ⟨x, ⟨j, hx⟩, hm⟩
    exact ⟨j, x, hx, hm⟩

/-- A reference to the present item at position `i` is found exactly when some present item is
that very item or is equal to it. -/
theorem contains_slot_iff {xs : List (Option α)} {i : Nat} {a : α}
    (h : xs[i]? = some (some a)) :
    contains eq (some xs) (.slot i) = true ↔
      ∃ j x, xs[j]? = some (some x) ∧ (j = i ∨ eq x a = true) := by
  rw [contains_some_iff_present eq xs _ (fun j => by rw [matchesAt_slot eq h]; rfl)]
  simp only [matchesAt_slot eq h, Option.any_some, Bool.or_eq_true, beq_iff_eq]

/-- A value that no item is equal to is never found, in any sequence. -/
theorem contains_value_of_unequal (items : Option (List (Option α))) {a : α}
    (ha : ∀ x, eq x a = false) : contains eq items (.value a) = false := by
  cases items with
  | none => rfl
  | some xs =>
    rw [← Bool.not_eq_true, contains_value_iff]
    rintro ⟨x, -, hx⟩
    rw [ha x] at hx
    exact Bool.false_ne_true hx

/-- **The search finds an item by identity or by equality.** A missing sequence contains
nothing. In a present one, a hole target is found exactly when there is a hole, and a value
exactly when some present item is equal to it (the item on the left of the equality). A
reference to the present item at position `i` is found exactly when some present item is that
very item or is equal to the item referred to, so it is always found, even when that item is
unequal to itself. A NaN stored apart from the sequence is found in none. -/
theorem contains_by_identity_or_equality :
    (∀ t : Target α, contains eq none t = false) ∧
    (∀ xs : List (Option α), contains eq (some xs) .hole = true ↔ none ∈ xs) ∧
    (∀ (xs : List (Option α)) (a : α),
      contains eq (some xs) (.value a) = true ↔ ∃ x, some x ∈ xs ∧ eq x a = true) ∧
    (∀ (xs : List (Option α)) (i : Nat) (a : α), xs[i]? = some (some a) →
      (contains eq (some xs) (.slot i) = true ↔
        ∃ j x, xs[j]? = some (some x) ∧ (j = i ∨ eq x a = true))) ∧
    (∀ (xs : List (Option α)) (i : Nat) (a : α), xs[i]? = some (some a) →
      contains eq (some xs) (.slot i) = true) ∧
    (∀ (xs : List (Option Element)) (f : Binary.BinaryFormat),
      contains Element.equal (some xs) (.value (.binary f .nan)) = false) :=
  ⟨fun _ => rfl, contains_hole_iff eq, contains_value_iff eq,
    fun _ _ _ h => contains_slot_iff eq h, contains_slot eq,
    fun xs f => contains_value_of_unequal Element.equal (some xs) (fun x => x.equal_nan f)⟩

/-- A NaN, unequal to itself, is found through a reference to it and not as a value. -/
theorem nan_found_by_reference :
    [some (Element.binary .double .nan)][0]? = some (some (Element.binary .double .nan)) ∧
    (contains Element.equal (some [some (Element.binary .double .nan)]) (.slot 0) = true ↔
      ∃ j x, [some (Element.binary .double .nan)][j]? = some (some x) ∧
        (j = 0 ∨ x.equal (.binary .double .nan) = true)) ∧
    contains Element.equal (some [some (Element.binary .double .nan)]) (.slot 0) = true ∧
    contains Element.equal (some [some (Element.binary .double .nan)])
      (.value (.binary .double .nan)) = false :=
  ⟨rfl, (contains_by_identity_or_equality Element.equal).2.2.2.1 _ 0 _ rfl,
    (contains_by_identity_or_equality Element.equal).2.2.2.2.1 _ 0 _ rfl,
    (contains_by_identity_or_equality Element.equal).2.2.2.2.2 _ .double⟩

end Items
end ResourceKit

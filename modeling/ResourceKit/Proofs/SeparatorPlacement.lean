import Mathlib
import ResourceKit.Items.Join

/-!
# Where the separators go

The joining loop writes the separator after an item when the item's position plus one is still
below the length. Run over a sequence, that test puts exactly one separator between each two
neighbouring positions and none before the first or after the last: the text is the items'
pieces *intercalated* with the separator. This holds for every renderer that only appends to
the buffer, which is what all three entry points pass to the loop, so a hole, which appends
nothing, still keeps the separators on both of its sides.

Before the loop runs, the buffer is allocated for four bytes an item, the product wrapping
around past the largest size. That request overflows for `2^61` items and more, up to `2^62`,
and again wherever the wrapped product lands at `2^63` or above, so joining that many items
panics however little text they make (items that display as nothing take no memory at all).

**Results.**
* `joinCapacity_le_iff`: the buffer for `n` items can be allocated exactly when `n` modulo `2^62`
  is below `2^61`.
* `foldl_joinStep`: the loop from any position whose items run to the end appends their pieces
  intercalated with the separator.
* `joinWith_eq_intercalate`: the loop with an appending renderer, in closed form.
* `join_some`, `joinValues_some`: joining a present sequence, with and without holes.
* `join_intercalates_displays`: the joins and the bracketed list, for every sequence and
  separator.
* `join_overflows_for_many_items`: `2^61` holes joined by nothing panic.
-/

namespace ResourceKit
namespace Items

variable {α : Type}

/-- The buffer for `n` items can be allocated exactly when `n` modulo `2^62` is below `2^61`: the
wrapped product `4 n mod 2^64` is then below `2^63`. -/
theorem joinCapacity_le_iff (n : Nat) :
    joinCapacity n ≤ byteLimit ↔ n % Nat.pow 2 62 < Nat.pow 2 61 := by
  simp only [joinCapacity, wrapSize, sizeLimit, byteLimit, Nat.pow_eq]
  norm_num
  omega

section Loop

variable {render : String → α → String} {piece : α → String}

/-- The loop's turns from position `k` over items that run to the end of the sequence (`len`
items in all) append the items' pieces with the separator between each two. -/
theorem foldl_joinStep (hr : ∀ buf x, render buf x = buf ++ piece x) (len : Nat)
    (sep : String) (ys : List α) (k : Nat) (buf : String) (hk : k + ys.length = len) :
    (ys.zipIdx k).foldl (joinStep render len sep) buf =
      buf ++ String.intercalate sep (ys.map piece) := by
  -- the invariant: the buffer holds the pieces before position `k`, with their separators
  induction ys generalizing k buf with
  | nil => simp
  | cons y ys ih =>
    rw [List.zipIdx_cons, List.foldl_cons]
    cases ys with
    | nil =>
      -- the last item: `k + 1 = len`, so no separator follows it
      have hlast : ¬ k + 1 < len := by simp at hk; omega
      simp [joinStep, hlast, hr]
    | cons z zs =>
      have hmore : k + 1 < len := by simp at hk; omega
      rw [ih (k + 1) _ (by simp at hk ⊢; omega)]
      simp [joinStep, hmore, hr, String.append_assoc]

/-- The loop with a renderer that appends each item's piece gives the pieces intercalated with
the separator, when their buffer can be allocated, and panics otherwise. -/
theorem joinWith_eq_intercalate (hr : ∀ buf x, render buf x = buf ++ piece x) (items : List α)
    (sep : String) :
    joinWith render items sep =
      if items.length % Nat.pow 2 62 < Nat.pow 2 61 then
        .ok (String.intercalate sep (items.map piece))
      else .error .capacityOverflow := by
  unfold joinWith
  by_cases hfit : joinCapacity items.length ≤ byteLimit
  · rw [(reserve_eq_ok_iff _ _).mpr (by rwa [Nat.mul_one]),
      if_pos ((joinCapacity_le_iff _).mp hfit)]
    dsimp only
    rw [foldl_joinStep hr items.length sep items 0 "" (Nat.zero_add _), String.empty_append]
  · rw [(reserve_eq_error_iff _ _).mpr (by rw [Nat.mul_one]; exact Nat.lt_of_not_le hfit),
      if_neg (mt (joinCapacity_le_iff _).mpr hfit)]

end Loop

/-- An item appends its display. -/
theorem pushDisplay_eq_append (display : α → String) (buf : String) (x : α) :
    pushDisplay display buf x = buf ++ display x := rfl

/-- A present item appends its display, a hole the empty text. -/
theorem pushItem_eq_append (display : α → String) (buf : String) (x : Option α) :
    pushItem display buf x = buf ++ (x.map display).getD "" := by
  cases x with
  | none => exact String.append_empty.symm
  | some x => rfl

/-- Items with holes joined: the displays, a hole as the empty text, intercalated with the
separator, unless there are too many items to allocate for. -/
theorem join_some (display : α → String) (xs : List (Option α)) (sep : Option String) :
    join display (some xs) sep =
      if xs.length % Nat.pow 2 62 < Nat.pow 2 61 then
        .ok (String.intercalate (sep.getD "") (xs.map fun x => (x.map display).getD ""))
      else .error .capacityOverflow := by
  rw [join, joinWith_eq_intercalate (pushItem_eq_append display)]

/-- Items without holes joined: their displays intercalated with the separator, unless there
are too many items to allocate for. -/
theorem joinValues_some (display : α → String) (xs : List α) (sep : Option String) :
    joinValues display (some xs) sep =
      if xs.length % Nat.pow 2 62 < Nat.pow 2 61 then
        .ok (String.intercalate (sep.getD "") (xs.map display))
      else .error .capacityOverflow := by
  rw [joinValues, joinWith_eq_intercalate (pushDisplay_eq_append display)]

/-- **Joining writes one separator between each two neighbours, once its buffer is
allocated.** A missing sequence joins to the empty text. A present one whose length modulo
`2^62` is below `2^61` (every sequence of fewer than `2^61` items) joins to its items' displays,
a hole as the empty text, with the separator (the empty text when it is missing) between each
two neighbouring positions and nowhere else; any other length panics. Joining items without
holes is joining them as items none of which is missing. A bracketed list is the join with
`", "` between brackets, and a missing sequence is `null`. -/
theorem join_intercalates_displays (display : α → String) (sep : Option String) :
    join display none sep = .ok "" ∧
    (∀ xs : List (Option α), join display (some xs) sep =
      if xs.length % Nat.pow 2 62 < Nat.pow 2 61 then
        .ok (String.intercalate (sep.getD "") (xs.map fun x => (x.map display).getD ""))
      else .error .capacityOverflow) ∧
    (∀ xs : List α, joinValues display (some xs) sep = join display (some (xs.map some)) sep) ∧
    (∀ xs : List (Option α), format display (some xs) =
      (join display (some xs) (some ", ")).map fun s => "[" ++ s ++ "]") ∧
    format display none = .ok "null" :=
  ⟨rfl, fun xs => join_some display xs sep,
    fun xs => joinValues_eq_join display (some xs) sep, fun xs => format_some display xs, rfl⟩

/-- Separators are counted by position, not by occurrence: two items `:` joined by `::` hold
the separator's text twice. -/
example : join id (some [some ":", some ":"]) (some "::") = .ok "::::" := by decide

/-- `2^61` holes joined by nothing would make the empty text, but the buffer asked for first,
`2^63` bytes, is one byte more than an allocation may hold. -/
theorem join_overflows_for_many_items :
    join (fun s : String => s) (some (List.replicate (Nat.pow 2 61) none)) none =
      .error .capacityOverflow := by
  rw [join_some, List.length_replicate, if_neg (by norm_num)]

end Items
end ResourceKit

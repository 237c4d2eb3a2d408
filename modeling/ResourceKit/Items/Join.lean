import ResourceKit.Items.Allocation

/-!
# Joining items into text

The three ways of joining share one loop, `joinWith`. It first allocates the text for four bytes
per item (`joinCapacity`, the product wrapping around past the largest size), which panics when
that is more than one allocation may hold. It then renders the items into the text one after
another and writes the separator after the item at position `i` when `i + 1` is still below the
length, so after each item but the last. The entry points differ only in how an item is
rendered. `join` writes a present item's display and a missing item (a *hole*) as nothing, so a
hole keeps its separators; `joinValues` writes every item's display. A missing separator is the
empty text, and a missing sequence joins to the empty text. `format` puts the items, separated by
a comma and a blank, between brackets; a missing sequence is `null`.

**Results.**
* `joinWith_map`: rendering mapped items is rendering the items through the map.
* `joinValues_eq_join`: joining present items is joining them as items with no holes.
* `format_some`: a bracketed list is the join with `", "` between brackets.
-/

namespace ResourceKit
namespace Items

variable {α β : Type}

/-- Appends an item's display to a buffer. -/
def pushDisplay (display : α → String) (buf : String) (x : α) : String :=
  buf ++ display x

/-- Appends an item that may be missing: a hole appends nothing. -/
def pushItem (display : α → String) (buf : String) : Option α → String
  | some x => pushDisplay display buf x
  | none => buf

/-- One turn of the loop over `len` items: the item at position `p.2` is rendered into the
buffer, then the separator unless no item follows it. -/
def joinStep (render : String → α → String) (len : Nat) (sep : String) (buf : String)
    (p : α × Nat) : String :=
  if p.2 + 1 < len then render buf p.1 ++ sep else render buf p.1

/-- The bytes allocated up front for joining `n` items: four for each, the product wrapping
around past the largest size. -/
def joinCapacity (n : Nat) : Nat := wrapSize (n * 4)

/-- Items rendered one after another into a buffer allocated for them first, the separator after
each but the last. -/
def joinWith (render : String → α → String) (items : List α) (sep : String) :
    Except Panic String :=
  match reserve (joinCapacity items.length) 1 with
  | .error p => .error p
  | .ok () => .ok (items.zipIdx.foldl (joinStep render items.length sep) "")

/-- Items with holes joined by a separator. -/
def join (display : α → String) (items : Option (List (Option α))) (sep : Option String) :
    Except Panic String :=
  match items with
  | none => .ok ""
  | some xs => joinWith (pushItem display) xs (sep.getD "")

/-- Items without holes joined by a separator. -/
def joinValues (display : α → String) (items : Option (List α)) (sep : Option String) :
    Except Panic String :=
  match items with
  | none => .ok ""
  | some xs => joinWith (pushDisplay display) xs (sep.getD "")

/-- Items with holes as a bracketed list. -/
def format (display : α → String) (items : Option (List (Option α))) : Except Panic String :=
  match items with
  | none => .ok "null"
  | some _ => (join display items (some ", ")).map fun s => "[" ++ s ++ "]"

/-- Rendering mapped items is rendering the items through the map. -/
theorem joinWith_map (render : String → β → String) (f : α → β) (xs : List α) (sep : String) :
    joinWith render (xs.map f) sep = joinWith (fun buf x => render buf (f x)) xs sep := by
  simp only [joinWith, List.zipIdx_map, List.foldl_map, List.length_map]
  split <;> rfl

/-- Joining present items is joining them as items with no holes. -/
theorem joinValues_eq_join (display : α → String) (items : Option (List α))
    (sep : Option String) :
    joinValues display items sep = join display (items.map (·.map some)) sep := by
  cases items with
  | none => rfl
  | some xs =>
    simp only [joinValues, join, Option.map_some, joinWith_map]
    rfl

/-- A bracketed list is the join with `", "` between brackets. -/
theorem format_some (display : α → String) (xs : List (Option α)) :
    format display (some xs) = (join display (some xs) (some ", ")).map fun s => "[" ++ s ++ "]" :=
  rfl

end Items
end ResourceKit

/-!
# Keyed lists

A keyed list holds values by string key, each key once, in order of first writing. Writing
a key that is present replaces its value in place; a new key goes last.

**Results.**
* `lookup_put`: after writing `k`, looking up `k` gives the new value and every other key is
  unchanged.
* `keys_put`: writing keeps the keys in place and adds `k` last when it was not there.
-/

namespace ResourceKit
namespace Keyed

variable {β : Type}

/-- The value of a key. -/
def lookup (l : List (String × β)) (k : String) : Option β :=
  (l.find? (·.1 == k)).map (·.2)

/-- The list with `k` sent to `v`. -/
def put (l : List (String × β)) (k : String) (v : β) : List (String × β) :=
  if l.any (·.1 == k) then l.map fun p => if p.1 == k then (k, v) else p
  else l ++ [(k, v)]

theorem find?_map_replace (l : List (String × β)) (k j : String) (v : β) :
    (l.map fun p => if p.1 == k then (k, v) else p).find? (·.1 == j) =
      if j = k then (if l.any (·.1 == k) then some (k, v) else none)
      else l.find? (·.1 == j) := by
  induction l with
  | nil => by_cases h : j = k <;> simp [h]
  | cons p l ih =>
    by_cases hp : p.1 = k <;> by_cases hj : j = k <;> simp_all [List.find?_cons] <;>
      grind

/-- After writing `k`, looking up `k` gives the new value and every other key is unchanged. -/
theorem lookup_put (l : List (String × β)) (k j : String) (v : β) :
    lookup (put l k v) j = if j = k then some v else lookup l j := by
  unfold put lookup
  split
  · next h =>
    rw [find?_map_replace]
    by_cases hj : j = k <;> simp [hj, h]
  · next h =>
    rw [List.find?_append]
    by_cases hj : j = k
    · subst hj
      have : l.find? (·.1 == j) = none := by
        rw [List.find?_eq_none]
        intro p hp
        simp only [List.any_eq_true, not_exists, not_and] at h
        simpa using h p hp
      simp [this]
    · cases hf : l.find? (·.1 == j) <;> simp [hj, Ne.symm hj]

/-- Writing keeps the keys in place and adds `k` last when it was not there. -/
theorem keys_put (l : List (String × β)) (k : String) (v : β) :
    (put l k v).map (·.1) = if k ∈ l.map (·.1) then l.map (·.1) else l.map (·.1) ++ [k] := by
  have hany : l.any (·.1 == k) = decide (k ∈ l.map (·.1)) := by
    simp [List.any_eq]
  unfold put
  rw [hany]
  by_cases hk : k ∈ l.map (·.1)
  · -- a replaced pair keeps its key, since it had the key `k`
    simp only [hk, decide_true, if_true, List.map_map]
    apply List.map_congr_left
    intro p _
    by_cases hp : p.1 = k <;> simp [hp]
  · simp [hk]

end Keyed
end ResourceKit

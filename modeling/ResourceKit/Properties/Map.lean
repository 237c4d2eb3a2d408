import ResourceKit.Keyed

/-!
# Property maps

A property map sends keys to values, each key once. Writing a key that is present replaces
its value in place; a new key goes last. Reading properties text writes its entries in
order, so a later duplicate wins.

**Results.**
* `get?_insert`: after writing `k`, looking up `k` gives the new value and every other key is
  unchanged.
-/

namespace ResourceKit
namespace Properties

/-- Keys and their values, each key once. -/
structure PropertyMap where
  entries : List (String × String)
deriving Repr, DecidableEq

namespace PropertyMap

/-- The map with no keys. -/
def empty : PropertyMap := ⟨[]⟩

/-- The value of a key. -/
def get? (m : PropertyMap) (k : String) : Option String :=
  Keyed.lookup m.entries k

/-- The map with `k` sent to `v`. -/
def insert (m : PropertyMap) (k v : String) : PropertyMap :=
  ⟨Keyed.put m.entries k v⟩

/-- The map `m` with every entry of `other` written over it, in order. -/
def override (m other : PropertyMap) : PropertyMap :=
  other.entries.foldl (fun acc p => acc.insert p.1 p.2) m

/-- After writing `k`, looking up `k` gives the new value and every other key is unchanged. -/
theorem get?_insert (m : PropertyMap) (k v j : String) :
    (m.insert k v).get? j = if j = k then some v else m.get? j :=
  Keyed.lookup_put m.entries k j v

end PropertyMap
end Properties
end ResourceKit

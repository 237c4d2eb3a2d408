import ResourceKit.Keyed

/-!
# In-memory resources

Resource names are looked up without their leading slashes, so `/a.txt`, `//a.txt` and
`a.txt` name one resource. A memory store keeps resources by that normalised name; inserting
under a name that is present replaces the contents and returns the old ones.

**Results.**
* `find?_insert`: after an insert, the name inserted finds the new contents and every other
  name finds what it found before.
-/

namespace ResourceKit
namespace Resource

/-- A resource name without its leading slashes. -/
def normalize (name : String) : String :=
  String.ofList (name.toList.dropWhile (· = '/'))

/-- A named table of resources by normalised name, in order of first insertion. -/
structure MemoryStore where
  name : String
  entries : List (String × List UInt8) := []
deriving Repr

namespace MemoryStore

/-- The contents a resource name finds. -/
def find? (m : MemoryStore) (resource : String) : Option (List UInt8) :=
  Keyed.lookup m.entries (normalize resource)

/-- Store contents under a resource name: the contents it replaces, and the store after. -/
def insert (m : MemoryStore) (resource : String) (contents : List UInt8) :
    Option (List UInt8) × MemoryStore :=
  (m.find? resource, { m with entries := Keyed.put m.entries (normalize resource) contents })

/-- The number of names stored. -/
def size (m : MemoryStore) : Nat := m.entries.length

/-- The names stored, in order of first insertion. -/
def keys (m : MemoryStore) : List String := m.entries.map (·.1)

/-- After an insert, the name inserted finds the new contents and every other name finds what
it found before. -/
theorem find?_insert (m : MemoryStore) (resource other : String) (c : List UInt8) :
    (m.insert resource c).2.find? other =
      if normalize other = normalize resource then some c else m.find? other :=
  Keyed.lookup_put m.entries (normalize resource) (normalize other) c

end MemoryStore
end Resource
end ResourceKit

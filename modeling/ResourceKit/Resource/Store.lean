import ResourceKit.Resource.Directory
import ResourceKit.Text.Quoted

/-!
# Resolvers and the store that holds them

A resolver maps resource names to streams. Leaves hold resources themselves: a memory table,
a directory, or one of two fixed resolvers (one whose every stream fails after some data, one
whose every opening fails). A classpath is an ordered chain of other resolvers, searched
first to last: the first that fails or finds the resource decides.

Chains share their members: a chain pushed onto another is seen there as it grows. So the
store keeps every resolver under a *handle*, its index, and a chain lists handles. The store
refuses a push that would make a chain reach itself, so every search ends; a search is given
one step more than the store has resolvers, which no path without a repeated handle uses up.

**Results.**
* `Store.firstFound_append_none`: a lookup that finds nothing leaves the search to the rest.
* `Store.open_memory`: a memory table opens what it holds under the name.
-/

namespace ResourceKit
namespace Resource

open Reading

/-- A resolver held in a store; chains refer to their members by handle. -/
inductive Resolver
  | memory (table : MemoryStore)
  | directory (dir : DirResolver)
  | chain (name : String) (members : List Nat)
  /-- Every stream yields `data`, then fails with `message`. -/
  | failing (name : String) (data : List UInt8) (message : String)
  /-- Every opening fails with `message`. -/
  | refusing (name : String) (message : String)

/-- The name a resolver is reported by. -/
def Resolver.name : Resolver → String
  | .memory t => t.name
  | .directory d => d.name
  | .chain n _ => n
  | .failing n _ _ => n
  | .refusing n _ => n

/-- The stream of a failing resolver: its data, then the failure. -/
def failingStream (data : List UInt8) (message : String) : List Segment :=
  (if data = [] then [] else [.data data]) ++ [.failure message]

/-- Resolvers by handle. -/
structure Store where
  resolvers : List Resolver

namespace Store

/-- The resolver under a handle. -/
def get? (s : Store) (h : Nat) : Option Resolver :=
  s.resolvers[h]?

/-- The name of the resolver under a handle. -/
def nameOf (s : Store) (h : Nat) : String :=
  match s.get? h with
  | some r => r.name
  | none => ""

/-- The first decisive result of a list of lookups: the first failure or the first find. -/
def firstFound {ε α β : Type} (f : α → Except ε (Option β)) : List α → Except ε (Option β)
  | [] => .ok none
  | a :: as =>
    match f a with
    | .ok none => firstFound f as
    | r => r

/-- Open a resource from a handle, searching chains depth first within `fuel` levels. -/
def openWithin (s : Store) : Nat → Nat → String → Except IoFailure (Option (List Segment))
  | 0, _, _ => .ok none
  | fuel + 1, h, resource =>
    match s.get? h with
    | none => .ok none
    | some (.memory t) => .ok ((t.find? resource).map ofBytes)
    | some (.directory d) => d.open resource
    | some (.failing _ data message) => .ok (some (failingStream data message))
    | some (.refusing _ message) => .error (.injected message)
    | some (.chain _ members) => firstFound (fun m => s.openWithin fuel m resource) members

/-- Open a resource from a handle: a stream, nothing if no resolver has it, or the failure of
the first resolver that failed before any found it. -/
def «open» (s : Store) (h : Nat) (resource : String) :
    Except IoFailure (Option (List Segment)) :=
  s.openWithin (s.resolvers.length + 1) h resource

/-- Whether `target` is reached from `h` through chain members within `fuel` levels; every
handle reaches itself. -/
def reachesWithin (s : Store) : Nat → Nat → Nat → Bool
  | 0, _, _ => false
  | fuel + 1, h, target =>
    h == target ||
      match s.get? h with
      | some (.chain _ members) => members.any (fun m => s.reachesWithin fuel m target)
      | _ => false

/-- Whether `target` is reached from `h` through chain members. -/
def reaches (s : Store) (h target : Nat) : Bool :=
  s.reachesWithin (s.resolvers.length + 1) h target

/-- A store with one more resolver, and its handle. -/
def add (s : Store) (r : Resolver) : Nat × Store :=
  (s.resolvers.length, ⟨s.resolvers ++ [r]⟩)

/-- Replace the resolver under a handle. -/
def set (s : Store) (h : Nat) (r : Resolver) : Store :=
  ⟨s.resolvers.set h r⟩

/-- Why a resolver cannot be pushed onto a chain. -/
inductive PushProblem
  | notChain
  | cycle
deriving Repr, DecidableEq

/-- Push the resolver under `entry` onto the end of the chain under `target`. Memory tables and
directories go in as a copy of what they are now; chains and fixed resolvers go in by handle, so
later pushes onto a pushed chain are seen through it. -/
def push (s : Store) (target entry : Nat) : Except PushProblem Store :=
  match s.get? target with
  | some (.chain name members) =>
    if s.reaches entry target then .error .cycle
    else
      match s.get? entry with
      | some (.memory t) =>
        let (copy, s') := s.add (.memory t)
        .ok (s'.set target (.chain name (members ++ [copy])))
      | some (.directory d) =>
        let (copy, s') := s.add (.directory d)
        .ok (s'.set target (.chain name (members ++ [copy])))
      | _ => .ok (s.set target (.chain name (members ++ [entry])))
  | _ => .error .notChain

/-- A lookup that finds nothing leaves the search to the rest. -/
theorem firstFound_append_none {ε α β : Type} (f : α → Except ε (Option β)) (a : α)
    (as : List α) (h : f a = .ok none) : firstFound f (a :: as) = firstFound f as := by
  simp [firstFound, h]

/-- A memory table opens what it holds under the name. -/
theorem open_memory (s : Store) (h : Nat) (t : MemoryStore) (hget : s.get? h = some (.memory t))
    (resource : String) : s.open h resource = .ok ((t.find? resource).map ofBytes) := by
  simp [Store.open, openWithin, hget]

end Store

/-- A list of texts written as quoted items in brackets. -/
def quotedList (items : List String) : String :=
  "[" ++ ", ".intercalate (items.map Text.quote) ++ "]"

/-- The debugging text of a chain: its name and its members' names. -/
def chainDebug (name : String) (members : List String) : String :=
  let shownName := Text.quote name
  let shownMembers := quotedList members
  "Classpath \x7b name: " ++ shownName ++ ", entries: " ++ shownMembers ++ " \x7d"

/-- The debugging text of a memory table: its name and its resource names. -/
def MemoryStore.debug (t : MemoryStore) : String :=
  let shownName := Text.quote t.name
  let shownKeys := quotedList t.keys
  "MemoryResolver \x7b name: " ++ shownName ++ ", resources: " ++ shownKeys ++ " \x7d"

/-- The debugging text of a directory resolver: its name and its root. -/
def DirResolver.debug (d : DirResolver) : String :=
  let shownName := Text.quote d.name
  let shownRoot := Text.quote d.root
  "DirResolver \x7b name: " ++ shownName ++ ", root: " ++ shownRoot ++ " \x7d"

end Resource
end ResourceKit

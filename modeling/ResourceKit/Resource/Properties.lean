import ResourceKit.Resource.Stream
import ResourceKit.Properties.Read

/-!
# Properties from resources

Properties are loaded from a named resource of a context resolver, which must be given. The
entries read are written over the map loaded into, in order; if the resource cannot be read the
map is left as it was, and an absent name loads nothing. Several names load into maps of their
own, in order, stopping at the first that fails.

Loading is stated for any parser of properties (`PropertyParser`): a function from a stream's
bytes and how it ended to a map or a fault, which returns rather than panics. The sessions of
`Workspace` load with the crate's own, `Properties.ofStream`.

**Results.**
* `loadInto_none`: an absent name leaves the map as it is.
* `loadAll_nil`: no names load no maps, whatever the context.
-/

namespace ResourceKit
namespace Resource

open Reading Properties

/-- A parser of properties: from a stream's bytes and how it ended, a map or a fault. -/
abbrev PropertyParser := List UInt8 → Ending → Except Fault PropertyMap

/-- The properties a stream describes, by a parser. -/
def readProperties (parse : PropertyParser) (src : List Segment) :
    Except ResourceError PropertyMap :=
  match drain src with
  | (bytes, ending) =>
    match parse bytes ending with
    | .error f => .error (.properties f)
    | .ok m => .ok m

namespace Store

/-- Load a named resource of a context into a map. -/
def loadInto (s : Store) (parse : PropertyParser) (m : PropertyMap) (context : Option Nat) (name : Option String) :
    Except ResourceError PropertyMap :=
  match context with
  | none => .error (.missing .context)
  | some h =>
    match name with
    | none => .ok m
    | some resource =>
      match s.stream h (some resource) with
      | .error e => .error e
      | .ok src =>
        match readProperties parse src with
        | .error e => .error e
        | .ok read => .ok (m.override read)

/-- Load a named resource of a context into a fresh map. -/
def load (s : Store) (parse : PropertyParser) (context : Option Nat) (name : Option String) :
    Except ResourceError PropertyMap :=
  s.loadInto parse PropertyMap.empty context name

/-- Load each name into a map of its own, stopping at the first failure. -/
def loadEach (s : Store) (parse : PropertyParser) (context : Option Nat) :
    List String → Except ResourceError (List PropertyMap)
  | [] => .ok []
  | n :: ns =>
    match s.load parse context (some n) with
    | .error e => .error e
    | .ok m =>
      match s.loadEach parse context ns with
      | .error e => .error e
      | .ok ms => .ok (m :: ms)

/-- Load each of a list of names, or nothing for an absent list. -/
def loadAll (s : Store) (parse : PropertyParser) (context : Option Nat) :
    Option (List String) → Except ResourceError (Option (List PropertyMap))
  | none => .ok none
  | some names =>
    match s.loadEach parse context names with
    | .error e => .error e
    | .ok ms => .ok (some ms)

/-- An absent name leaves the map as it is. -/
theorem loadInto_none (s : Store) (parse : PropertyParser) (m : PropertyMap) (h : Nat) :
    s.loadInto parse m (some h) none = .ok m :=
  rfl

/-- No names load no maps, whatever the context. -/
theorem loadAll_nil (s : Store) (parse : PropertyParser) (context : Option Nat) :
    s.loadAll parse context (some []) = .ok (some []) :=
  rfl

end Store
end Resource
end ResourceKit

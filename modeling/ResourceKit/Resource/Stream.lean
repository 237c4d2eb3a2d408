import ResourceKit.Resource.Store
import ResourceKit.Resource.Error
import ResourceKit.Lines.Reader

/-!
# Opening resources by name

A resource is opened by name from a resolver: an absent name is refused, a resolver that has
no such resource is reported as *not found* naming both, and a failure to open is passed on.
On top of that, a resource reads as its whole contents, as text (an absent name reading as no
text), or as lines through a buffer of the standard capacity.

**Results.**
* `stream_none`: an absent name is refused before any resolver is asked.
* `readString_none`: an absent name reads as no text.
-/

namespace ResourceKit
namespace Resource

open Reading

namespace Store

/-- The stream of a named resource from the resolver under a handle. -/
def stream (s : Store) (h : Nat) (name : Option String) :
    Except ResourceError (List Segment) :=
  match name with
  | none => .error (.missing .resource)
  | some resource =>
    match s.open h resource with
    | .error e => .error (.io e)
    | .ok none => .error (.notFound resource (s.nameOf h))
    | .ok (some src) => .ok src

/-- The text of a named resource, or no text for an absent name. -/
def readString (s : Store) (h : Nat) : Option String → Except ResourceError (Option String)
  | none => .ok none
  | some resource =>
    match s.stream h (some resource) with
    | .error e => .error e
    | .ok src =>
      match Lines.readText src with
      | .error e => .error (.io e)
      | .ok text => .ok (some text)

/-- The lines of a named resource. -/
def readLines (s : Store) (h : Nat) (name : Option String) : Except ResourceError (List String) :=
  match s.stream h name with
  | .error e => .error e
  | .ok src =>
    match Lines.readLines Capacity.standard src with
    | .error e => .error (.io e)
    | .ok lines => .ok lines

end Store

/-- The whole contents of a stream, or its failure. -/
def contents (src : List Segment) : Except ResourceError (List UInt8) :=
  match drain src with
  | (bytes, .endOfInput) => .ok bytes
  | (_, .failed m) => .error (.io (.injected m))

/-- An absent name is refused before any resolver is asked. -/
theorem stream_none (s : Store) (h : Nat) : s.stream h none = .error (.missing .resource) :=
  rfl

/-- An absent name reads as no text. -/
theorem readString_none (s : Store) (h : Nat) : s.readString h none = .ok none :=
  rfl

end Resource
end ResourceKit

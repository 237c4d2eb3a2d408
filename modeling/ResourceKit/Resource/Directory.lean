import ResourceKit.Resource.Memory
import ResourceKit.Files.Tree
import ResourceKit.Reading.Source

/-!
# Directory resources

A directory resolver finds resources as files below a root path of a file tree. A resource
name, without its leading slashes, is read as a relative path by the system's path library:
its components are a lead (the root for a path that starts with `/`, the current directory for
one whose first segment is `.`), then one per `/`-separated segment, where an empty segment and
`.` count for nothing, `..` is the parent directory and any other segment is a name. A name
with a component other than a name or the current directory would leave the root and finds
nothing. The path opened is the root joined with the name, a separator between them unless the
root is empty or already ends in one. Opening walks
that path: a directory, or nothing at the path, is no resource, and every other failure of the
walk is reported. A root given as an absolute path is seen by the system with the path of the
tree's top in front of it, which counts toward the longest path it opens.

**Results.**
* `locate_climbing`: a name with a `..` segment is not located.
* `joinPath_empty`: joining onto an empty root gives the relative path itself.
-/

namespace ResourceKit
namespace Resource

open Reading Files

/-- Resources as files below a root path of a file tree. -/
structure DirResolver where
  name : String
  root : String
  tree : FileTree
  /-- The bytes the system sees in front of a path walked from the tree's top. -/
  lead : Nat := 0

/-- A relative path joined onto a path, with a separator unless the path is empty or ends in one. -/
def joinPath (base relative : String) : String :=
  if base = "" ∨ base.endsWith "/" then base ++ relative else base ++ "/" ++ relative

/-- The `/`-separated segments of a path, empty ones included. -/
def segments (path : String) : List String :=
  (path.toList.splitOn '/').map String.ofList

/-- Whether a relative path has a `..` segment. -/
def Climbs (relative : String) : Prop :=
  ".." ∈ segments relative

instance (relative : String) : Decidable (Climbs relative) :=
  inferInstanceAs (Decidable (_ ∈ _))

/-- A component of a path as the system's path library reads it. -/
inductive Component
  | rootDir
  | curDir
  | parentDir
  | normal (name : String)
deriving Repr, DecidableEq

/-- The component a segment reads as; an empty segment and `.` read as none. -/
def Component.ofSegment (segment : List Char) : Option Component :=
  match segment with
  | [] => none
  | ['.'] => none
  | ['.', '.'] => some .parentDir
  | _ => some (.normal (String.ofList segment))

/-- The component a path begins with: the root for an absolute path, the current directory for
a relative path whose first segment is `.`, and none otherwise. -/
def leadComponent (path : List Char) : List Component :=
  if path.head? = some '/' then [.rootDir]
  else if (path.splitOn '/').head? = some ['.'] then [.curDir]
  else []

/-- The components of a path: its lead, then one for each segment that is neither empty nor
`.`. -/
def components (path : String) : List Component :=
  leadComponent path.toList ++ (path.toList.splitOn '/').filterMap Component.ofSegment

/-- Whether a component keeps a path where it is or below it. -/
def Component.staysBelow : Component → Bool
  | .normal _ => true
  | .curDir => true
  | _ => false

/-- The path of a resource below the root, unless a component of its name would leave it. -/
def DirResolver.locate (d : DirResolver) (resource : String) : Option String :=
  if (components (normalize resource)).all Component.staysBelow then
    some (joinPath d.root (normalize resource))
  else none

/-- Open a resource: the stream of the file its path names, nothing for a directory, a device
or a path with nothing at it, or the failure of the walk. -/
def DirResolver.open (d : DirResolver) (resource : String) :
    Except IoFailure (Option (List Segment)) :=
  match d.locate resource with
  | none => .ok none
  | some path =>
    match d.tree.walk d.lead path with
    | .ok (.file contents) => .ok (some (ofBytes contents))
    | .ok .directory => .ok none
    | .ok .device => .ok none
    | .error .missing => .ok none
    | .error e => .error e

/-- A name with a `..` segment is not located. -/
theorem locate_climbing (d : DirResolver) (resource : String) (h : Climbs (normalize resource)) :
    d.locate resource = none := by
  have hparent : Component.parentDir ∈ components (normalize resource) := by
    simp only [Climbs, segments, List.mem_map] at h
    obtain ⟨seg, hseg, hdots⟩ := h
    have hseg' : seg = ['.', '.'] := by
      have := congrArg String.toList hdots
      simpa using this
    subst hseg'
    simp only [components, List.mem_append, List.mem_filterMap]
    exact Or.inr ⟨_, hseg, rfl⟩
  have hall : (components (normalize resource)).all Component.staysBelow = false := by
    rw [List.all_eq_false]
    exact ⟨_, hparent, by decide⟩
  simp [DirResolver.locate, hall]

/-- Joining onto an empty root gives the relative path itself. -/
theorem joinPath_empty (relative : String) : joinPath "" relative = relative := by
  simp [joinPath]

end Resource
end ResourceKit

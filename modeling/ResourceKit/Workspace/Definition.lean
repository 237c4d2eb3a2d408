import ResourceKit.Resource.Store
import ResourceKit.Files.Build
import ResourceKit.Workspace.Rejection

/-!
# Resolver definitions

A workspace starts from definitions of resolvers, each under an id of its own. A memory table
is filled by inserting its entries in order. A directory is set in a file tree of its own, the
session directory, a directory of the temp directory: first its root `root` is made, unless the
definition says it does not exist, then the directories listed, then the files, in order, each
by its path from the session directory. A directory resolver is either named, with its root the
absolute path of `root`, or made from a root path read in the session directory, which is then
also its name. A tree that cannot be built so refuses the session. The id `default` is bound from
the start to the default chain, named by `defaultName`, with no members.
-/

namespace ResourceKit
namespace Workspace

open Resource Files Reading

/-- How a directory resolver is made: named, with its root at `root`, or from a relative root. -/
inductive DirRoot
  | named (name : String)
  | relative (root : String)
deriving Repr, DecidableEq

/-- The definition of a resolver under an id. -/
inductive Definition
  | memory (id name : String) (entries : List (String × List UInt8))
  | directory (id : String) (root : DirRoot) (files : List (String × List UInt8))
      (dirs : List String) (rootExists : Bool)
  | chain (id name : String)
  | failing (id name : String) (data : List UInt8) (message : String)
  | refusing (id name message : String)
deriving Repr

/-- The id a definition binds. -/
def Definition.id : Definition → String
  | .memory id _ _ => id
  | .directory id _ _ _ _ => id
  | .chain id _ => id
  | .failing id _ _ _ => id
  | .refusing id _ _ => id

/-- Where a named directory resolver has its root. -/
def namedRoot : String := "root"

/-- The bytes of the session directory's absolute path: the temp directory `/tmp`, then a name of
four letters and six drawn at random. -/
def sessionDirBytes : Nat := 15

/-- The bytes in front of a path read in the session directory when it is given as absolute. -/
def sessionLead : Nat := sessionDirBytes + 1

/-- The file tree of a directory definition: the root, the directories, then the files. -/
def dirTree (files : List (String × List UInt8)) (dirs : List String) (rootExists : Bool) :
    Except IoFailure FileTree := do
  let t ← if rootExists then ({} : FileTree).makeDirsAt sessionLead namedRoot else pure {}
  let t ← dirs.foldlM (fun t d => t.makeDirsAt sessionLead d) t
  files.foldlM (fun t f => t.writeFile sessionLead f.1 f.2) t

/-- The resolver a definition makes. -/
def Definition.resolver : Definition → Except IoFailure Resolver
  | .memory _ name entries =>
    .ok (.memory (entries.foldl (fun t e => (t.insert e.1 e.2).2) { name }))
  | .directory _ root files dirs rootExists => do
    let tree ← dirTree files dirs rootExists
    match root with
    | .named name => pure (.directory ⟨name, namedRoot, tree, sessionLead⟩)
    | .relative path => pure (.directory ⟨path, path, tree, 0⟩)
  | .chain _ name => .ok (.chain name [])
  | .failing _ name data message => .ok (.failing name data message)
  | .refusing _ name message => .ok (.refusing name message)

/-- Whether a definition makes a directory from a relative root. -/
def Definition.isRelativeDir : Definition → Bool
  | .directory _ (.relative _) _ _ _ => true
  | _ => false

/-- The name of the default chain. -/
def defaultName : String := "arputil"

/-- The id bound to the default chain. -/
def defaultId : String := "default"

end Workspace
end ResourceKit

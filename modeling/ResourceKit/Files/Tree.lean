import ResourceKit.Reading.Failure

/-!
# File trees and path walks

A file tree holds files with their contents and directories, each by its path from the top
of the tree; every ancestor of an entry is a directory. The top is a directory of the temp
directory of the machine, and the rest of the machine that a path can reach is a fixed table
of entries by absolute path: the machine's top, the temp directory, the device directory with
its null device, and the kernel's settings directory with the setting naming the system. A path is walked one `/`-separated component at a time, as the operating
system does: an absolute path starts at the machine's top, a relative one at the tree's top;
an empty component and `.` stay where they are, `..` goes up (from the tree's top to the temp
directory, and the machine's top is its own parent), and a name goes down to a child. Each
component after the first must be looked up in a directory, so a component after a file or a
device, a trailing `/` included, fails with *not a directory*; a name with no entry fails with
*missing*; and a component longer than 255 bytes is refused. The tree's own directory has a
name drawn at random, so no walk from the machine's top comes back into the tree.

A path is handed to the system whole, so one of 4096 bytes or more is refused before any
component is looked at. The path the system sees may have a part in front of the one walked
here, the directory a relative path is read in when it is opened by its absolute path; its
bytes count too. An absolute path replaces that directory, so nothing stands in front of it.

**Results.**
* `walkFrom_dot`: `.` names the place the walk is at.
* `walkFrom_device`: nothing can be walked below a device.
* `walk_long`: a path too long for the system is refused whatever the tree holds.
-/

namespace ResourceKit
namespace Files

open Reading

/-- The number of bytes at which a path is too long to be opened. -/
def maxPathBytes : Nat := 4096

/-- The longest path component, in bytes. -/
def maxNameBytes : Nat := 255

/-- What a path names: a file with its contents, a directory, or a device, which can be
opened but holds no entries and is not a file. -/
inductive Node
  | file (contents : List UInt8)
  | directory
  | device
deriving Repr, DecidableEq

/-- Files and directories by their path from the top. -/
structure FileTree where
  files : List (List String × List UInt8) := []
  dirs : List (List String) := []
deriving Repr

/-- Where a walk is: inside the tree by a path from its top, or outside it by an absolute
path on the machine. -/
inductive Place
  | inside (path : List String)
  | outside (path : List String)
deriving Repr, DecidableEq

/-- The device directory's name, under the machine's top. -/
def deviceDirName : String := "dev"

/-- The device that reads as empty, in the device directory. -/
def nullDeviceName : String := "null"

/-- The path of the directory of the kernel's settings, under the machine's top. -/
def kernelDir : List String := ["proc", "sys", "kernel"]

/-- The kernel's setting that names the system, in its settings directory. -/
def osTypeName : String := "ostype"

/-- What the kernel's setting that names the system reads: the name of the kernel. -/
def osTypeText : String := "Linux\n"

/-- The absolute path of the directory the tree's top lies in: the temp directory. -/
def treeParent : List String := [tempDirName]

/-- The entries of the machine outside the tree, by absolute path: its top, the temp directory,
the device directory with its null device, and the directories down to the kernel's settings
with the one that names the system. -/
def machineEntries : List (List String × Node) :=
  [([], .directory), ([tempDirName], .directory), ([deviceDirName], .directory),
    ([deviceDirName, nullDeviceName], .device)] ++
  ((List.range kernelDir.length).map fun n => (kernelDir.take (n + 1), .directory)) ++
  [(kernelDir ++ [osTypeName], .file osTypeText.toUTF8.toList)]

/-- The entry of the machine at an absolute path outside the tree. -/
def machineNode? (path : List String) : Option Node :=
  (machineEntries.find? (·.1 == path)).map (·.2)

/-- Whether a path is a directory of the tree: the top, a listed directory, or an ancestor of
an entry. -/
def FileTree.isDir (t : FileTree) (path : List String) : Bool :=
  path.isEmpty || t.dirs.any (fun d => path.isPrefixOf d) ||
    t.files.any (fun f => path.isPrefixOf f.1 && path.length < f.1.length)

/-- The node at a path of the tree. -/
def FileTree.node? (t : FileTree) (path : List String) : Option Node :=
  match t.files.find? (·.1 == path) with
  | some f => some (.file f.2)
  | none => if t.isDir path then some .directory else none

/-- One component from a directory at `place`: the place it leads to and what is there. -/
def FileTree.step (t : FileTree) (place : Place) (name : String) :
    Except IoFailure (Place × Node) :=
  if name = "" ∨ name = "." then .ok (place, .directory)
  else if name = ".." then
    match place with
    | .inside path =>
      if path.isEmpty then .ok (.outside treeParent, .directory)
      else .ok (.inside path.dropLast, .directory)
    | .outside path => .ok (.outside path.dropLast, .directory)
  else if name.utf8ByteSize > maxNameBytes then .error .nameTooLong
  else
    match place with
    | .inside path =>
      match t.node? (path ++ [name]) with
      | some node => .ok (.inside (path ++ [name]), node)
      | none => .error .missing
    | .outside path =>
      match machineNode? (path ++ [name]) with
      | some node => .ok (.outside (path ++ [name]), node)
      | none => .error .missing

/-- Walking components from a place whose node is known: the place reached and its node. -/
def FileTree.walkFrom (t : FileTree) : Place → Node → List String →
    Except IoFailure (Place × Node)
  | place, node, [] => .ok (place, node)
  | _, .file _, _ :: _ => .error .notDirectory
  | _, .device, _ :: _ => .error .notDirectory
  | place, .directory, name :: rest =>
    match t.step place name with
    | .error e => .error e
    | .ok (place', node) => t.walkFrom place' node rest

/-- Whether a path is absolute: read from the machine's top, with nothing in front of it. -/
def IsAbsolute (path : String) : Prop :=
  path.startsWith "/" = true

instance (path : String) : Decidable (IsAbsolute path) :=
  inferInstanceAs (Decidable (_ = _))

/-- The bytes the system sees in front of a path read in a directory with `lead` bytes of
absolute path: none when the path is absolute itself. -/
def leadOf (lead : Nat) (path : String) : Nat :=
  if IsAbsolute path then 0 else lead

/-- Whether a path is too long to be opened, read in a directory with `lead` bytes of absolute
path. -/
def TooLongPath (lead : Nat) (path : String) : Prop :=
  maxPathBytes ≤ leadOf lead path + path.utf8ByteSize

instance (lead : Nat) (path : String) : Decidable (TooLongPath lead path) :=
  inferInstanceAs (Decidable (_ ≤ _))

/-- Where the walk of a path starts: the machine's top for an absolute path, the tree's top
otherwise. -/
def startOf (path : String) : Place :=
  if IsAbsolute path then .outside [] else .inside []

/-- The node a path names, read in a directory with `lead` bytes of absolute path. -/
def FileTree.walk (t : FileTree) (lead : Nat) (path : String) : Except IoFailure Node :=
  if path.toList.contains '\x00' then .error .nulInPath
  else if TooLongPath lead path then .error .nameTooLong
  else if path = "" then .error .missing
  else (t.walkFrom (startOf path) .directory (path.splitOn "/")).map (·.2)

/-- `.` names the place the walk is at. -/
theorem walkFrom_dot (t : FileTree) (place : Place) :
    t.walkFrom place .directory ["."] = t.walkFrom place .directory [] := by
  simp [FileTree.walkFrom, FileTree.step]

/-- Nothing can be walked below a device. -/
theorem walkFrom_device (t : FileTree) (place : Place) (name : String) (rest : List String) :
    t.walkFrom place .device (name :: rest) = .error .notDirectory := by
  simp [FileTree.walkFrom]

/-- A path too long for the system is refused whatever the tree holds. -/
theorem walk_long (t : FileTree) (lead : Nat) (path : String)
    (hnul : '\x00' ∉ path.toList) (h : TooLongPath lead path) :
    t.walk lead path = .error .nameTooLong := by
  simp [FileTree.walk, hnul, h]

end Files
end ResourceKit

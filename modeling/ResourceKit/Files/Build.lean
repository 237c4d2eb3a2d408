import ResourceKit.Files.Tree

/-!
# Building file trees

Directories are made and files written by path, the way a program does it through the
operating system. Making a directory fails if anything is at the path already; making a
directory with all the missing ones above it starts at the path and, where the directory above
is missing, makes that first, a directory found already there being no failure. A file is
written by first making the directories above it that way, then opening the path itself for
writing, which creates it when missing. A path ending in `/`, `.` or `..` cannot be created as
a file, and the system refuses it so before it looks at the last name, its length included; a
directory there cannot be written either, and a file there is overwritten.

The directory above a path is found as a path library finds it: trailing empty and `.`
segments are dropped, then the last component, then trailing empty and `.` segments again. The
system itself always walks a path as written, so making `x/.` with `x` missing makes the
directory above, the top, and then fails again on `x`.

Outside the tree the machine is only known by its fixed entries, and what is made or written
there is not kept: a name already there is refused as it would be, and anything else is made
without changing the tree.
-/

namespace ResourceKit
namespace Files

open Reading

/-- The segments of a path as written: the texts between its separators. -/
def segments (path : String) : List String :=
  path.splitOn "/"

/-- Whether a segment adds nothing to a path: empty, or `.`. -/
def isBlankSegment (s : String) : Bool :=
  s == "" || s == "."

/-- The segments without the blank ones at the end. -/
def trimBlank (segs : List String) : List String :=
  (segs.reverse.dropWhile isBlankSegment).reverse

/-- The path above a path, as a path library finds it. -/
def parentSegments (segs : List String) : List String :=
  trimBlank (trimBlank segs).dropLast

/-- The place a walk of segments ends at, if it ends at a directory. -/
def FileTree.directoryAt (t : FileTree) (start : Place) (path : List String) :
    Except IoFailure Place :=
  match t.walkFrom start .directory path with
  | .error e => .error e
  | .ok (place, .directory) => .ok place
  | .ok (_, _) => .error .notDirectory

/-- What is at a name in a directory, inside the tree or outside it. -/
def FileTree.nodeIn? (t : FileTree) (place : Place) (name : String) : Option Node :=
  match place with
  | .inside p => t.node? (p ++ [name])
  | .outside p => machineNode? (p ++ [name])

/-- The tree with a directory made at a name in a directory; one made outside the tree is not
kept. -/
def FileTree.addDir (t : FileTree) (place : Place) (name : String) : FileTree :=
  match place with
  | .inside p => { t with dirs := t.dirs ++ [p ++ [name]] }
  | .outside _ => t

/-- Whether a path names a directory. -/
def FileTree.isDirAt (t : FileTree) (start : Place) (path : List String) : Bool :=
  match t.walkFrom start .directory path with
  | .ok (_, .directory) => true
  | _ => false

/-- Make one directory, its path given by segments as written. -/
def FileTree.makeDir (t : FileTree) (start : Place) (segs : List String) :
    Except IoFailure FileTree :=
  let trimmed := (segs.reverse.dropWhile (· = "")).reverse
  match trimmed.getLast? with
  | none => .error .occupied
  | some last =>
    match t.directoryAt start trimmed.dropLast with
    | .error e => .error e
    | .ok place =>
      if last = "." ∨ last = ".." then .error .occupied
      else if last.utf8ByteSize > maxNameBytes then .error .nameTooLong
      else
        match t.nodeIn? place last with
        | some _ => .error .occupied
        | none => .ok (t.addDir place last)

/-- Make a directory and every missing one above it, within `fuel` levels; a directory already
there is kept. -/
def FileTree.makeDirsWithin (t : FileTree) (start : Place) :
    Nat → List String → Except IoFailure FileTree
  | 0, _ => .ok t
  | _, [] => .ok t
  | fuel + 1, segs =>
    match t.makeDir start segs with
    | .ok t' => .ok t'
    | .error .missing =>
      match t.makeDirsWithin start fuel (parentSegments segs) with
      | .error e => .error e
      | .ok t' =>
        match t'.makeDir start segs with
        | .ok t'' => .ok t''
        | .error e => if t'.isDirAt start segs then .ok t' else .error e
    | .error e => if t.isDirAt start segs then .ok t else .error e

/-- Make a directory and every missing one above it. Each level up drops a segment, so one
level per segment is enough. -/
def FileTree.makeDirs (t : FileTree) (start : Place) (segs : List String) :
    Except IoFailure FileTree :=
  t.makeDirsWithin start (segs.length + 1) segs

/-- The tree with a file at a path, replacing the contents of a file there. -/
def FileTree.put (t : FileTree) (path : List String) (contents : List UInt8) : FileTree :=
  if t.files.any (·.1 == path) then
    { t with files := t.files.map fun f => if f.1 == path then (path, contents) else f }
  else { t with files := t.files ++ [(path, contents)] }

/-- The tree with a file written at a name in a directory; one written outside the tree is not
kept. -/
def FileTree.putIn (t : FileTree) (place : Place) (name : String) (contents : List UInt8) :
    FileTree :=
  match place with
  | .inside p => t.put (p ++ [name]) contents
  | .outside _ => t

/-- Open a path as written for writing, and write the contents there. -/
def FileTree.openForWrite (t : FileTree) (path : String) (contents : List UInt8) :
    Except IoFailure FileTree :=
  let written := path.splitOn "/"
  let trimmed := (written.reverse.dropWhile (· = "")).reverse
  let endsInSlash := trimmed.length < written.length
  match trimmed.getLast? with
  | none => .error .isDirectory
  | some last =>
    match t.directoryAt (startOf path) trimmed.dropLast with
    | .error e => .error e
    | .ok place =>
      if endsInSlash ∨ last = "." ∨ last = ".." then .error .isDirectory
      else if last.utf8ByteSize > maxNameBytes then .error .nameTooLong
      else
        match t.nodeIn? place last with
        | some .directory => .error .isDirectory
        | _ => .ok (t.putIn place last contents)

/-- Whether the system refuses a path before walking it, seen with `lead` bytes in front. -/
def refusal? (lead : Nat) (path : String) : Option IoFailure :=
  if path.toList.contains '\x00' then some .nulInPath
  else if TooLongPath lead path then some .nameTooLong
  else none

/-- Make a directory given by its path, with every missing one above it. -/
def FileTree.makeDirsAt (t : FileTree) (lead : Nat) (path : String) : Except IoFailure FileTree :=
  match refusal? lead path with
  | some e => .error e
  | none => t.makeDirs (startOf path) (segments path)

/-- Write a file given by its path, making the directories above it first. -/
def FileTree.writeFile (t : FileTree) (lead : Nat) (path : String) (contents : List UInt8) :
    Except IoFailure FileTree :=
  match refusal? lead path with
  | some e => .error e
  | none =>
    match t.makeDirs (startOf path) (parentSegments (segments path)) with
    | .error e => .error e
    | .ok t' => t'.openForWrite path contents

/-- The top of the tree cannot be written as a file. -/
example (t : FileTree) (contents : List UInt8) :
    t.writeFile 0 "" contents = .error .isDirectory := by
  have hr : refusal? 0 "" = none := by decide
  have hc : parentSegments (segments "") = [] := by cbv
  have hs : "".splitOn "/" = [""] := by cbv
  simp [FileTree.writeFile, hr, hc, FileTree.makeDirs, FileTree.makeDirsWithin,
    FileTree.openForWrite, hs]

end Files
end ResourceKit

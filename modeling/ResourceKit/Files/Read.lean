import ResourceKit.Reading.Source
import ResourceKit.Reading.Failure
import ResourceKit.Files.Tree
import ResourceKit.Lines.Reader

/-!
# Reading a file as text

A path is opened by walking it; a directory opens, but reading it fails, and a device reads
as empty. The contents of a file are read as a whole source, so they must be UTF-8.
-/

namespace ResourceKit
namespace Files

open Reading

/-- A tree holding one file or directory at a top-level name, or nothing; a tree holds no
devices. -/
def FileTree.single (name : String) : Option Node → FileTree
  | some (.file contents) => { files := [([name], contents)] }
  | some .directory => { dirs := [[name]] }
  | _ => {}

/-- The text of the file at a path. -/
def FileTree.readText (t : FileTree) (path : String) : Except IoFailure String :=
  match t.walk 0 path with
  | .error e => .error e
  | .ok .directory => .error .isDirectory
  | .ok (.file contents) => Lines.readText (ofBytes contents)
  | .ok .device => .ok ""

/-- A path with nothing at it fails as missing. -/
example : (FileTree.single "f" none).readText "f" = .error .missing := by
  cbv

end Files
end ResourceKit

import ResourceKit.Resource.Stream
import ResourceKit.Files.Tree

/-!
# Copying a resource to a temp file

A resource of the default chain is copied into a new file of the temp directory, named by a
prefix, a run of six letters and digits drawn at random, and a suffix (`.tmp` when none is
given). The steps fail in order: the lookup, a prefix of fewer than three characters, the
creation of the file, then the copy.

The file is created empty and then written with the bytes of the stream, as they are read. A
stream that fails part way has its bytes before the failure written, and then the file is
removed, so a copy that fails leaves no file behind. A copy that succeeds keeps its file and
registers it for removal when the process exits normally; at exit the registered files are
removed, the last registered first, and a file already gone is passed over. Keeping the file
cannot fail on a Unix system, and writing to it is taken to succeed: the machine's disk is not
modelled.

The name is a path from the temp directory `/tmp`, or from the top of the file system when it
starts with `/`. It is walked over the machine's known entries: an empty component and `.`
stay where they are, `..` goes up, a name leads to a directory there, a component after a
device is not in a directory, and any other component before the last is missing; a component
with drawn characters in it names nothing known. A component longer than 255 bytes is
refused, a name that ends in `/`, `.` or `..` is a directory and cannot be created (the system
says so before it looks at the last name's length), and a NUL anywhere, or a whole path of
4096 bytes or more, is refused before the path is walked.

The file lies in the temp directory when the path, read by a path library (empty components and
`.` dropped), has the temp directory's path before its last component; its name is that last
component. What is reported about the file depends only on where the drawn run lies, never on
which characters were drawn.
-/

namespace ResourceKit
namespace Resource

open Reading

/-- A character of a temp file's name: given by the caller or drawn at random. Drawn characters
are letters and digits, so none is `/` or NUL. -/
inductive NameChar
  | given (c : Char)
  | drawn
deriving Repr, DecidableEq

/-- The number of characters drawn for a temp file's name. -/
def drawnLength : Nat := 6

/-- The suffix of a temp file when none is given. -/
def defaultSuffix : String := ".tmp"

/-- The name of a temp file: the prefix, the drawn run and the suffix. -/
def tempName (stem suffix : String) : List NameChar :=
  stem.toList.map .given ++ List.replicate drawnLength .drawn ++ suffix.toList.map .given

/-- The bytes a name character takes; a drawn one is a single ASCII byte. -/
def NameChar.bytes : NameChar → Nat
  | .given c => c.utf8Size
  | .drawn => 1

/-- Whether a name character is the separator. -/
def NameChar.isSeparator : NameChar → Bool
  | .given '/' => true
  | _ => false

/-- Whether a component stays in the directory it is read in. -/
def staysPut (component : List NameChar) : Bool :=
  component = [] || component = [.given '.']

/-- Whether a component goes up to the directory above. -/
def goesUp (component : List NameChar) : Bool :=
  component = [.given '.', .given '.']

/-- Whether a component is longer than a file name may be. -/
def tooLong (component : List NameChar) : Bool :=
  decide ((component.map NameChar.bytes).foldr (· + ·) 0 > Files.maxNameBytes)

/-- The characters of a given text. -/
def givenText (s : String) : List NameChar :=
  s.toList.map .given

/-- The character given, if it was not drawn. -/
def NameChar.given? : NameChar → Option Char
  | .given c => some c
  | .drawn => none

/-- The text of a component whose characters are all given; one with a drawn character names
nothing known in advance. -/
def givenOnly? (component : List NameChar) : Option String :=
  (component.mapM NameChar.given?).map String.ofList

/-- Enter one component before the last from the directory at an absolute path. -/
def enterComponent (dir : List String) (c : List NameChar) : Except IoFailure (List String) :=
  if staysPut c then .ok dir
  else if goesUp c then .ok dir.dropLast
  else if tooLong c then .error .nameTooLong
  else
    match givenOnly? c with
    | none => .error .missing
    | some name =>
      match Files.machineNode? (dir ++ [name]) with
      | some .directory => .ok (dir ++ [name])
      | some _ => .error .notDirectory
      | none => .error .missing

/-- Walk the components of a path: each before the last must lead to a directory, the last is
created, unless the path ended in `/`. -/
def placeComponents (endsInSlash : Bool) :
    List String → List (List NameChar) → Except IoFailure Unit
  | _, [] => .error .isDirectory
  | _, [last] =>
    if endsInSlash || staysPut last || goesUp last then .error .isDirectory
    else if tooLong last then .error .nameTooLong
    else .ok ()
  | dir, c :: rest =>
    match enterComponent dir c with
    | .error e => .error e
    | .ok dir' => placeComponents endsInSlash dir' rest

/-- The whole path a temp file's name is opened at. -/
def fullPath (name : List NameChar) : List NameChar :=
  if name.head? = some (.given '/') then name else givenText (tempDirPath ++ "/") ++ name

/-- Where a temp file of this name is created: whether it lies in the temp directory, and its
file name, the last component of its path. -/
def place (name : List NameChar) : Except IoFailure (Bool × List NameChar) :=
  let path := fullPath name
  if path.contains (.given '\x00') then .error .nulInPath
  else if (path.map NameChar.bytes).foldr (· + ·) 0 ≥ Files.maxPathBytes then
    .error .nameTooLong
  else
    let trimmed := (path.reverse.dropWhile NameChar.isSeparator).reverse
    let endsInSlash := trimmed.length < path.length
    match placeComponents endsInSlash [] ((trimmed.splitOn (.given '/')).drop 1) with
    | .error e => .error e
    | .ok () =>
      let read := (path.splitOn (.given '/')).filter fun c => !staysPut c
      .ok (read.dropLast = [givenText tempDirName], read.getLast?.getD [])

/-- A resource copied to a temp file. -/
structure TempFile where
  /-- The prefix asked for. -/
  stem : String
  /-- The suffix asked for. -/
  suffix : String
  /-- The file's name, the last component of its path. -/
  fileName : List NameChar
  /-- Whether the file lies in the temp directory. -/
  inTempDir : Bool
  /-- What was copied. -/
  contents : List UInt8
deriving Repr, DecidableEq

namespace TempFile

/-- Whether the file's name starts with the prefix. -/
def startsWithStem (t : TempFile) : Bool :=
  (t.stem.toList.map NameChar.given).isPrefixOf t.fileName

/-- Whether the file's name ends with the suffix. -/
def endsWithSuffix (t : TempFile) : Bool :=
  (t.suffix.toList.map NameChar.given).isSuffixOf t.fileName

/-- The length of the file's name less the lengths of prefix and suffix. -/
def drawnCount (t : TempFile) : Int :=
  (t.fileName.length : Int) - t.stem.length - t.suffix.length

end TempFile

/-- The temp files of a process: those made and still on disk, in the order they were made, and
those registered for removal when the process exits, in the order they were registered. -/
structure TempFiles where
  onDisk : List TempFile := []
  atExit : List TempFile := []
deriving Repr

namespace TempFiles

/-- Make a file. -/
def create (fs : TempFiles) (t : TempFile) : TempFiles :=
  { fs with onDisk := fs.onDisk ++ [t] }

/-- Write bytes into the file made last. -/
def fillLast (fs : TempFiles) (bytes : List UInt8) : TempFiles :=
  { fs with
    onDisk := fs.onDisk.dropLast ++
      (fs.onDisk.getLast?.map fun t => { t with contents := bytes }).toList }

/-- Remove the file made last, as dropping a temp file that was not kept does. -/
def discardLast (fs : TempFiles) : TempFiles :=
  { fs with onDisk := fs.onDisk.dropLast }

/-- Register a file for removal when the process exits. -/
def register (fs : TempFiles) (t : TempFile) : TempFiles :=
  { fs with atExit := fs.atExit ++ [t] }

/-- Exit normally: the registered files are removed, the last registered first; removing a file
that is no longer there is passed over. -/
def exit (fs : TempFiles) : TempFiles :=
  ⟨fs.atExit.reverse.foldl List.erase fs.onDisk, []⟩

end TempFiles

/-- Copy a named resource of the default chain to a new temp file, given the process's temp
files: the file or why the copy failed, and the temp files after the copy. -/
def Store.toTempFile (s : Store) (fs : TempFiles) (name : Option String) (stem : String)
    (suffix : Option String) : Except ResourceError TempFile × TempFiles :=
  match s.stream 0 name with
  | .error e => (.error e, fs)
  | .ok src =>
    if stem.length < minPrefixLength then (.error (.shortPrefix stem), fs)
    else
      let suffix := suffix.getD defaultSuffix
      match place (tempName stem suffix) with
      | .error e => (.error (.io (.creating e)), fs)
      | .ok (inTempDir, fileName) =>
        let made := fs.create ⟨stem, suffix, fileName, inTempDir, []⟩
        match drain src with
        | (bytes, .endOfInput) =>
          let t : TempFile := ⟨stem, suffix, fileName, inTempDir, bytes⟩
          (.ok t, (made.fillLast bytes).register t)
        | (bytes, .failed m) => (.error (.io (.injected m)), (made.fillLast bytes).discardLast)

/-- A name without `/` or NUL is created in the temp directory as it is. -/
example : place [.given 'a', .drawn] = .ok (true, [.given 'a', .drawn]) := rfl

end Resource
end ResourceKit

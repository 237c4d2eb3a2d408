import ResourceKit.Text.Utf8

/-!
# Input and output failures

The failures a reading or file operation can report, by cause. Each has a *kind* (the class
of the failure) and, except for a failed temp-file creation, a message; the messages of the
operating system's errors carry their error number.

**Results.**
* `IoFailure.kind_creating`: a failed creation keeps the kind of its cause.
-/

namespace ResourceKit
namespace Reading

/-- Classes of failure. -/
inductive IoKind
  | invalidData
  | other
  | notFound
  | isADirectory
  | notADirectory
  | invalidInput
  | invalidFilename
  | alreadyExists
deriving Repr, DecidableEq

/-- The name of a class of failure. -/
def IoKind.name : IoKind → String
  | .invalidData => "InvalidData"
  | .other => "Other"
  | .notFound => "NotFound"
  | .isADirectory => "IsADirectory"
  | .notADirectory => "NotADirectory"
  | .invalidInput => "InvalidInput"
  | .invalidFilename => "InvalidFilename"
  | .alreadyExists => "AlreadyExists"

/-- A failure of reading, opening or creating, by cause. -/
inductive IoFailure
  /-- A whole stream read as text was not UTF-8. -/
  | notText
  /-- A line read as text was not UTF-8. -/
  | badLine (error : Text.Utf8.Error)
  /-- A stream or writer failed with a message of its own. -/
  | injected (message : String)
  /-- No file or directory at a path. -/
  | missing
  /-- A directory where a file was read. -/
  | isDirectory
  /-- A file where a directory was needed on a path. -/
  | notDirectory
  /-- A path with a NUL character. -/
  | nulInPath
  /-- A path, or one of its components, longer than the system allows. -/
  | nameTooLong
  /-- Something is already at a path where a directory was to be made. -/
  | occupied
  /-- A temp file could not be created; the cause's text names the temp path, so it is not
  shown. -/
  | creating (cause : IoFailure)
deriving Repr, DecidableEq

/-- The class of a failure. -/
def IoFailure.kind : IoFailure → IoKind
  | .notText | .badLine _ => .invalidData
  | .injected _ => .other
  | .missing => .notFound
  | .isDirectory => .isADirectory
  | .notDirectory => .notADirectory
  | .nulInPath => .invalidInput
  | .nameTooLong => .invalidFilename
  | .occupied => .alreadyExists
  | .creating cause => cause.kind

/-- The text of a failure, when it is shown. -/
def IoFailure.message? : IoFailure → Option String
  | .notText => some "stream did not contain valid UTF-8"
  | .badLine e => some e.message
  | .injected m => some m
  | .missing => some "No such file or directory (os error 2)"
  | .isDirectory => some "Is a directory (os error 21)"
  | .notDirectory => some "Not a directory (os error 20)"
  | .nulInPath => some "file name contained an unexpected NUL byte"
  | .nameTooLong => some "File name too long (os error 36)"
  | .occupied => some "File exists (os error 17)"
  | .creating _ => none

/-- The name of the temp directory, which lies at the top of the file system. -/
def tempDirName : String := "tmp"

/-- The path of the temp directory. -/
def tempDirPath : String := "/" ++ tempDirName

/-- Whether `part` occurs in `text` as a run of consecutive characters. -/
def mentions (text part : String) : Bool :=
  (List.range (text.length + 1)).any fun i => part.toList.isPrefixOf (text.toList.drop i)

/-- The text of a failure as reported: none when it shows the temp directory's path. -/
def IoFailure.reported? (e : IoFailure) : Option String :=
  match e.message? with
  | some m => if mentions m tempDirPath then none else some m
  | none => none

/-- The text of a missing path is reported. -/
example :
    IoFailure.missing.reported? = some "No such file or directory (os error 2)" := by
  decide +kernel

/-- A failed creation keeps the kind of its cause. -/
theorem IoFailure.kind_creating (cause : IoFailure) : (IoFailure.creating cause).kind = cause.kind :=
  rfl

end Reading
end ResourceKit

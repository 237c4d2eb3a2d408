import ResourceKit.Argument
import ResourceKit.Reading.Failure
import ResourceKit.Properties.Read
import ResourceKit.Text.Quoted

/-!
# Resource errors

Every way looking up, reading, loading or copying a resource can fail, by cause: a required
argument is absent, no resolver has the resource, a temp-file prefix is too short, properties
text is malformed, or reading or creating failed.

**Results.**
* `message_notFound`: a missing resource names itself and the resolver asked.
-/

namespace ResourceKit
namespace Resource

open Reading

/-- A failure of a resource operation, by cause. -/
inductive ResourceError
  /-- A required argument was absent. -/
  | missing (argument : MissingArgument)
  /-- The resolver asked has no such resource. -/
  | notFound (resource resolver : String)
  /-- A temp-file prefix shorter than three characters. -/
  | shortPrefix (stem : String)
  /-- Properties text that could not be read. -/
  | properties (fault : Properties.Fault)
  /-- Reading, opening or creating failed. -/
  | io (failure : IoFailure)
deriving Repr

/-- The least number of characters of a temp-file prefix. -/
def minPrefixLength : Nat := 3

/-- The text of an error, when it is shown. -/
def ResourceError.message? : ResourceError → Option String
  | .missing a => some a.message
  | .notFound resource resolver =>
    some s!"could not open resource {resource} using {resolver}'s loader"
  | .shortPrefix stem =>
    let shown := Text.quote stem
    some s!"temp file prefix {shown} must be at least three characters long"
  | .properties f => some f.message
  | .io e => e.message?

/-- A missing resource names itself and the resolver asked. -/
theorem message_notFound (resource resolver : String) :
    (ResourceError.notFound resource resolver).message? =
      some ("could not open resource " ++ resource ++ " using " ++ resolver ++ "'s loader") :=
  rfl

end Resource
end ResourceKit

/-!
# Missing arguments

Operations that take optional arguments refuse some of them when absent. Each refusal names
the argument; its text is fixed.
-/

namespace ResourceKit

/-- An argument that was required and absent. -/
inductive MissingArgument
  | collection
  | array
  | resource
  | context
deriving Repr, DecidableEq

/-- The text of a refusal. -/
def MissingArgument.message : MissingArgument → String
  | .collection => "collection cannot be null"
  | .array => "Null arrays not allowed"
  | .resource => "resource cannot be null"
  | .context => "context cannot be null"

end ResourceKit

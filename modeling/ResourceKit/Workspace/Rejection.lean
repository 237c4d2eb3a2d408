import ResourceKit.Reading.Failure

/-!
# Refused requests

A workspace refuses requests it cannot carry out at all: a definition or call it does not
know, a resolver id it has no binding for, or a call on a resolver of the wrong kind. A refusal
is not a failure of the operation asked for; it only says why nothing was done.
-/

namespace ResourceKit
namespace Workspace

/-- Why a request was refused. -/
inductive Rejection
  | unknownKind (kind : String)
  | unknownCall (call : String)
  | unreadable (message : String)
  | unknownResolver (id : String)
  | duplicateId (id : String)
  | secondRelativeDir
  | notChain
  | pushDefault
  | cycle
  | notTable
  | notCounted (call : String)
  | noDebug
  | noRoot
  /-- A directory definition's tree could not be built. -/
  | setup (failure : Reading.IoFailure)
deriving Repr, DecidableEq

/-- The text of a refusal. -/
def Rejection.message : Rejection → String
  | .unknownKind k => s!"unknown resolver kind {k}"
  | .unknownCall c => s!"unknown call {c}"
  | .unreadable m => m
  | .unknownResolver id => s!"unknown resolver {id}"
  | .duplicateId id => s!"duplicate resolver id {id}"
  | .secondRelativeDir => "only one dir resolver per session can use new"
  | .notChain => "push target must be a classpath"
  | .pushDefault => "the default classpath cannot be pushed"
  | .cycle => "pushing would make a cycle"
  | .notTable => "insert needs a memory resolver"
  | .notCounted c => s!"{c} needs a memory resolver or a classpath"
  | .noDebug =>
    "debug needs a classpath, a memory resolver with at most one entry or a dir resolver made with new"
  | .noRoot => "root needs a dir resolver made with new"
  | .setup f => f.message?.getD ""

end Workspace
end ResourceKit

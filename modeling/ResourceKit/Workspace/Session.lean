import ResourceKit.Workspace.Definition
import ResourceKit.Resource.Properties
import ResourceKit.Resource.TempFile

/-!
# Workspace sessions

A session holds a store of resolvers, the ids bound to their handles, a properties map, and
the temp files it has made. It carries out calls one at a time, each giving a reply, a failure
of the operation, or a refusal; a call that fails or is refused leaves the session as it was,
and the next call goes on. A
call that runs the properties decoder past its end aborts the whole session: nothing after it
is carried out, and the session is answered by that fault alone.

An absent context means the default chain where a stream or text is asked for; loading
properties needs a context and refuses an absent one as a failure of its own.

**Results.**
* `replay_length`: a session that is not aborted answers every call, in order.
-/

namespace ResourceKit
namespace Workspace

open Resource Properties Reading

/-- A call on a session. Contexts and resolvers are ids. -/
inductive Call
  | push (chain entry : String)
  | insert (table resource : String) (contents : List UInt8)
  | size (resolver : String)
  | isEmpty (resolver : String)
  | name (resolver : String)
  | openResource (resolver resource : String)
  | stream (context name : Option String)
  | readString (context name : Option String)
  | readLines (context name : Option String)
  | readProperties (context name : Option String)
  | properties
  | root (resolver : String)
  | debug (resolver : String)
  | load (context name : Option String)
  | loadAll (context : Option String) (names : Option (List String))
  | toTempFile (name : Option String) (stem : String) (suffix : Option String)

/-- What a call gives back when it succeeds. -/
inductive Reply
  | done
  | bytes (contents : List UInt8)
  | found (contents : Option (List UInt8))
  | text (s : String)
  | maybeText (s : Option String)
  | lines (ls : List String)
  | count (n : Nat)
  | flag (b : Bool)
  | map (m : PropertyMap)
  | maps (ms : Option (List PropertyMap))
  | file (t : TempFile)

/-- The outcome of a call. -/
inductive Outcome
  | replied (r : Reply)
  | failed (e : ResourceError)
  | rejected (r : Rejection)

/-- The fault of an outcome that aborts the session, if it is one. -/
def Outcome.abort? : Outcome → Option ResourceError
  | .failed (.properties .decoderFinished) => some (.properties .decoderFinished)
  | _ => none

/-- Resolvers, the ids bound to them, a properties map, and the temp files made so far. -/
structure Session where
  store : Store
  bindings : List (String × Nat)
  /-- The id of the directory made from a relative root, if any. -/
  relativeDir : Option String
  props : PropertyMap
  temp : TempFiles

namespace Session

/-- The session before any definition: the default chain under its id. -/
def initial (props : PropertyMap) : Session :=
  ⟨⟨[.chain defaultName []]⟩, [(defaultId, 0)], none, props, {}⟩

/-- Bind a definition's resolver to its id. -/
def define (s : Session) (d : Definition) : Except Rejection Session :=
  if s.bindings.any (·.1 == d.id) then .error (.duplicateId d.id)
  else if d.isRelativeDir && s.relativeDir.isSome then .error .secondRelativeDir
  else
    match d.resolver with
    | .error f => .error (.setup f)
    | .ok r =>
      let (h, store) := s.store.add r
      .ok { s with
        store
        bindings := s.bindings ++ [(d.id, h)]
        relativeDir := if d.isRelativeDir then some d.id else s.relativeDir }

/-- The session after all definitions, in order. -/
def start (props : PropertyMap) (defs : List Definition) : Except Rejection Session :=
  defs.foldlM define (initial props)

/-- The handle an id is bound to. -/
def handle (s : Session) (id : String) : Except Rejection Nat :=
  match s.bindings.find? (·.1 == id) with
  | some b => .ok b.2
  | none => .error (.unknownResolver id)

/-- The handle of a context that may be absent. -/
def context? (s : Session) : Option String → Except Rejection (Option Nat)
  | none => .ok none
  | some id => (s.handle id).map some

/-- The handle of a context, the default chain when it is absent. -/
def contextOrDefault (s : Session) (c : Option String) : Except Rejection Nat :=
  (s.context? c).map (·.getD 0)

/-- The reply of a resource operation. -/
def reply {α : Type} (r : Except ResourceError α) (f : α → Reply) : Outcome :=
  match r with
  | .ok a => .replied (f a)
  | .error e => .failed e

/-- The whole contents of a stream that may fail to open or to read. -/
def drained (r : Except ResourceError (List Segment)) : Except ResourceError (List UInt8) :=
  match r with
  | .error e => .error e
  | .ok src => contents src

/-- Push one resolver onto a chain. -/
def pushOnto (s : Session) (chain entry : String) : Except Rejection Session := do
  let target ← s.handle chain
  let h ← s.handle entry
  match s.store.get? target with
  | some (.chain _ _) =>
    if h = 0 then .error .pushDefault
    else
      match s.store.push target h with
      | .ok store => .ok { s with store }
      | .error .notChain => .error .notChain
      | .error .cycle => .error .cycle
  | _ => .error .notChain

/-- The number of entries of a memory table or members of a chain. -/
def sizeOf (s : Session) (call id : String) : Except Rejection Nat := do
  let h ← s.handle id
  match s.store.get? h with
  | some (.memory t) => .ok t.size
  | some (.chain _ members) => .ok members.length
  | _ => .error (.notCounted call)

/-- The debugging text of a resolver, for those whose text is fixed by what they hold. -/
def debugText (s : Session) (id : String) : Except Rejection String := do
  let h ← s.handle id
  if h = 0 then .error .noDebug
  else
    match s.store.get? h with
    | some (.chain name members) => .ok (chainDebug name (members.map s.store.nameOf))
    | some (.memory t) => if t.size ≤ 1 then .ok t.debug else .error .noDebug
    | some (.directory d) => if s.relativeDir = some id then .ok d.debug else .error .noDebug
    | _ => .error .noDebug

/-- The root of the directory made from a relative root. -/
def rootText (s : Session) (id : String) : Except Rejection String := do
  let h ← s.handle id
  match s.store.get? h with
  | some (.directory d) => if s.relativeDir = some id then .ok d.root else .error .noRoot
  | _ => .error .noRoot

/-- Push a resolver onto a chain: the session after it, or why it was refused. -/
def pushed (s : Session) (chain entry : String) : Outcome × Session :=
  match s.pushOnto chain entry with
  | .ok s' => (.replied .done, s')
  | .error r => (.rejected r, s)

/-- Insert into a memory table: the contents replaced, and the session after it. -/
def inserted (s : Session) (id resource : String) (c : List UInt8) : Outcome × Session :=
  match s.handle id with
  | .error r => (.rejected r, s)
  | .ok h =>
    match s.store.get? h with
    | some (.memory t) =>
      let (old, t') := t.insert resource c
      (.replied (.found old), { s with store := s.store.set h (.memory t') })
    | _ => (.rejected .notTable, s)

/-- Load properties into the session's map, which changes only when loading succeeds. -/
def loaded (s : Session) (c name : Option String) : Outcome × Session :=
  match s.context? c with
  | .error r => (.rejected r, s)
  | .ok h =>
    match s.store.loadInto Properties.ofStream s.props h name with
    | .ok m => (.replied (.map m), { s with props := m })
    | .error e => (.failed e, s)

/-- The outcome of a call that leaves the session as it is. -/
def keep (s : Session) (r : Except Rejection Outcome) : Outcome × Session :=
  match r with
  | .ok o => (o, s)
  | .error r => (.rejected r, s)

/-- The outcome of opening a resource directly from a resolver: its whole contents, or nothing
if the resolver does not have it. -/
def opened (s : Session) (h : Nat) (resource : String) : Outcome :=
  match s.store.open h resource with
  | .error e => .failed (.io e)
  | .ok none => .replied (.found none)
  | .ok (some src) => reply (contents src) fun b => .found (some b)

/-- Carry out a call: its outcome and the session after it. -/
def step (s : Session) : Call → Outcome × Session
  | .push chain entry => s.pushed chain entry
  | .insert id resource c => s.inserted id resource c
  | .readProperties c name => s.loaded c name
  | .size id => s.keep ((s.sizeOf "len" id).map fun n => .replied (.count n))
  | .isEmpty id => s.keep ((s.sizeOf "is_empty" id).map fun n => .replied (.flag (n == 0)))
  | .name id => s.keep ((s.handle id).map fun h => .replied (.text (s.store.nameOf h)))
  | .openResource id resource => s.keep ((s.handle id).map fun h => s.opened h resource)
  | .stream c name => s.keep ((s.contextOrDefault c).map fun h =>
    reply (drained (s.store.stream h name)) .bytes)
  | .readString c name => s.keep ((s.contextOrDefault c).map fun h =>
    reply (s.store.readString h name) .maybeText)
  | .readLines c name => s.keep ((s.contextOrDefault c).map fun h =>
    reply (s.store.readLines h name) .lines)
  | .properties => (.replied (.map s.props), s)
  | .root id => s.keep ((s.rootText id).map fun t => .replied (.text t))
  | .debug id => s.keep ((s.debugText id).map fun t => .replied (.text t))
  | .load c name =>
    s.keep ((s.context? c).map fun h => reply (s.store.load Properties.ofStream h name) .map)
  | .loadAll c names =>
    s.keep ((s.context? c).map fun h => reply (s.store.loadAll Properties.ofStream h names) .maps)
  | .toTempFile name stem suffix =>
    let (r, temp) := s.store.toTempFile s.temp name stem suffix
    (reply r .file, { s with temp })

/-- What a session did: the outcomes of the calls carried out, in order, and the fault that cut
it short, if one did. -/
structure Record where
  outcomes : List Outcome
  abort : Option ResourceError

/-- Carry out calls in order, a call that could not be read being refused in its place, until a
call aborts the session. -/
def replay (s : Session) : List (Except Rejection Call) → Record
  | [] => ⟨[], none⟩
  | .error r :: rest =>
    let after := s.replay rest
    ⟨.rejected r :: after.outcomes, after.abort⟩
  | .ok c :: rest =>
    match (s.step c).1.abort? with
    | some e => ⟨[], some e⟩
    | none =>
      let after := (s.step c).2.replay rest
      ⟨(s.step c).1 :: after.outcomes, after.abort⟩

/-- A session that is not aborted answers every call, in order. -/
theorem replay_length (s : Session) (calls : List (Except Rejection Call))
    (h : (s.replay calls).abort = none) : (s.replay calls).outcomes.length = calls.length := by
  induction calls generalizing s with
  | nil => rfl
  | cons c rest ih =>
    cases c with
    | error r =>
      simp only [replay] at h ⊢
      simp [ih s h]
    | ok c =>
      simp only [replay] at h ⊢
      cases ha : (s.step c).1.abort? with
      | some e => simp [ha] at h
      | none =>
        simp only [ha] at h ⊢
        simp [ih (s.step c).2 h]

end Session

/-- Run a session: the definitions, then the calls; a definition that could not be read or
bound refuses the whole session. -/
def runSession (props : PropertyMap) (defs : List (Except Rejection Definition))
    (calls : List (Except Rejection Call)) : Except Rejection Session.Record :=
  match defs.mapM id with
  | .error r => .error r
  | .ok ds =>
    match Session.start props ds with
    | .error r => .error r
    | .ok s => .ok (s.replay calls)

end Workspace
end ResourceKit

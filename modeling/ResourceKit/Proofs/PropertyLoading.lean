import ResourceKit.Workspace.Session

/-!
# Loading properties into a map, call after call

Loading a named resource of a context into a map checks, in order: that the context is given,
that a name is given (with none, nothing is loaded), that the resource opens, and that its text
parses. Only then is the map written, all at once: what a load writes is the parser's whole
map, and it depends on the resource alone, never on the map loaded into. So loading call after
call into one map, keeping the map whenever a call fails, ends with the map it started with,
overridden in order by what each successful load read. This holds for any parser that is a
function of the stream; a session, which loads with the crate's parser, is left as it was by a
call that fails.

**Results.**
* `Store.toOption_loadInto`: a load succeeds exactly when something is read, and then writes it
  over the map.
* `Store.foldl_loadInto`: a run of loads into one map.
* `Workspace.Session.step_readProperties`: one load in a session.
* `Workspace.Session.afterCalls_readProperties`: a run of loads in a session.
* `Store.loads_override_in_order`: the whole account of loading properties.
-/

namespace ResourceKit

open Reading Properties Resource

namespace Resource
namespace Store

section Parser

variable (parse : PropertyParser)

/-- What a load of properties writes over the map, when it succeeds: the map the parser makes of
the named resource, or no entries for an absent name. A load that fails writes nothing. -/
def propertiesRead (s : Store) (context : Option Nat) (name : Option String) :
    Option PropertyMap :=
  match context, name with
  | none, _ => none
  | some _, none => some PropertyMap.empty
  | some h, some r =>
    match s.stream h (some r) with
    | .error _ => none
    | .ok src => (readProperties parse src).toOption

@[simp] theorem override_empty (m : PropertyMap) : m.override PropertyMap.empty = m := rfl

/-- A load succeeds exactly when something is read, and then writes it over the map. -/
theorem toOption_loadInto (s : Store) (m : PropertyMap) (context : Option Nat)
    (name : Option String) :
    (s.loadInto parse m context name).toOption =
      (s.propertiesRead parse context name).map m.override := by
  match context, name with
  | none, _ => rfl
  | some _, none => rfl
  | some h, some r =>
    simp only [loadInto, propertiesRead]
    cases s.stream h (some r) with
    | error e => rfl
    | ok src =>
      dsimp only
      cases readProperties parse src with
      | error e => rfl
      | ok read => rfl

/-- Loads made in turn into one map, which a failed load leaves as it was: the map overridden in
order by what each successful load read. -/
theorem foldl_loadInto (s : Store) (m : PropertyMap)
    (calls : List (Option Nat × Option String)) :
    calls.foldl (fun m c => (s.loadInto parse m c.1 c.2).toOption.getD m) m =
      (calls.filterMap fun c => s.propertiesRead parse c.1 c.2).foldl PropertyMap.override m := by
  -- what each call reads does not depend on the map, so the calls that read nothing drop out
  have hstep : (fun m c => (s.loadInto parse m c.1 c.2).toOption.getD m) =
      fun (m : PropertyMap) (c : Option Nat × Option String) =>
        ((s.propertiesRead parse c.1 c.2).map m.override).getD m := by
    funext m c
    rw [toOption_loadInto]
  rw [hstep]
  induction calls generalizing m with
  | nil => rfl
  | cons c rest ih =>
    simp only [List.foldl_cons, List.filterMap_cons]
    cases s.propertiesRead parse c.1 c.2 with
    | none => exact ih m
    | some r => exact ih (m.override r)

end Parser

end Store
end Resource

namespace Workspace
namespace Session

/-- What a load of properties from a context id writes over the session's map, when it
succeeds. -/
def propertiesRead (s : Session) (c name : Option String) : Option PropertyMap :=
  match s.context? c with
  | .ok h => s.store.propertiesRead Properties.ofStream h name
  | .error _ => none

/-- What is read does not depend on the map. -/
@[simp] theorem propertiesRead_props (s : Session) (m : PropertyMap) (c name : Option String) :
    ({ s with props := m } : Session).propertiesRead c name = s.propertiesRead c name := rfl

/-- The session after carrying out calls in order. -/
def afterCalls (s : Session) (calls : List Call) : Session :=
  calls.foldl (fun t c => (t.step c).2) s

/-- One load in a session writes what it reads over the map, and leaves the session as it was
when it reads nothing. -/
theorem step_readProperties (s : Session) (c name : Option String) :
    (s.step (.readProperties c name)).2 =
      match s.propertiesRead c name with
      | some r => { s with props := s.props.override r }
      | none => s := by
  simp only [step, loaded, propertiesRead]
  cases hc : s.context? c with
  | error r => rfl
  | ok h =>
    dsimp only
    have hread := Store.toOption_loadInto Properties.ofStream s.store s.props h name
    cases hl : s.store.loadInto Properties.ofStream s.props h name with
    | error e =>
      rw [hl] at hread
      cases hr : s.store.propertiesRead Properties.ofStream h name with
      | none => rfl
      | some r => simp [hr, Except.toOption] at hread
    | ok m =>
      rw [hl] at hread
      cases hr : s.store.propertiesRead Properties.ofStream h name with
      | none => simp [hr, Except.toOption] at hread
      | some r =>
        simp only [hr, Except.toOption, Option.map_some, Option.some.injEq] at hread
        simp [hread]

/-- A load that fails leaves the whole session as it was. -/
theorem step_readProperties_of_failed (s : Session) (c name : Option String) (e : ResourceError)
    (h : (s.step (.readProperties c name)).1 = .failed e) :
    (s.step (.readProperties c name)).2 = s := by
  simp only [step, loaded] at h ⊢
  cases hc : s.context? c with
  | error r => rfl
  | ok handle =>
    dsimp only at h ⊢
    cases hl : s.store.loadInto Properties.ofStream s.props handle name with
    | error e' => rfl
    | ok m => simp [hc, hl] at h

/-- A run of loads ends with the session's map overridden in order by what each successful load
read, and the session otherwise as it was. -/
theorem afterCalls_readProperties (s : Session) (calls : List (Option String × Option String)) :
    s.afterCalls (calls.map fun c => .readProperties c.1 c.2) =
      { s with props :=
          ((calls.filterMap fun c => s.propertiesRead c.1 c.2).foldl PropertyMap.override
            s.props) } := by
  -- the store and the ids are the same in every session of the run, so each call reads as it
  -- would from the first
  induction calls generalizing s with
  | nil => rfl
  | cons c rest ih =>
    simp only [afterCalls, List.map_cons, List.foldl_cons] at ih ⊢
    rw [step_readProperties]
    cases hr : s.propertiesRead c.1 c.2 with
    | none => simp [ih, hr]
    | some r => simp [ih, hr]

end Session
end Workspace

namespace Resource
namespace Store

/-- **Loading properties overrides the map, in order, by what each successful load read**, for
any parser that is a function of the stream. An absent context is refused whatever the name;
with a context, an absent name loads nothing; a resource that is not found is reported with the
name of the resolver asked, one that fails to open with its failure, and text that does not
parse with the parser's fault; text that parses writes its whole map over the map loaded into.
Loading in turn into one map, which a failed load leaves as it was, ends with the map overridden
in order by what the successful loads read. In a session, which loads with the crate's parser,
a load that fails leaves the session as it was, and a run of loads ends with the session's map
so overridden. Creating properties is loading into the empty map. -/
theorem loads_override_in_order (st : Store) (parse : PropertyParser) :
    (∀ m name, st.loadInto parse m none name = .error (.missing .context)) ∧
    (∀ m h, st.loadInto parse m (some h) none = .ok m) ∧
    (∀ m h r, st.open h r = .ok none →
      st.loadInto parse m (some h) (some r) = .error (.notFound r (st.nameOf h))) ∧
    (∀ m h r e, st.open h r = .error e →
      st.loadInto parse m (some h) (some r) = .error (.io e)) ∧
    (∀ m h r src f, st.open h r = .ok (some src) →
      parse (drain src).1 (drain src).2 = .error f →
      st.loadInto parse m (some h) (some r) = .error (.properties f)) ∧
    (∀ m h r src read, st.open h r = .ok (some src) →
      parse (drain src).1 (drain src).2 = .ok read →
      st.loadInto parse m (some h) (some r) = .ok (m.override read)) ∧
    (∀ m (calls : List (Option Nat × Option String)),
      calls.foldl (fun m c => (st.loadInto parse m c.1 c.2).toOption.getD m) m =
        (calls.filterMap fun c => st.propertiesRead parse c.1 c.2).foldl PropertyMap.override m) ∧
    (∀ (s : Workspace.Session) c name e,
      (s.step (.readProperties c name)).1 = .failed e → (s.step (.readProperties c name)).2 = s) ∧
    (∀ (s : Workspace.Session) (calls : List (Option String × Option String)),
      s.afterCalls (calls.map fun c => .readProperties c.1 c.2) =
        { s with props :=
            ((calls.filterMap fun c => s.propertiesRead c.1 c.2).foldl PropertyMap.override
              s.props) }) ∧
    (∀ c name, st.load parse c name = st.loadInto parse PropertyMap.empty c name) := by
  -- the stream of a resource that opens, and what its parse gives
  have hopened : ∀ m h r src, st.open h r = .ok (some src) →
      st.loadInto parse m (some h) (some r) = (readProperties parse src).map m.override := by
    intro m h r src hopen
    simp only [loadInto, stream, hopen]
    cases readProperties parse src <;> rfl
  refine ⟨fun _ _ => rfl, fun _ _ => rfl, ?_, ?_, ?_, ?_, foldl_loadInto parse st,
    Workspace.Session.step_readProperties_of_failed, Workspace.Session.afterCalls_readProperties,
    fun _ _ => rfl⟩
  · intro m h r hopen
    simp [loadInto, stream, hopen]
  · intro m h r e hopen
    simp [loadInto, stream, hopen]
  · intro m h r src f hopen hparse
    rw [hopened m h r src hopen]
    simp [readProperties, hparse, Except.map]
  · intro m h r src read hopen hparse
    rw [hopened m h r src hopen]
    simp [readProperties, hparse, Except.map]

end Store
end Resource
end ResourceKit

import Mathlib.Logic.Relation
import Mathlib.Data.List.Perm.Subperm
import ResourceKit.Resource.Stream

/-!
# Searching nested chains

A chain opens a resource by asking its members in turn, and a member that is itself a chain
asks its own members. Over a store where no chain reaches itself, that search is a
depth-first, left-to-right walk over the leaves under the chain: it answers as the first leaf
whose answer is not "nothing", and nothing if every leaf has nothing.

The search is given one level more than the store has resolvers. That is enough because the
chains on one path of the walk are distinct handles of the store (`Arranged.fits`): the walk
never runs out of levels, and the fuel-bounded search and the walk agree.

A push appends one member to one chain. The store's check that the new member does not reach
the chain keeps the store free of cycles, and the walk under any handle changes only by the
leaves of the new member, inserted after the leaves the chain had. So a push changes what a
handle opens only for names that every leaf before the insertion has nothing under.

**Results.**
* `open_searches_leaves_in_order`: opening is the first answer among the leaves in depth-first
  order, a push changes it only after leaves that all have nothing, and a chain that finds
  nothing is reported under its own name.
-/

namespace ResourceKit
namespace Resource
namespace Store

open Reading

/-! ## The first decisive answer -/

section FirstFound

variable {ε α β : Type} (f : α → Except ε (Option β))

theorem firstFound_cons_of_ne {a : α} (as : List α) (ha : f a ≠ .ok none) :
    firstFound f (a :: as) = f a := by
  cases hfa : f a with
  | error e => simp [firstFound, hfa]
  | ok o =>
    cases o with
    | none => exact absurd hfa ha
    | some b => simp [firstFound, hfa]

theorem firstFound_singleton (a : α) : firstFound f [a] = f a := by
  by_cases ha : f a = .ok none
  · rw [firstFound_append_none f a [] ha, ha]
    rfl
  · exact firstFound_cons_of_ne f [] ha

theorem firstFound_eq_none_iff (xs : List α) :
    firstFound f xs = .ok none ↔ ∀ x ∈ xs, f x = .ok none := by
  induction xs with
  | nil => simp [firstFound]
  | cons a as ih =>
    by_cases ha : f a = .ok none
    · rw [firstFound_append_none f a as ha, ih]
      simp [ha]
    · rw [firstFound_cons_of_ne f as ha]
      simp [ha]

theorem firstFound_append_of_none {xs : List α} (ys : List α) (h : firstFound f xs = .ok none) :
    firstFound f (xs ++ ys) = firstFound f ys := by
  induction xs with
  | nil => rfl
  | cons a as ih =>
    have ha : f a = .ok none := (firstFound_eq_none_iff f _).mp h a (by simp)
    rw [List.cons_append, firstFound_append_none f a _ ha]
    rw [firstFound_append_none f a as ha] at h
    exact ih h

theorem firstFound_append_of_ne {xs : List α} (ys : List α) (h : firstFound f xs ≠ .ok none) :
    firstFound f (xs ++ ys) = firstFound f xs := by
  induction xs with
  | nil => exact absurd rfl h
  | cons a as ih =>
    by_cases ha : f a = .ok none
    · rw [firstFound_append_none f a as ha] at h ⊢
      rw [List.cons_append, firstFound_append_none f a _ ha]
      exact ih h
    · rw [List.cons_append, firstFound_cons_of_ne f _ ha, firstFound_cons_of_ne f _ ha]

/-- Searching the concatenation of the lists `g x` is searching each list in turn. -/
theorem firstFound_flatMap {γ : Type} (g : γ → List α) (xs : List γ) :
    firstFound f (xs.flatMap g) = firstFound (fun x => firstFound f (g x)) xs := by
  induction xs with
  | nil => rfl
  | cons x xs ih =>
    rw [List.flatMap_cons]
    by_cases hx : firstFound f (g x) = .ok none
    · rw [firstFound_append_of_none f _ hx, ih,
        firstFound_append_none (fun x => firstFound f (g x)) x xs hx]
    · rw [firstFound_append_of_ne f _ hx,
        firstFound_cons_of_ne (fun x => firstFound f (g x)) xs hx]

theorem firstFound_congr {f g : α → Except ε (Option β)} {xs : List α}
    (h : ∀ x ∈ xs, f x = g x) : firstFound f xs = firstFound g xs := by
  induction xs with
  | nil => rfl
  | cons a as ih =>
    simp only [firstFound, h a (by simp), ih fun x hx => h x (by simp [hx])]

/-- The first decisive answer, said without the search: either every answer is nothing, or
there is a first answer that is not, and it is the result. -/
theorem firstFound_cases (xs : List α) :
    (firstFound f xs = .ok none ∧ ∀ x ∈ xs, f x = .ok none) ∨
    ∃ p x q, xs = p ++ x :: q ∧ (∀ y ∈ p, f y = .ok none) ∧ f x ≠ .ok none ∧
      firstFound f xs = f x := by
  induction xs with
  | nil => exact .inl ⟨rfl, by simp⟩
  | cons a as ih =>
    by_cases ha : f a = .ok none
    · rw [firstFound_append_none f a as ha]
      rcases ih with ⟨hnone, hall⟩ | ⟨p, x, q, rfl, hp, hx, hfirst⟩
      · exact .inl ⟨hnone, List.forall_mem_cons.mpr ⟨ha, hall⟩⟩
      · exact .inr ⟨a :: p, x, q, rfl, List.forall_mem_cons.mpr ⟨ha, hp⟩, hx, hfirst⟩
    · exact .inr ⟨[], a, as, rfl, by simp, ha, firstFound_cons_of_ne f as ha⟩

end FirstFound

/-! ## Members, and stores without cycles -/

variable {s : Store}

/-- The members of the chain under a handle; any other handle has none. -/
def membersOf (s : Store) (h : Nat) : List Nat :=
  match s.get? h with
  | some (.chain _ members) => members
  | _ => []

/-- `m` is a member of the chain under `h`. -/
def HasMember (s : Store) (h m : Nat) : Prop :=
  m ∈ s.membersOf h

/-- Every member is a handle of the store, and no chain reaches itself through members. -/
structure Arranged (s : Store) : Prop where
  member_lt : ∀ h m, s.HasMember h m → m < s.resolvers.length
  acyclic : ∀ h, ¬ Relation.TransGen s.HasMember h h

theorem membersOf_chain {h : Nat} {n : String} {ms : List Nat}
    (hc : s.get? h = some (.chain n ms)) : s.membersOf h = ms := by
  simp [membersOf, hc]

theorem membersOf_leaf {h : Nat} (hl : ∀ n ms, s.get? h ≠ some (.chain n ms)) :
    s.membersOf h = [] := by
  unfold membersOf
  split
  · next n ms hc => exact absurd hc (hl n ms)
  · rfl

theorem lt_of_get?_eq_some {h : Nat} {r : Resolver} (hg : s.get? h = some r) :
    h < s.resolvers.length :=
  (List.getElem?_eq_some_iff.mp hg).1

theorem get?_of_le {h : Nat} (hh : s.resolvers.length ≤ h) : s.get? h = none :=
  List.getElem?_eq_none hh

theorem hasMember_of_chain {h m : Nat} {n : String} {ms : List Nat}
    (hc : s.get? h = some (.chain n ms)) (hm : m ∈ ms) : s.HasMember h m := by
  simp [HasMember, membersOf_chain hc, hm]

theorem not_hasMember_of_le {h m : Nat} (hh : s.resolvers.length ≤ h) : ¬ s.HasMember h m := by
  simp [HasMember, membersOf, get?_of_le hh]

/-- A store is arranged when some rank falls along every membership, and every member is a
handle of the store. -/
theorem Arranged.of_rank (rank : Nat → Nat)
    (hr : ∀ h < s.resolvers.length, ∀ m ∈ s.membersOf h, m < s.resolvers.length ∧ rank m < rank h) :
    s.Arranged := by
  -- a handle beyond the store has no members
  have hrank : ∀ h m, s.HasMember h m → m < s.resolvers.length ∧ rank m < rank h := by
    intro h m hm
    by_cases hh : h < s.resolvers.length
    · exact hr h hh m hm
    · exact absurd hm (not_hasMember_of_le (Nat.le_of_not_lt hh))
  refine ⟨fun h m hm => (hrank h m hm).1, fun h hcyc => ?_⟩
  have hlt : ∀ a b, Relation.TransGen s.HasMember a b → rank b < rank a := by
    intro a b hab
    induction hab with
    | single hm => exact (hrank _ _ hm).2
    | tail _ hm ih => exact Nat.lt_trans (hrank _ _ hm).2 ih
  exact Nat.lt_irrefl _ (hlt h h hcyc)

/-! ## Enough levels -/

/-- A search from `h` with `fuel` levels never runs out: a leaf needs one level, a chain one
more than its members. -/
inductive Fits (s : Store) : Nat → Nat → Prop
  | leaf {fuel h : Nat} (hl : ∀ n ms, s.get? h ≠ some (.chain n ms)) : Fits s (fuel + 1) h
  | chain {fuel h : Nat} {n : String} {ms : List Nat} (hc : s.get? h = some (.chain n ms))
      (hm : ∀ m ∈ ms, Fits s fuel m) : Fits s (fuel + 1) h

/-- A chain below ancestors that are distinct handles, each reaching it, is a new handle of the
store: one more ancestor still fits in the store. -/
theorem Arranged.chain_ancestors (hs : s.Arranged) {anc : List Nat} {h : Nat} {n : String}
    {ms : List Nat} (hc : s.get? h = some (.chain n ms)) (hnd : anc.Nodup)
    (hlt : ∀ a ∈ anc, a < s.resolvers.length)
    (hanc : ∀ a ∈ anc, Relation.TransGen s.HasMember a h) :
    (h :: anc).Nodup ∧ (∀ a ∈ h :: anc, a < s.resolvers.length) ∧
      anc.length < s.resolvers.length := by
  have hnew : h ∉ anc := fun hmem => hs.acyclic h (hanc h hmem)
  have hlt' : ∀ a ∈ h :: anc, a < s.resolvers.length := by
    intro a ha
    rcases List.mem_cons.mp ha with rfl | ha
    · exact lt_of_get?_eq_some hc
    · exact hlt a ha
  have hnd' : (h :: anc).Nodup := List.nodup_cons.mpr ⟨hnew, hnd⟩
  -- distinct handles of the store are no more than the store has
  have hlen : (h :: anc).length ≤ (List.range s.resolvers.length).length :=
    (List.subperm_of_subset hnd' fun a ha => List.mem_range.mpr (hlt' a ha)).length_le
  simp only [List.length_cons, List.length_range] at hlen
  exact ⟨hnd', hlt', by omega⟩

theorem Arranged.fits_below (hs : s.Arranged) (k : Nat) :
    ∀ (anc : List Nat) (h : Nat), anc.Nodup → (∀ a ∈ anc, a < s.resolvers.length) →
      (∀ a ∈ anc, Relation.TransGen s.HasMember a h) → anc.length + k = s.resolvers.length →
      s.Fits (k + 1) h := by
  -- the ancestors so far, all distinct, leave `k` levels for what is below them
  induction k with
  | zero =>
    intro anc h hnd hlt hanc hk
    refine .leaf fun n ms hc => ?_
    have := (hs.chain_ancestors hc hnd hlt hanc).2.2
    omega
  | succ k ih =>
    intro anc h hnd hlt hanc hk
    by_cases hc : ∃ n ms, s.get? h = some (.chain n ms)
    · obtain ⟨n, ms, hc⟩ := hc
      obtain ⟨hnd', hlt', -⟩ := hs.chain_ancestors hc hnd hlt hanc
      refine .chain hc fun m hm => ih (h :: anc) m hnd' hlt' ?_ (by simp; omega)
      intro a ha
      rcases List.mem_cons.mp ha with rfl | ha
      · exact .single (hasMember_of_chain hc hm)
      · exact .tail (hanc a ha) (hasMember_of_chain hc hm)
    · push Not at hc
      exact .leaf hc

/-- In an arranged store a search with one level more than the store has resolvers never runs
out. -/
theorem Arranged.fits (hs : s.Arranged) (h : Nat) : s.Fits (s.resolvers.length + 1) h :=
  hs.fits_below s.resolvers.length [] h List.nodup_nil (by simp) (by simp) (by simp)

/-! ## The leaves in depth-first order -/

/-- `ls` are the leaves met by a depth-first, left-to-right walk through the handles `hs`: a
chain stands for its members in turn, any other handle for itself. -/
inductive LeafOrder (s : Store) : List Nat → List Nat → Prop
  | nil : LeafOrder s [] []
  | leaf {h : Nat} {hs ls : List Nat} (hl : ∀ n ms, s.get? h ≠ some (.chain n ms))
      (rest : LeafOrder s hs ls) : LeafOrder s (h :: hs) (h :: ls)
  | chain {h : Nat} {n : String} {ms hs ls : List Nat} (hc : s.get? h = some (.chain n ms))
      (rest : LeafOrder s (ms ++ hs) ls) : LeafOrder s (h :: hs) ls

theorem LeafOrder.append {xs ys a b : List Nat} (ha : s.LeafOrder xs a)
    (hb : s.LeafOrder ys b) : s.LeafOrder (xs ++ ys) (a ++ b) := by
  induction ha with
  | nil => exact hb
  | leaf hl _ ih => exact .leaf hl ih
  | chain hc _ ih =>
    refine .chain hc ?_
    rw [List.append_assoc] at ih
    exact ih

theorem LeafOrder.split {xs ys ls : List Nat} (h : s.LeafOrder (xs ++ ys) ls) :
    ∃ a b, ls = a ++ b ∧ s.LeafOrder xs a ∧ s.LeafOrder ys b := by
  generalize hw : xs ++ ys = ws at h
  induction h generalizing xs with
  | nil =>
    obtain ⟨rfl, rfl⟩ := List.append_eq_nil_iff.mp hw
    exact ⟨[], [], rfl, .nil, .nil⟩
  | leaf hl rest ih =>
    cases xs with
    | nil =>
      subst hw
      exact ⟨[], _, rfl, .nil, .leaf hl rest⟩
    | cons x xs =>
      obtain ⟨rfl, hw'⟩ := List.cons_eq_cons.mp hw
      obtain ⟨a, b, rfl, ha, hb⟩ := ih (show xs ++ ys = _ from hw')
      exact ⟨x :: a, b, rfl, .leaf hl ha, hb⟩
  | @chain h n ms hs ls hc rest ih =>
    cases xs with
    | nil =>
      subst hw
      exact ⟨[], _, rfl, .nil, .chain hc rest⟩
    | cons x xs =>
      obtain ⟨rfl, hw'⟩ := List.cons_eq_cons.mp hw
      obtain ⟨a, b, rfl, ha, hb⟩ :=
        ih (show (ms ++ xs) ++ ys = ms ++ hs by rw [List.append_assoc]; exact congrArg (ms ++ ·) hw')
      exact ⟨a, b, rfl, .chain hc ha, hb⟩

/-- The walk is determined by the store. -/
theorem LeafOrder.unique {hs a b : List Nat} (ha : s.LeafOrder hs a) (hb : s.LeafOrder hs b) :
    a = b := by
  induction ha generalizing b with
  | nil => cases hb; rfl
  | leaf hl _ ih =>
    cases hb with
    | leaf _ rest => rw [ih rest]
    | chain hc _ => exact absurd hc (hl _ _)
  | chain hc _ ih =>
    cases hb with
    | leaf hl _ => exact absurd hc (hl _ _)
    | chain hc' rest =>
      rw [hc] at hc'
      cases hc'
      exact ih rest

theorem LeafOrder.flatMap {ms : List Nat} {g : Nat → List Nat}
    (hm : ∀ m ∈ ms, s.LeafOrder [m] (g m)) : s.LeafOrder ms (ms.flatMap g) := by
  induction ms with
  | nil => exact .nil
  | cons m ms ih =>
    rw [List.flatMap_cons]
    exact (hm m (by simp)).append (ih fun x hx => hm x (by simp [hx]))

/-- In an arranged store, a chain's members followed by the rest of a walk are handles of the
store when the chain and the rest are. -/
theorem Arranged.members_append_lt (hs : s.Arranged) {w : Nat} {n : String} {ms rest : List Nat}
    (hc : s.get? w = some (.chain n ms)) (hws : ∀ x ∈ w :: rest, x < s.resolvers.length) :
    ∀ x ∈ ms ++ rest, x < s.resolvers.length := by
  intro x hx
  rcases List.mem_append.mp hx with hx | hx
  · exact hs.member_lt w x (hasMember_of_chain hc hx)
  · exact hws x (List.mem_cons_of_mem w hx)

/-- Every leaf met from handles of an arranged store is a handle of it that is no chain. -/
theorem LeafOrder.leaves (hs : s.Arranged) {ws ls : List Nat} (h : s.LeafOrder ws ls)
    (hws : ∀ w ∈ ws, w < s.resolvers.length) :
    ∀ l ∈ ls, l < s.resolvers.length ∧ ∀ n ms, s.get? l ≠ some (.chain n ms) := by
  induction h with
  | nil => simp
  | @leaf w _ _ hl _ ih =>
    intro l hlmem
    rcases List.mem_cons.mp hlmem with rfl | hlmem
    · exact ⟨hws l (by simp), hl⟩
    · exact ih (fun x hx => hws x (by simp [hx])) l hlmem
  | chain hc _ ih => exact ih (hs.members_append_lt hc hws)

/-! ## The fuel-bounded search is the walk -/

/-- The leaves met by a search from `h` within `fuel` levels; a search that runs out meets
none below. -/
def leavesWithin (s : Store) : Nat → Nat → List Nat
  | 0, _ => []
  | fuel + 1, h =>
    match s.get? h with
    | some (.chain _ members) => members.flatMap (s.leavesWithin fuel)
    | _ => [h]

theorem leavesWithin_leaf {h : Nat} (hl : ∀ n ms, s.get? h ≠ some (.chain n ms)) (fuel : Nat) :
    s.leavesWithin (fuel + 1) h = [h] := by
  rw [leavesWithin]
  split
  · next n ms hc => exact absurd hc (hl n ms)
  · rfl

theorem leavesWithin_chain {h : Nat} {n : String} {ms : List Nat}
    (hc : s.get? h = some (.chain n ms)) (fuel : Nat) :
    s.leavesWithin (fuel + 1) h = ms.flatMap (s.leavesWithin fuel) := by
  simp [leavesWithin, hc]

/-- A leaf answers by itself, whatever the levels left. -/
theorem openWithin_leaf {h : Nat} (hl : ∀ n ms, s.get? h ≠ some (.chain n ms))
    (fuel : Nat) (r : String) : s.openWithin (fuel + 1) h r = s.open h r := by
  rw [Store.open]
  rcases hg : s.get? h with _ | ⟨t⟩ | ⟨d⟩ | ⟨n, ms⟩ | ⟨n, data, m⟩ | ⟨n, m⟩
  all_goals simp only [openWithin, hg]
  exact absurd hg (hl n ms)

/-- A leaf under the same resolver in two stores answers the same. -/
theorem open_eq_of_get?_eq {s' : Store} {l : Nat} (hl : ∀ n ms, s.get? l ≠ some (.chain n ms))
    (hget : s'.get? l = s.get? l) (r : String) : s'.open l r = s.open l r := by
  have hl' : ∀ n ms, s'.get? l ≠ some (.chain n ms) := by
    rw [hget]
    exact hl
  rw [← openWithin_leaf hl 0, ← openWithin_leaf hl' 0]
  simp only [openWithin, hget]

/-- The fuel-bounded search answers as the first decisive leaf it meets. -/
theorem openWithin_eq_firstFound (fuel h : Nat) (r : String) :
    s.openWithin fuel h r = firstFound (fun l => s.open l r) (s.leavesWithin fuel h) := by
  induction fuel generalizing h with
  | zero => simp [openWithin, leavesWithin, firstFound]
  | succ fuel ih =>
    by_cases hc : ∃ n ms, s.get? h = some (.chain n ms)
    · obtain ⟨n, ms, hc⟩ := hc
      rw [leavesWithin_chain hc, firstFound_flatMap]
      simp only [openWithin, hc, ih]
    · push Not at hc
      rw [leavesWithin_leaf hc, firstFound_singleton, openWithin_leaf hc]

theorem leafOrder_leavesWithin {fuel h : Nat} (hf : s.Fits fuel h) :
    s.LeafOrder [h] (s.leavesWithin fuel h) := by
  induction hf with
  | leaf hl => rw [leavesWithin_leaf hl]; exact .leaf hl .nil
  | chain hc _ ih =>
    rw [leavesWithin_chain hc]
    refine .chain hc ?_
    rw [List.append_nil]
    exact LeafOrder.flatMap ih

theorem Arranged.leafOrder_exists (hs : s.Arranged) (h : Nat) : ∃ ls, s.LeafOrder [h] ls :=
  ⟨_, leafOrder_leavesWithin (hs.fits h)⟩

/-- In an arranged store, opening from a handle is the first decisive answer among its leaves in
depth-first order. -/
theorem Arranged.open_eq_firstFound (hs : s.Arranged) {h : Nat} {ls : List Nat}
    (hl : s.LeafOrder [h] ls) (r : String) :
    s.open h r = firstFound (fun l => s.open l r) ls := by
  have hwalk : s.leavesWithin (s.resolvers.length + 1) h = ls :=
    (leafOrder_leavesWithin (hs.fits h)).unique hl
  rw [Store.open, openWithin_eq_firstFound, hwalk]

/-- The store's reachability test finds every path of an arranged store. -/
theorem reachesWithin_of_fits {fuel h t : Nat} (hf : s.Fits fuel h)
    (hp : Relation.ReflTransGen s.HasMember h t) : s.reachesWithin fuel h t = true := by
  induction hf with
  | leaf hl =>
    rcases hp.cases_head with rfl | ⟨m, hm, -⟩
    · simp [reachesWithin]
    · simp [HasMember, membersOf_leaf hl] at hm
  | @chain fuel h n ms hc _ ih =>
    rcases hp.cases_head with rfl | ⟨m, hm, hmt⟩
    · simp [reachesWithin]
    · have hm' : m ∈ ms := by simpa [HasMember, membersOf_chain hc] using hm
      simp only [reachesWithin, hc, Bool.or_eq_true, List.any_eq_true]
      exact .inr ⟨m, hm', ih m hm' hmt⟩

theorem Arranged.reaches_of_path (hs : s.Arranged) {h t : Nat}
    (hp : Relation.ReflTransGen s.HasMember h t) : s.reaches h t = true :=
  reachesWithin_of_fits (hs.fits h) hp

/-! ## A push extends one chain -/

/-- `s'` is `s` with `e` appended to the members of the chain `target`: every other handle of `s`
keeps its resolver, and no handle beyond `s` has members. -/
structure Extends (s s' : Store) (target e : Nat) : Prop where
  target_chain : ∃ n ms, s.get? target = some (.chain n ms) ∧
    s'.get? target = some (.chain n (ms ++ [e]))
  kept : ∀ h, h ≠ target → h < s.resolvers.length → s'.get? h = s.get? h
  fresh : ∀ h, s.resolvers.length ≤ h → s'.membersOf h = []
  length_le : s.resolvers.length ≤ s'.resolvers.length
  appended_lt : e < s'.resolvers.length

theorem extends_copy {target : Nat} {n : String} {ms : List Nat}
    (hc : s.get? target = some (.chain n ms)) (r : Resolver) (hr : ∀ n ms, r ≠ .chain n ms) :
    s.Extends ((s.add r).2.set target (.chain n (ms ++ [(s.add r).1]))) target
      s.resolvers.length := by
  have ht : target < s.resolvers.length := lt_of_get?_eq_some hc
  have ht' : target < (s.resolvers ++ [r]).length := by simp; omega
  refine ⟨⟨n, ms, hc, ?_⟩, fun h hne hh => ?_, fun h hh => ?_, ?_, ?_⟩
  · simp [get?, set, add, List.getElem?_set_self ht']
  · simp [get?, set, add, List.getElem?_set_ne (Ne.symm hne), List.getElem?_append_left hh]
  · -- the copy is the one new handle, and it is no chain
    have hne : target ≠ h := by omega
    unfold membersOf
    split
    · next n' ms' hg =>
      simp only [get?, set, add, List.getElem?_set_ne hne] at hg
      rw [List.getElem?_append_right hh] at hg
      rcases Nat.eq_or_lt_of_le hh with rfl | hlt
      · simp only [Nat.sub_self, List.getElem?_cons_zero, Option.some.injEq] at hg
        exact absurd hg (hr n' ms')
      · simp [show h - s.resolvers.length ≠ 0 by omega] at hg
    · rfl
  · simp [set, add]
  · simp [set, add]

theorem extends_handle {target e : Nat} {n : String} {ms : List Nat}
    (hc : s.get? target = some (.chain n ms)) (he : e < s.resolvers.length) :
    s.Extends (s.set target (.chain n (ms ++ [e]))) target e := by
  have ht : target < s.resolvers.length := lt_of_get?_eq_some hc
  refine ⟨⟨n, ms, hc, ?_⟩, fun h hne _ => ?_, fun h hh => ?_, ?_, ?_⟩
  · simp [get?, set, List.getElem?_set_self ht]
  · simp [get?, set, List.getElem?_set_ne (Ne.symm hne)]
  · have hg : (s.set target (.chain n (ms ++ [e]))).get? h = none :=
      List.getElem?_eq_none (by simpa [set] using hh)
    simp [membersOf, hg]
  · simp [set]
  · simpa [set] using he

/-- What a push makes of an arranged store: one chain extended by a member that does not reach
it. -/
theorem push_extends (hs : s.Arranged) {target entry : Nat} {s' : Store}
    (hentry : entry < s.resolvers.length) (hp : s.push target entry = .ok s') :
    ∃ e, s.Extends s' target e ∧ ¬ Relation.ReflTransGen s.HasMember e target := by
  unfold push at hp
  split at hp
  · next n ms hc =>
    split at hp
    · cases hp
    · next hreach =>
      -- a copy is a new handle with no members; a member by handle would have been refused
      have hcopy : ∀ r : Resolver, (∀ n ms, r ≠ .chain n ms) →
          ¬ Relation.ReflTransGen s.HasMember s.resolvers.length target := by
        intro r _ hpath
        rcases hpath.cases_head with heq | ⟨m, hm, -⟩
        · have := lt_of_get?_eq_some hc
          omega
        · exact not_hasMember_of_le (Nat.le_refl _) hm
      split at hp
      · next t _ =>
        cases hp
        exact ⟨_, extends_copy hc (.memory t) (by simp), hcopy (.memory t) (by simp)⟩
      · next d _ =>
        cases hp
        exact ⟨_, extends_copy hc (.directory d) (by simp), hcopy (.directory d) (by simp)⟩
      · cases hp
        exact ⟨entry, extends_handle hc hentry, fun hpath => hreach (hs.reaches_of_path hpath)⟩
  · cases hp

section Extends

variable {s' : Store} {target e : Nat} (hx : s.Extends s' target e)
include hx

theorem Extends.hasMember_iff {h m : Nat} :
    s'.HasMember h m ↔ s.HasMember h m ∨ (h = target ∧ m = e) := by
  obtain ⟨n, ms, hc, hc'⟩ := hx.target_chain
  by_cases ht : h = target
  · subst ht
    simp [HasMember, membersOf_chain hc, membersOf_chain hc']
  · by_cases hh : h < s.resolvers.length
    · simp [HasMember, membersOf, hx.kept h ht hh, ht]
    · have hnone : s.membersOf h = [] := by
        simp [membersOf, get?_of_le (Nat.le_of_not_lt hh)]
      simp [HasMember, hx.fresh h (Nat.le_of_not_lt hh), hnone, ht]

/-- A path of the extended store either keeps to the old memberships or, after its last use of
the new one, runs on from the appended member. -/
theorem Extends.path_cases {a b : Nat} (hp : Relation.ReflTransGen s'.HasMember a b) :
    Relation.ReflTransGen s.HasMember a b ∨
      (Relation.ReflTransGen s'.HasMember a target ∧ Relation.ReflTransGen s.HasMember e b) := by
  induction hp with
  | refl => exact .inl .refl
  | @tail c d hac hcd ih =>
    rcases hx.hasMember_iff.mp hcd with hcd | ⟨rfl, rfl⟩
    · rcases ih with hac' | ⟨hat, hec⟩
      · exact .inl (hac'.tail hcd)
      · exact .inr ⟨hat, hec.tail hcd⟩
    · exact .inr ⟨hac, .refl⟩

theorem Extends.arranged (hs : s.Arranged) (he : ¬ Relation.ReflTransGen s.HasMember e target) :
    s'.Arranged := by
  have hold : ∀ {a b}, Relation.ReflTransGen s.HasMember a b →
      Relation.ReflTransGen s'.HasMember a b :=
    fun hab => Relation.ReflTransGen.mono (fun _ _ h => hx.hasMember_iff.mpr (.inl h)) _ _ hab
  -- the appended member does not reach the chain in the new store either
  have he' : ¬ Relation.ReflTransGen s'.HasMember e target := by
    intro hpath
    rcases hx.path_cases hpath with h | ⟨-, h⟩ <;> exact he h
  refine ⟨fun h m hm => ?_, fun h hcyc => ?_⟩
  · rcases hx.hasMember_iff.mp hm with hm | ⟨-, rfl⟩
    · exact Nat.lt_of_lt_of_le (hs.member_lt h m hm) hx.length_le
    · exact hx.appended_lt
  · obtain ⟨y, hhy, hyh⟩ := Relation.TransGen.tail'_iff.mp hcyc
    rcases hx.hasMember_iff.mp hyh with hyh | ⟨rfl, rfl⟩
    · rcases hx.path_cases hhy with hhy | ⟨hht, hey⟩
      · exact hs.acyclic h (Relation.TransGen.tail'_iff.mpr ⟨y, hhy, hyh⟩)
      · exact he' ((hold (hey.tail hyh)).trans hht)
    · rcases hx.path_cases hhy with hhy | ⟨-, hey⟩
      · exact he hhy
      · exact he hey

/-- Walks that never reach the extended chain are the same in both stores. -/
theorem Extends.leafOrder_of_not_reach (hs : s.Arranged) {ws ls : List Nat}
    (h : s.LeafOrder ws ls)
    (hws : ∀ w ∈ ws, w < s.resolvers.length ∧ ¬ Relation.ReflTransGen s.HasMember w target) :
    s'.LeafOrder ws ls := by
  induction h with
  | nil => exact .nil
  | @leaf w _ _ hl _ ih =>
    have ⟨hw, hwt⟩ := hws w (by simp)
    have hne : w ≠ target := fun heq => hwt (heq ▸ .refl)
    refine .leaf (by rw [hx.kept w hne hw]; exact hl) (ih fun x hx => hws x (by simp [hx]))
  | @chain w n ms _ _ hc _ ih =>
    have ⟨hw, hwt⟩ := hws w (by simp)
    have hne : w ≠ target := fun heq => hwt (heq ▸ .refl)
    refine .chain (by rw [hx.kept w hne hw]; exact hc) (ih fun x hxm => ?_)
    rcases List.mem_append.mp hxm with hxm | hxm
    · have hwx : s.HasMember w x := hasMember_of_chain hc hxm
      exact ⟨hs.member_lt w x hwx, fun hpath => hwt (.head hwx hpath)⟩
    · exact hws x (by simp [hxm])

/-- The walk in the extended store is the old walk, or the old walk with the appended member's
leaves inserted after a prefix of it: the leaves of the first visit of the extended chain. -/
theorem Extends.leafOrder_splice (hs : s.Arranged) {ws ls ls' : List Nat}
    (h : s.LeafOrder ws ls) (hws : ∀ w ∈ ws, w < s.resolvers.length)
    (h' : s'.LeafOrder ws ls') :
    ls' = ls ∨ ∃ ln p q q', s'.LeafOrder [e] ln ∧ ls = p ++ q ∧ ls' = p ++ ln ++ q' := by
  obtain ⟨n, ms, hc, hc'⟩ := hx.target_chain
  induction h generalizing ls' with
  | nil => cases h'; exact .inl rfl
  | @leaf w _ _ hl _ ih =>
    have hw := hws w (by simp)
    have hne : w ≠ target := fun heq => hl n ms (heq ▸ hc)
    cases h' with
    | chain hc'' _ => exact absurd (hx.kept w hne hw ▸ hc'') (hl _ _)
    | leaf _ rest =>
      rcases ih (fun x hx => hws x (by simp [hx])) rest with rfl | ⟨ln, p, q, q', hln, rfl, rfl⟩
      · exact .inl rfl
      · exact .inr ⟨ln, w :: p, q, q', hln, rfl, rfl⟩
  | @chain w n₀ ms₀ hs₀ ls₀ hw₀ rest ih =>
    have hw := hws w (by simp)
    have hmem : ∀ x ∈ ms₀ ++ hs₀, x < s.resolvers.length := hs.members_append_lt hw₀ hws
    by_cases hne : w = target
    · -- the extended chain: its old members walk as before, then the appended member
      subst hne
      rw [hc] at hw₀
      cases hw₀
      cases h' with
      | leaf hl _ => exact absurd hc' (hl _ _)
      | chain hc'' rest' =>
        rw [hc'] at hc''
        cases hc''
        obtain ⟨a', b', rfl, ha', hb'⟩ := rest'.split
        obtain ⟨a'', ln, rfl, ha'', hln⟩ := ha'.split
        obtain ⟨a, b, rfl, ha, -⟩ := rest.split
        have hnot : ∀ x ∈ ms, x < s.resolvers.length ∧ ¬ Relation.ReflTransGen s.HasMember x w :=
          fun x hxm => ⟨hmem x (by simp [hxm]), fun hpath =>
            hs.acyclic w (Relation.TransGen.head'_iff.mpr ⟨x, hasMember_of_chain hc hxm, hpath⟩)⟩
        have hsame : a'' = a := ((hx.leafOrder_of_not_reach hs ha hnot).unique ha'').symm
        subst hsame
        exact .inr ⟨ln, a'', b, b', hln, rfl, by simp⟩
    · cases h' with
      | leaf hl _ => exact absurd (hx.kept w hne hw ▸ hw₀) (fun h => hl _ _ (by rw [h]))
      | chain hc'' rest' =>
        rw [hx.kept w hne hw, hw₀] at hc''
        cases hc''
        exact ih hmem rest'

end Extends

/-! ## The search over nested chains -/

/-- **Opening searches the leaves in depth-first order.** In a store where every chain lists
handles of the store and no chain reaches itself:
* every handle has a depth-first, left-to-right order of leaves;
* opening a resource from a handle gives nothing when every leaf has nothing, and otherwise the
  answer of the first leaf that has something or fails: the leaves after it play no part;
* a chain whose leaves all have nothing reports the resource not found under the chain's own
  name;
* a push of a handle of the store onto a chain keeps the store free of cycles, and can change
  what a handle of the store opens only where the walk in the new store is the old one with the
  pushed member's leaves inserted, and every leaf before them has nothing. -/
theorem open_searches_leaves_in_order (s : Store) (hs : s.Arranged) :
    (∀ h, ∃ ls, s.LeafOrder [h] ls) ∧
    (∀ h ls r, s.LeafOrder [h] ls →
      (s.open h r = .ok none ∧ ∀ l ∈ ls, s.open l r = .ok none) ∨
      ∃ p l q, ls = p ++ l :: q ∧ (∀ x ∈ p, s.open x r = .ok none) ∧
        s.open l r ≠ .ok none ∧ s.open h r = s.open l r) ∧
    (∀ h n ms ls r, s.get? h = some (.chain n ms) → s.LeafOrder [h] ls →
      (∀ l ∈ ls, s.open l r = .ok none) → s.stream h (some r) = .error (.notFound r n)) ∧
    (∀ target entry s', entry < s.resolvers.length → s.push target entry = .ok s' →
      s'.Arranged ∧ ∃ e n ms, s.get? target = some (.chain n ms) ∧
        s'.get? target = some (.chain n (ms ++ [e])) ∧
        ∀ h r, h < s.resolvers.length → s'.open h r ≠ s.open h r →
          ∃ ln p q q', s'.LeafOrder [e] ln ∧ s.LeafOrder [h] (p ++ q) ∧
            s'.LeafOrder [h] (p ++ ln ++ q') ∧ ∀ l ∈ p, s.open l r = .ok none) := by
  refine ⟨hs.leafOrder_exists, fun h ls r hl => ?_, fun h n ms ls r hc hl hnone => ?_,
    fun target entry s' hentry hp => ?_⟩
  · rw [hs.open_eq_firstFound hl r]
    exact firstFound_cases _ ls
  · have hopen : s.open h r = .ok none := by
      rw [hs.open_eq_firstFound hl r]
      exact (firstFound_eq_none_iff _ ls).mpr hnone
    simp [stream, hopen, nameOf, hc, Resolver.name]
  · obtain ⟨e, hx, he⟩ := push_extends hs hentry hp
    have hs' : s'.Arranged := hx.arranged hs he
    obtain ⟨n, ms, hc, hc'⟩ := hx.target_chain
    refine ⟨hs', e, n, ms, hc, hc', fun h r hh hchanged => ?_⟩
    obtain ⟨ls, hl⟩ := hs.leafOrder_exists h
    obtain ⟨ls', hl'⟩ := hs'.leafOrder_exists h
    have hroot : ∀ w ∈ [h], w < s.resolvers.length := by simp [hh]
    -- old leaves answer alike in both stores
    have hsame : ∀ l ∈ ls, s'.open l r = s.open l r := by
      intro l hlmem
      have ⟨hlt, hleaf⟩ := hl.leaves hs hroot l hlmem
      have hlt' : l ≠ target := fun heq => hleaf n ms (heq ▸ hc)
      exact open_eq_of_get?_eq hleaf (hx.kept l hlt' hlt) r
    rw [hs.open_eq_firstFound hl r, hs'.open_eq_firstFound hl' r] at hchanged
    rcases hx.leafOrder_splice hs hl hroot hl' with rfl | ⟨ln, p, q, q', hln, rfl, rfl⟩
    · exact absurd (firstFound_congr hsame) hchanged
    · refine ⟨ln, p, q, q', hln, hl, hl', ?_⟩
      have hp : ∀ l ∈ p, s'.open l r = s.open l r := fun l hlp => hsame l (by simp [hlp])
      -- a decisive leaf before the insertion would decide both searches alike
      by_contra hsome
      have hdec : firstFound (fun l => s.open l r) p ≠ .ok none :=
        fun hnone => hsome ((firstFound_eq_none_iff _ p).mp hnone)
      apply hchanged
      rw [List.append_assoc, firstFound_append_of_ne _ _ (by rwa [firstFound_congr hp]),
        firstFound_append_of_ne _ _ hdec, firstFound_congr hp]

/-- A chain one level inside another, whose leaves do not hold the name: the not-found report
names the outer chain. -/
theorem open_searches_leaves_in_order_not_found :
    (⟨[.memory ⟨"tables", [("a.txt", [97])]⟩, .memory ⟨"more", []⟩, .chain "inner" [0],
      .chain "outer" [2, 1]]⟩ : Store).Arranged ∧
    (⟨[.memory ⟨"tables", [("a.txt", [97])]⟩, .memory ⟨"more", []⟩, .chain "inner" [0],
      .chain "outer" [2, 1]]⟩ : Store).stream 3 (some "b.txt") =
      .error (.notFound "b.txt" "outer") := by
  have hs : (⟨[.memory ⟨"tables", [("a.txt", [97])]⟩, .memory ⟨"more", []⟩, .chain "inner" [0],
      .chain "outer" [2, 1]]⟩ : Store).Arranged :=
    Arranged.of_rank id (by decide)
  refine ⟨hs, (open_searches_leaves_in_order _ hs).2.2.1 3 "outer" [2, 1] [0, 1] "b.txt" rfl
    (.chain rfl (.chain rfl (.leaf (by simp [get?]) (.leaf (by simp [get?]) .nil))))
    (by intro l hl; simp at hl; rcases hl with rfl | rfl <;> rfl)⟩

end Store
end Resource
end ResourceKit

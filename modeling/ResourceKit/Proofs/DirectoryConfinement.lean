import ResourceKit.Resource.Directory

/-!
# Directory resources stay below their root

A directory resolver reads a resource name, without its leading slashes, as a relative path and
refuses it when one of its components is neither a name nor the current directory. Since the
name starts with no `/`, its only lead can be the current directory, and a segment reads as the
parent directory exactly when it is `..`: the resolver refuses exactly the names with a `..`
segment. Joining such a relative path onto the root gives a path whose components are the
root's, then names only, since a `.` or an empty segment after the first counts for nothing.

**Results.**
* `all_staysBelow_iff`: a relative path stays below where it starts exactly when it has no `..`
  segment.
* `components_joinPath`: the components of a path joined onto a root are the root's, then those
  of the path's segments.
* `DirResolver.components_of_locate`: a located path is the root's components, then names.
* `DirResolver.open_of_locate`: a located name opens as what the walk of its path finds.
* `DirResolver.locate_stays_in_root`: where a resolver looks for a resource, and what opening
  it gives.
-/

namespace ResourceKit
namespace Resource

open Reading Files

/-! ## Names without leading slashes -/

theorem head?_dropWhile_slash (cs : List Char) : (cs.dropWhile (· = '/')).head? ≠ some '/' := by
  induction cs with
  | nil => simp
  | cons c cs ih =>
    by_cases hc : c = '/'
    · simpa [List.dropWhile_cons, hc] using ih
    · simp [hc]

/-- A normalised name does not start with `/`. -/
theorem head?_normalize (r : String) : (normalize r).toList.head? ≠ some '/' := by
  simpa [normalize] using head?_dropWhile_slash r.toList

/-! ## Segments and components -/

/-- A segment that is not `..` reads as a name, or as nothing. -/
theorem ofSegment_normal {seg : List Char} {c : Component} (h : Component.ofSegment seg = some c)
    (hseg : seg ≠ ['.', '.']) : ∃ n, c = .normal n := by
  unfold Component.ofSegment at h
  split at h
  · cases h
  · cases h
  · contradiction
  · cases h
    exact ⟨_, rfl⟩

theorem dots_mem_segments {rel : String} :
    Climbs rel ↔ ['.', '.'] ∈ rel.toList.splitOn '/' := by
  simp only [Climbs, segments, List.mem_map]
  constructor
  · rintro ⟨seg, hseg, hdots⟩
    have : seg = ['.', '.'] := by
      have := congrArg String.toList hdots
      simpa using this
    exact this ▸ hseg
  · intro h
    exact ⟨_, h, rfl⟩

/-- The lead of a path that does not start with `/` is at most the current directory. -/
theorem leadComponent_relative {cs : List Char} (h : cs.head? ≠ some '/') :
    ∀ c ∈ leadComponent cs, c = .curDir := by
  unfold leadComponent
  split
  · contradiction
  · split <;> simp

/-- **A relative path stays below where it starts exactly when it has no `..` segment.** -/
theorem all_staysBelow_iff {rel : String} (h : rel.toList.head? ≠ some '/') :
    (components rel).all Component.staysBelow = true ↔ ¬ Climbs rel := by
  rw [dots_mem_segments]
  simp only [components, List.all_append, Bool.and_eq_true, List.all_eq_true]
  have hlead : ∀ c ∈ leadComponent rel.toList, c.staysBelow = true := by
    intro c hc
    rw [leadComponent_relative h c hc]
    rfl
  constructor
  · -- a `..` segment reads as the parent directory, which does not stay below
    rintro ⟨-, hbody⟩ hdots
    have hmem : Component.parentDir ∈
        (rel.toList.splitOn '/').filterMap Component.ofSegment :=
      List.mem_filterMap.mpr ⟨_, hdots, rfl⟩
    exact absurd (hbody _ hmem) (by decide)
  · -- every other segment reads as a name or as nothing
    intro hno
    refine ⟨hlead, ?_⟩
    intro c hc
    obtain ⟨seg, hseg, hc⟩ := List.mem_filterMap.mp hc
    have hne : seg ≠ ['.', '.'] := fun e => hno (e ▸ hseg)
    obtain ⟨n, rfl⟩ := ofSegment_normal hc hne
    rfl

/-- A resolver locates a name exactly when the name has no `..` segment, at the root joined with
the name. -/
theorem DirResolver.locate_eq (d : DirResolver) (r : String) :
    d.locate r =
      if Climbs (normalize r) then none else some (joinPath d.root (normalize r)) := by
  by_cases hc : Climbs (normalize r)
  · rw [if_pos hc, locate_climbing d r hc]
  · have hall := (all_staysBelow_iff (head?_normalize r)).mpr hc
    simp [DirResolver.locate, hall, hc]

/-! ## Components of a joined path -/

/-- A separator and what follows it leave the lead of a path as a trailing separator does. -/
theorem leadComponent_append_slash (xs ys : List Char) :
    leadComponent (xs ++ '/' :: ys) = leadComponent (xs ++ ['/']) := by
  have hhead : (xs ++ '/' :: ys).head? = (xs ++ ['/']).head? := by
    cases xs <;> rfl
  have hfirst : ((xs ++ '/' :: ys).splitOn '/').head? = ((xs ++ ['/']).splitOn '/').head? := by
    rw [List.splitOn_append_cons_self, List.splitOn_append_cons_self, List.head?_append,
      List.head?_append]
    obtain ⟨s, ss, hs⟩ := List.exists_cons_of_ne_nil (List.splitOn_ne_nil '/' xs)
    simp [hs]
  simp only [leadComponent, hhead, hfirst]

/-- A trailing separator after a non-empty path changes none of its components. -/
theorem components_append_slash {xs : List Char} (hxs : xs ≠ []) :
    leadComponent (xs ++ ['/']) ++ ((xs ++ ['/']).splitOn '/').filterMap Component.ofSegment =
      leadComponent xs ++ (xs.splitOn '/').filterMap Component.ofSegment := by
  have hsplit : (xs ++ ['/']).splitOn '/' = xs.splitOn '/' ++ [[]] :=
    List.splitOn_append_cons_self xs []
  have hhead : (xs ++ ['/']).head? = xs.head? := by
    cases xs with
    | nil => contradiction
    | cons a xs => rfl
  have hfirst : ((xs ++ ['/']).splitOn '/').head? = (xs.splitOn '/').head? := by
    rw [hsplit, List.head?_append]
    obtain ⟨s, ss, hs⟩ := List.exists_cons_of_ne_nil (List.splitOn_ne_nil '/' xs)
    simp [hs]
  rw [leadComponent, leadComponent, hhead, hfirst, hsplit, List.filterMap_append]
  simp [Component.ofSegment]

/-- Joining a path onto a root after a separator: the components are those of the root with the
separator, then those of the path's segments. -/
theorem components_slash_append (xs ys : List Char) :
    leadComponent (xs ++ '/' :: ys) ++
        ((xs ++ '/' :: ys).splitOn '/').filterMap Component.ofSegment =
      leadComponent (xs ++ ['/']) ++ ((xs ++ ['/']).splitOn '/').filterMap Component.ofSegment ++
        (ys.splitOn '/').filterMap Component.ofSegment := by
  rw [leadComponent_append_slash, List.splitOn_append_cons_self,
    List.splitOn_append_cons_self xs [], List.filterMap_append, List.filterMap_append]
  simp [Component.ofSegment]

theorem endsWith_slash_iff {s : String} : s.endsWith "/" = true ↔ ['/'] <:+ s.toList := by
  rw [String.endsWith_eq_endsWith_toSlice, String.Slice.endsWith_string_iff]
  simp

theorem endsWith_slash {s : String} (h : s.endsWith "/" = true) : ∃ t, s.toList = t ++ ['/'] := by
  obtain ⟨t, ht⟩ := endsWith_slash_iff.mp h
  exact ⟨t, ht.symm⟩

/-- **The components of a path joined onto a non-empty root are the root's, then those of the
path's segments.** -/
theorem components_joinPath {root : String} (hroot : root ≠ "") (rel : String) :
    components (joinPath root rel) =
      components root ++ (rel.toList.splitOn '/').filterMap Component.ofSegment := by
  unfold joinPath components
  split
  · next h =>
    rcases h with h | h
    · exact absurd h hroot
    · -- the root ends in a separator already
      obtain ⟨t, ht⟩ := endsWith_slash h
      have hjoin : (root ++ rel).toList = t ++ '/' :: rel.toList := by simp [ht]
      rw [hjoin, components_slash_append, ht]
  · -- a separator goes between the two
    have hjoin : (root ++ "/" ++ rel).toList = root.toList ++ '/' :: rel.toList := by simp
    rw [hjoin, components_slash_append,
      components_append_slash (mt String.toList_eq_nil_iff.mp hroot)]

/-- A located path is the root's components followed by names only, with the current directory
in front when the root is empty. -/
theorem DirResolver.components_of_locate (d : DirResolver) {r p : String}
    (hp : d.locate r = some p) :
    ∃ tail, components p = components d.root ++ tail ∧
      ∀ c ∈ tail, (∃ n, c = .normal n) ∨ (d.root = "" ∧ c = .curDir) := by
  rw [d.locate_eq r] at hp
  split at hp
  · cases hp
  next hno =>
  cases hp
  -- the joined path: the root's components, then the name's segments, none of them `..`
  have hnames : ∀ c ∈ ((normalize r).toList.splitOn '/').filterMap Component.ofSegment,
      ∃ n, c = .normal n := by
    intro c hc
    obtain ⟨seg, hseg, hc⟩ := List.mem_filterMap.mp hc
    exact ofSegment_normal hc fun e => hno (dots_mem_segments.mpr (e ▸ hseg))
  by_cases hroot : d.root = ""
  · -- on an empty root the name is the path, and only its lead can be the current directory
    have hempty : components "" = [] := by decide
    refine ⟨components (normalize r),
      by rw [hroot, joinPath_empty, hempty, List.nil_append], ?_⟩
    intro c hc
    rcases List.mem_append.mp hc with hc | hc
    · exact Or.inr ⟨hroot, leadComponent_relative (head?_normalize r) c hc⟩
    · exact Or.inl (hnames c hc)
  · exact ⟨_, components_joinPath hroot _, fun c hc => Or.inl (hnames c hc)⟩

/-- A located name opens as what the walk of its path finds: a file's contents, nothing for a
directory or a missing entry, and any other failure of the walk as it is. -/
theorem DirResolver.open_of_locate (d : DirResolver) {r p : String} (hp : d.locate r = some p) :
    (∀ c, d.tree.walk d.lead p = .ok (.file c) → d.open r = .ok (some (ofBytes c))) ∧
    ((∃ src, d.open r = .ok (some src)) ↔ ∃ c, d.tree.walk d.lead p = .ok (.file c)) ∧
    (d.tree.walk d.lead p = .ok .directory ∨ d.tree.walk d.lead p = .error .missing →
      d.open r = .ok none) ∧
    (∀ e, d.tree.walk d.lead p = .error e → e ≠ .missing → d.open r = .error e) := by
  refine ⟨fun c hw => by simp [DirResolver.open, hp, hw], ?_, ?_, ?_⟩
  · rcases hw : d.tree.walk d.lead p with e | (c | _ | _)
    · cases e <;> simp [DirResolver.open, hp, hw]
    all_goals simp [DirResolver.open, hp, hw]
  · rintro (hw | hw) <;> simp [DirResolver.open, hp, hw]
  · intro e hw he
    cases e <;> simp_all [DirResolver.open]

/-- **Where a directory resolver looks, and what opening gives.** A resource is located exactly
when its name, without leading slashes, has no `..` segment, at the root joined with that name;
the components of that path are the root's, followed by names only, or also by the current
directory when the root is empty. A name with a `..` segment opens as nothing whatever the tree
holds; any other opens the file its path names, as nothing a directory, a device or a path with
nothing at it, and fails with any other failure of the walk. -/
theorem DirResolver.locate_stays_in_root (d : DirResolver) (r : String) :
    d.locate r = (if Climbs (normalize r) then none else some (joinPath d.root (normalize r))) ∧
    (∀ p, d.locate r = some p → ∃ tail, components p = components d.root ++ tail ∧
      ∀ c ∈ tail, (∃ n, c = .normal n) ∨ (d.root = "" ∧ c = .curDir)) ∧
    (Climbs (normalize r) →
      ∀ t : FileTree, ({ d with tree := t } : DirResolver).open r = .ok none) ∧
    (∀ p, d.locate r = some p →
      (∀ c, d.tree.walk d.lead p = .ok (.file c) → d.open r = .ok (some (ofBytes c))) ∧
      ((∃ src, d.open r = .ok (some src)) ↔ ∃ c, d.tree.walk d.lead p = .ok (.file c)) ∧
      (d.tree.walk d.lead p = .ok .directory ∨ d.tree.walk d.lead p = .error .missing →
        d.open r = .ok none) ∧
      (∀ e, d.tree.walk d.lead p = .error e → e ≠ .missing → d.open r = .error e)) := by
  refine ⟨d.locate_eq r, fun p hp => d.components_of_locate hp, ?_,
    fun p hp => d.open_of_locate hp⟩
  -- a climbing name is refused before any walk
  intro hc t
  have hnone : ({ d with tree := t } : DirResolver).locate r = none := locate_climbing _ r hc
  simp [DirResolver.open, hnone]

/-- A name that goes through `.` and empty segments is found below the root; one through `..`
opens as nothing. -/
theorem DirResolver.locate_stays_in_root_dots :
    (⟨"res", "root", {}, 0⟩ : DirResolver).locate "//a/./b//c" = some "root/a/./b//c" ∧
    components "root/a/./b//c" =
      components "root" ++ [.normal "a", .normal "b", .normal "c"] ∧
    Climbs (normalize "/a/../b") ∧
    (⟨"res", "root", {}, 0⟩ : DirResolver).open "/a/../b" = .ok none := by
  have hroot : "root".endsWith "/" = false :=
    Bool.eq_false_iff.mpr fun h => absurd (endsWith_slash_iff.mp h) (by decide)
  have hno : ¬ Climbs (normalize "//a/./b//c") := by decide
  have hclimb : Climbs (normalize "/a/../b") := by decide
  have hname : normalize "//a/./b//c" = "a/./b//c" := by decide
  refine ⟨?_, by decide, hclimb,
    (DirResolver.locate_stays_in_root ⟨"res", "root", {}, 0⟩ "/a/../b").2.2.1 hclimb {}⟩
  rw [(DirResolver.locate_stays_in_root ⟨"res", "root", {}, 0⟩ "//a/./b//c").1, if_neg hno,
    hname]
  simp [joinPath, hroot]

end Resource
end ResourceKit

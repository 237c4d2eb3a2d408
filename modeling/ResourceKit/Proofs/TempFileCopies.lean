import Mathlib
import ResourceKit.Proofs.PropertyLoading

/-!
# Copying a resource to a temp file

Copying a resource of the default chain to a temp file checks, in order: that a name is given,
that the default chain has the resource and opens it, that the prefix has three characters,
that the file can be created, and that the stream reads to its end. The first check that fails
decides the error; when none fails, the file holds exactly the bytes read.

Every session keeps the default chain, under its own name, at handle 0: no definition and no
call of a session puts anything else there. So a resource missing from the default chain is
reported as missing from the chain named `arputil`.

The name of the file is the prefix, six drawn characters and the suffix when neither the prefix
nor the suffix holds a `/` (or a NUL) and the whole fits a file name; a `/` in them is read as
a separator of the path the file is created at.

A copy makes its file before it reads the stream. When the stream fails, the bytes read before
the failure are written and the file is removed; when it ends, the file is kept and registered
for removal at exit. So every temp file a session has on disk is registered, once for each time
it is there, and a normal exit, which removes the registered files, leaves none behind.

**Results.**
* `Store.push_keeps_chain`: a push keeps every chain a chain of the same name.
* `Session.step_holdsDefault`, `Session.afterCalls_holdsDefault`, `Session.start_holdsDefault`:
  the default chain stays at handle 0 through every definition and every call.
* `place_of_plain`: a name without separators is created in the temp directory as it is.
* `Store.toTempFile_checks_in_order`: the checks of a copy, in order, what a copy gives, and the
  temp files it leaves.
* `TempFiles.Registered.exit_onDisk`: when every file on disk is registered, exit leaves none.
* `Session.toTempFile_notFound`: in every session, a missing resource is reported as missing
  from `arputil`.
* `Session.toTempFile_plain_name`: a copy with a plain prefix and suffix names its file by them.
* `Session.temp_files_removed_at_exit`: no temp file outlives a session.
-/

namespace ResourceKit

open Reading Properties Resource

namespace Resource
namespace Store

theorem get?_add_of_lt (s : Store) (r : Resolver) {h : Nat} (hh : h < s.resolvers.length) :
    (s.add r).2.get? h = s.get? h := by
  simp [add, get?, List.getElem?_append_left hh]

theorem get?_set_of_ne (s : Store) (r : Resolver) {h h' : Nat} (hne : h ≠ h') :
    (s.set h r).get? h' = s.get? h' := by
  simp [set, get?, List.getElem?_set_ne hne]

theorem get?_set_self (s : Store) (r : Resolver) {h : Nat} (hh : h < s.resolvers.length) :
    (s.set h r).get? h = some r := by
  simp [set, get?, hh]

theorem lt_length_of_get? {s : Store} {h : Nat} {r : Resolver} (hr : s.get? h = some r) :
    h < s.resolvers.length :=
  (List.getElem?_eq_some_iff.mp hr).1

/-- What a push can do: the target is a chain, and it becomes the same chain with one more
member, in the store as it was or with one more resolver at its end. -/
theorem push_cases {s s' : Store} {target entry : Nat} (hp : s.push target entry = .ok s') :
    ∃ name members m, s.get? target = some (.chain name members) ∧
      (s' = s.set target (.chain name (members ++ [m])) ∨
        ∃ r, s' = (s.add r).2.set target (.chain name (members ++ [m]))) := by
  unfold push at hp
  split at hp
  · next name members htarget =>
    refine ⟨name, members, ?_⟩
    split at hp
    · cases hp
    · split at hp
      · next t _ =>
        cases hp
        exact ⟨_, htarget, .inr ⟨.memory t, rfl⟩⟩
      · next d _ =>
        cases hp
        exact ⟨_, htarget, .inr ⟨.directory d, rfl⟩⟩
      · cases hp
        exact ⟨_, htarget, .inl rfl⟩
  · cases hp

/-- A push keeps every chain a chain of the same name. -/
theorem push_keeps_chain {s s' : Store} {target entry h : Nat} {name : String}
    {members : List Nat} (hh : s.get? h = some (.chain name members))
    (hp : s.push target entry = .ok s') : ∃ members', s'.get? h = some (.chain name members') := by
  obtain ⟨n, ms, m, htarget, hs'⟩ := push_cases hp
  have hlen : h < s.resolvers.length := lt_length_of_get? hh
  by_cases hht : target = h
  · -- the pushed chain itself: its name comes from the store
    subst hht
    rw [hh] at htarget
    cases htarget
    rcases hs' with rfl | ⟨r, rfl⟩
    · exact ⟨_, get?_set_self _ _ hlen⟩
    · exact ⟨_, get?_set_self _ _ (by simp [add]; omega)⟩
  · rcases hs' with rfl | ⟨r, rfl⟩
    · exact ⟨members, by rw [get?_set_of_ne _ _ hht, hh]⟩
    · exact ⟨members, by rw [get?_set_of_ne _ _ hht, get?_add_of_lt _ _ hlen, hh]⟩

end Store

/-! ### Where a plain name is created -/

theorem isSeparator_eq_false {c : NameChar} (h : c ≠ .given '/') : c.isSeparator = false := by
  unfold NameChar.isSeparator
  split <;> simp_all

/-- The path of the temp directory followed by a separator. -/
theorem givenText_tempDir :
    givenText (tempDirPath ++ "/") = .given '/' :: (givenText tempDirName ++ [.given '/']) := by
  decide

/-- A name whose first character is not a separator is opened from the temp directory. -/
theorem fullPath_of_not_mem {name : List NameChar} (hsep : NameChar.given '/' ∉ name) :
    fullPath name = .given '/' :: (givenText tempDirName ++ .given '/' :: name) := by
  have hhead : name.head? ≠ some (.given '/') := fun hh => hsep (List.mem_of_mem_head? hh)
  simp [fullPath, hhead, givenText_tempDir]

/-- The path of a name without separators reads as the temp directory and the name. -/
theorem splitOn_fullPath {name : List NameChar} (hsep : NameChar.given '/' ∉ name) :
    (fullPath name).splitOn (.given '/') = [[], givenText tempDirName, name] := by
  have htmp : NameChar.given '/' ∉ givenText tempDirName := by decide
  rw [fullPath_of_not_mem hsep, ← List.nil_append (NameChar.given '/' :: _),
    List.splitOn_append_cons_self, List.splitOn_append_cons_self,
    List.splitOn_eq_singleton htmp, List.splitOn_eq_singleton hsep]
  rfl

/-- The path of a name that does not end in a separator has nothing to trim. -/
theorem trim_fullPath {name : List NameChar} (hsep : NameChar.given '/' ∉ name)
    (hne : name ≠ []) :
    ((fullPath name).reverse.dropWhile NameChar.isSeparator).reverse = fullPath name := by
  obtain ⟨init, c, rfl⟩ := (List.eq_nil_or_concat name).resolve_left hne
  have hc : c.isSeparator = false :=
    isSeparator_eq_false fun hc => hsep (by simp [hc])
  rw [fullPath_of_not_mem hsep]
  simp [hc]

/-- A name with no separator and no NUL that is a proper file name (not empty, not `.` or `..`,
and at most 255 bytes) is created in the temp directory under that very name. -/
theorem place_of_plain (name : List NameChar) (hsep : NameChar.given '/' ∉ name)
    (hnul : NameChar.given '\x00' ∉ name) (hstays : staysPut name = false)
    (hup : goesUp name = false) (hlong : tooLong name = false) :
    place name = .ok (true, name) := by
  have hne : name ≠ [] := by
    rintro rfl
    simp [staysPut] at hstays
  have hpath := fullPath_of_not_mem hsep
  have hnulPath : (fullPath name).contains (.given '\x00') = false := by
    have htmp : NameChar.given '\x00' ∉ givenText tempDirName := by decide
    simp [hpath, htmp, hnul]
  have hbytes : ¬ ((fullPath name).map NameChar.bytes).sum ≥ Files.maxPathBytes := by
    have hname : (name.map NameChar.bytes).sum ≤ Files.maxNameBytes := by
      simpa [tooLong, ← List.sum_eq_foldr] using hlong
    have htmp : ((givenText tempDirName).map NameChar.bytes).sum = 3 := by decide
    have hslash : (NameChar.given '/').bytes = 1 := rfl
    simp only [hpath, List.map_cons, List.map_append, List.sum_cons, List.sum_append, htmp,
      hslash]
    simp only [Files.maxNameBytes, Files.maxPathBytes] at hname ⊢
    omega
  -- the walk enters the temp directory and creates the name there
  have hwalk : placeComponents false [] ([[], givenText tempDirName, name].drop 1) = .ok () := by
    have henter : enterComponent [] (givenText tempDirName) = .ok [tempDirName] := rfl
    simp [placeComponents, henter, hstays, hup, hlong]
  have hread : ([[], givenText tempDirName, name].filter fun c => !staysPut c) =
      [givenText tempDirName, name] := by
    have hnil : staysPut [] = true := rfl
    have htmp : staysPut (givenText tempDirName) = false := by decide
    simp [List.filter, hnil, htmp, hstays]
  simp only [place, hnulPath, ← List.sum_eq_foldr, hbytes, trim_fullPath hsep hne,
    Nat.lt_irrefl, decide_false, splitOn_fullPath hsep, hwalk, hread]
  simp

/-! ### The name of a temp file -/

theorem drawn_mem_tempName (stem suffix : String) : NameChar.drawn ∈ tempName stem suffix := by
  simp [tempName, drawnLength]

theorem given_mem_tempName {c : Char} {stem suffix : String} :
    NameChar.given c ∈ tempName stem suffix ↔ c ∈ stem.toList ∨ c ∈ suffix.toList := by
  simp [tempName]

/-- A prefix and a suffix without separators or NULs that fit a file name give a file in the
temp directory named by the prefix, the drawn run and the suffix. -/
theorem place_tempName {stem suffix : String}
    (hplain : ∀ c ∈ stem.toList ++ suffix.toList, c ≠ '/' ∧ c ≠ '\x00')
    (hfits : ((tempName stem suffix).map NameChar.bytes).sum ≤ Files.maxNameBytes) :
    place (tempName stem suffix) = .ok (true, tempName stem suffix) := by
  have hdrawn := drawn_mem_tempName stem suffix
  apply place_of_plain
  · rw [given_mem_tempName, ← List.mem_append]
    exact fun h => (hplain _ h).1 rfl
  · rw [given_mem_tempName, ← List.mem_append]
    exact fun h => (hplain _ h).2 rfl
  · -- a name with a drawn character is neither empty nor `.`
    simp only [staysPut, Bool.or_eq_false_iff, decide_eq_false_iff_not]
    constructor <;> intro h <;> rw [h] at hdrawn <;> simp at hdrawn
  · simp only [goesUp, decide_eq_false_iff_not]
    intro h
    rw [h] at hdrawn
    simp at hdrawn
  · simpa [tooLong, ← List.sum_eq_foldr] using hfits

/-- A file named by a plain prefix, the drawn run and a suffix starts with the prefix, ends with
the suffix, and has six characters between them. -/
theorem TempFile.report_tempName (stem suffix : String) (bytes : List UInt8) :
    let t : TempFile := ⟨stem, suffix, tempName stem suffix, true, bytes⟩
    t.startsWithStem = true ∧ t.endsWithSuffix = true ∧ t.drawnCount = drawnLength := by
  refine ⟨?_, ?_, ?_⟩
  · simp [TempFile.startsWithStem, tempName, List.isPrefixOf_iff_prefix]
  · simp only [TempFile.endsWithSuffix, tempName, List.isSuffixOf_iff_suffix]
    exact List.suffix_append _ _
  · simp only [TempFile.drawnCount, tempName, List.length_append, List.length_map,
      List.length_replicate, String.length_toList]
    omega

/-! ### The checks of a copy -/

namespace TempFiles

/-- Writing into the file just made is making it with those bytes. -/
@[simp] theorem fillLast_create (fs : TempFiles) (t : TempFile) (bytes : List UInt8) :
    (fs.create t).fillLast bytes = fs.create { t with contents := bytes } := by
  simp [fillLast, create]

/-- Removing the file just made leaves the temp files as they were. -/
@[simp] theorem discardLast_create (fs : TempFiles) (t : TempFile) :
    (fs.create t).discardLast = fs := by
  simp [discardLast, create]

end TempFiles

namespace Store

/-- A copy of a resource that opens, with a prefix long enough, once its file is made: the bytes
read before the stream ends are written, and the file is then kept and registered, or removed
when the stream failed. -/
theorem toTempFile_of_placed (s : Store) (fs : TempFiles) {r : String} {src : List Segment}
    (hopen : s.open 0 r = .ok (some src)) {stem : String} (suffix : Option String)
    (hlen : minPrefixLength ≤ stem.length) {inTempDir : Bool} {fileName : List NameChar}
    (hplace : place (tempName stem (suffix.getD defaultSuffix)) = .ok (inTempDir, fileName)) :
    s.toTempFile fs (some r) stem suffix =
      match (drain src).2 with
      | .endOfInput =>
        (.ok ⟨stem, suffix.getD defaultSuffix, fileName, inTempDir, (drain src).1⟩,
          (fs.create ⟨stem, suffix.getD defaultSuffix, fileName, inTempDir, (drain src).1⟩).register
            ⟨stem, suffix.getD defaultSuffix, fileName, inTempDir, (drain src).1⟩)
      | .failed m => (.error (.io (.injected m)), fs) := by
  simp only [toTempFile, stream, hopen, if_neg (Nat.not_lt.mpr hlen), hplace]
  rcases drain src with ⟨bytes, _ | m⟩ <;> simp

/-- **A copy to a temp file fails at its first failing check, and leaves no file behind unless it
succeeds.** An absent name is refused; a resource that the default chain does not have is
reported with the chain's name, one that fails to open with its failure; then a prefix of fewer
than three characters is refused, then a file that cannot be created, then a stream that fails
to read, whose file is removed after the bytes read before the failure were written. Each of
these leaves the temp files as they were. A copy that passes every check holds exactly the bytes
the stream read, and its file is kept and registered for removal at exit. -/
theorem toTempFile_checks_in_order (s : Store) (fs : TempFiles) (stem : String)
    (suffix : Option String) :
    s.toTempFile fs none stem suffix = (.error (.missing .resource), fs) ∧
    (∀ r, s.open 0 r = .ok none →
      s.toTempFile fs (some r) stem suffix = (.error (.notFound r (s.nameOf 0)), fs)) ∧
    (∀ r e, s.open 0 r = .error e →
      s.toTempFile fs (some r) stem suffix = (.error (.io e), fs)) ∧
    (∀ r src, s.open 0 r = .ok (some src) → stem.length < minPrefixLength →
      s.toTempFile fs (some r) stem suffix = (.error (.shortPrefix stem), fs)) ∧
    (∀ r src e, s.open 0 r = .ok (some src) → minPrefixLength ≤ stem.length →
      place (tempName stem (suffix.getD defaultSuffix)) = .error e →
      s.toTempFile fs (some r) stem suffix = (.error (.io (.creating e)), fs)) ∧
    (∀ r src placed m, s.open 0 r = .ok (some src) → minPrefixLength ≤ stem.length →
      place (tempName stem (suffix.getD defaultSuffix)) = .ok placed →
      (drain src).2 = .failed m →
      s.toTempFile fs (some r) stem suffix = (.error (.io (.injected m)), fs)) ∧
    (∀ r src placed, s.open 0 r = .ok (some src) → minPrefixLength ≤ stem.length →
      place (tempName stem (suffix.getD defaultSuffix)) = .ok placed →
      (drain src).2 = .endOfInput →
      s.toTempFile fs (some r) stem suffix =
        (.ok ⟨stem, suffix.getD defaultSuffix, placed.2, placed.1, (drain src).1⟩,
          (fs.create ⟨stem, suffix.getD defaultSuffix, placed.2, placed.1, (drain src).1⟩).register
            ⟨stem, suffix.getD defaultSuffix, placed.2, placed.1, (drain src).1⟩)) := by
  refine ⟨rfl, ?_, ?_, ?_, ?_, ?_, ?_⟩
  · intro r hopen
    simp [toTempFile, stream, hopen]
  · intro r e hopen
    simp [toTempFile, stream, hopen]
  · intro r src hopen hshort
    simp [toTempFile, stream, hopen, hshort]
  · intro r src e hopen hlen hplace
    simp [toTempFile, stream, hopen, if_neg (Nat.not_lt.mpr hlen), hplace]
  · intro r src placed m hopen hlen hplace hfail
    rw [toTempFile_of_placed s fs hopen suffix hlen hplace, hfail]
  · intro r src placed hopen hlen hplace hend
    rw [toTempFile_of_placed s fs hopen suffix hlen hplace, hend]

/-- The temp files after a copy: the file kept and registered when the copy succeeds, and as they
were when it fails. -/
theorem toTempFile_snd (s : Store) (fs : TempFiles) (name : Option String) (stem : String)
    (suffix : Option String) :
    (s.toTempFile fs name stem suffix).2 =
      match (s.toTempFile fs name stem suffix).1 with
      | .ok t => (fs.create t).register t
      | .error _ => fs := by
  unfold toTempFile
  rcases s.stream 0 name with e | src
  · rfl
  · dsimp only
    split_ifs
    · rfl
    · rcases place (tempName stem (suffix.getD defaultSuffix)) with e | ⟨inTempDir, fileName⟩
      · rfl
      · rcases drain src with ⟨bytes, _ | m⟩ <;> simp

end Store

/-! ### Removal at exit -/

namespace TempFiles

/-- Every file on disk is registered for removal at exit, as many times as it is there. -/
def Registered (fs : TempFiles) : Prop :=
  fs.onDisk.Perm fs.atExit

theorem Registered.create_register {fs : TempFiles} (h : fs.Registered) (t : TempFile) :
    ((fs.create t).register t).Registered :=
  h.append_right [t]

/-- When every file on disk is registered, a normal exit leaves none. -/
theorem Registered.exit_onDisk {fs : TempFiles} (h : fs.Registered) : fs.exit.onDisk = [] := by
  -- removing the registered files one by one takes away their multiset, which is that of the
  -- files on disk
  have hleft : (fs.exit.onDisk : Multiset TempFile) = fs.onDisk - fs.atExit.reverse := by
    rw [Multiset.coe_sub, List.diff_eq_foldl]
    rfl
  rw [← Multiset.coe_eq_zero, hleft, Multiset.coe_reverse, ← Multiset.coe_eq_coe.mpr h,
    tsub_self]

end TempFiles

end Resource

namespace Workspace
namespace Session

/-- The default chain sits at handle 0 of the session's store. -/
def HoldsDefault (s : Session) : Prop :=
  ∃ members, s.store.get? 0 = some (.chain defaultName members)

theorem holdsDefault_of_store {s t : Session} (hst : t.store = s.store) (h : s.HoldsDefault) :
    t.HoldsDefault := by
  rw [HoldsDefault, hst]
  exact h

theorem HoldsDefault.nameOf_zero {s : Session} (h : s.HoldsDefault) :
    s.store.nameOf 0 = defaultName := by
  obtain ⟨members, hm⟩ := h
  simp [Store.nameOf, hm, Resolver.name]

theorem initial_holdsDefault (props : PropertyMap) : (initial props).HoldsDefault :=
  ⟨[], rfl⟩

@[simp] theorem keep_snd (s : Session) (r : Except Rejection Outcome) : (s.keep r).2 = s := by
  cases r <;> rfl

/-- A definition adds its resolver at the end of the store. -/
theorem define_holdsDefault {s s' : Session} {d : Definition} (h : s.HoldsDefault)
    (hd : s.define d = .ok s') : s'.HoldsDefault := by
  obtain ⟨members, hm⟩ := h
  unfold define at hd
  split at hd
  · cases hd
  · split at hd
    · cases hd
    · split at hd
      · cases hd
      · next r _ =>
        cases hd
        exact ⟨members, (Store.get?_add_of_lt s.store r (Store.lt_length_of_get? hm)).trans hm⟩

/-- A property that every definition keeps holds after definitions bound one after another. -/
theorem foldlM_define_of_define {P : Session → Prop}
    (hP : ∀ {t t' : Session} {d : Definition}, P t → t.define d = .ok t' → P t')
    {s : Session} (defs : List Definition) (t : Session) (ht : P t)
    (hrun : defs.foldlM define t = .ok s) : P s := by
  induction defs generalizing t with
  | nil =>
    cases hrun
    exact ht
  | cons d rest ih =>
    rw [List.foldlM_cons] at hrun
    cases hd : t.define d with
    | error r => simp [hd, bind, Except.bind] at hrun
    | ok t' =>
      simp only [hd, bind, Except.bind] at hrun
      exact ih t' (hP ht hd) hrun

theorem start_holdsDefault {props : PropertyMap} {defs : List Definition} {s : Session}
    (hs : start props defs = .ok s) : s.HoldsDefault :=
  foldlM_define_of_define define_holdsDefault defs _ (initial_holdsDefault props) hs

/-- What a push in a session can do: push on the store, and change nothing else. -/
theorem pushOnto_cases {s s' : Session} {chain entry : String}
    (hp : s.pushOnto chain entry = .ok s') :
    ∃ target e store, s.store.push target e = .ok store ∧ s' = { s with store } := by
  unfold pushOnto at hp
  simp only [bind, Except.bind] at hp
  cases ht : s.handle chain with
  | error r => simp [ht] at hp
  | ok target =>
    cases he : s.handle entry with
    | error r => simp [ht, he] at hp
    | ok e =>
      simp only [ht, he] at hp
      split at hp
      · split at hp
        · cases hp
        · split at hp
          · next store hstore =>
            cases hp
            exact ⟨target, e, store, hstore, rfl⟩
          · cases hp
          · cases hp
      · cases hp

theorem pushed_holdsDefault {s : Session} (chain entry : String) (h : s.HoldsDefault) :
    (s.pushed chain entry).2.HoldsDefault := by
  unfold pushed
  cases hp : s.pushOnto chain entry with
  | error r => exact h
  | ok s' =>
    obtain ⟨members, hm⟩ := h
    obtain ⟨target, e, store, hstore, rfl⟩ := pushOnto_cases hp
    exact Store.push_keeps_chain hm hstore

theorem inserted_holdsDefault {s : Session} (id resource : String) (c : List UInt8)
    (h : s.HoldsDefault) : (s.inserted id resource c).2.HoldsDefault := by
  obtain ⟨members, hm⟩ := h
  unfold inserted
  cases hh : s.handle id with
  | error r => exact ⟨members, hm⟩
  | ok handle =>
    dsimp only
    split
    · next t ht =>
      -- only a memory table is written, and handle 0 holds a chain
      have hne : handle ≠ 0 := by
        rintro rfl
        rw [hm] at ht
        cases ht
      exact ⟨members, by rw [Store.get?_set_of_ne _ _ hne, hm]⟩
    · exact ⟨members, hm⟩

/-- Every call keeps the default chain at handle 0. -/
theorem step_holdsDefault (s : Session) (c : Call) (h : s.HoldsDefault) :
    (s.step c).2.HoldsDefault := by
  cases c with
  | push chain entry => exact pushed_holdsDefault chain entry h
  | insert id resource contents => exact inserted_holdsDefault id resource contents h
  | readProperties c name =>
    rw [step_readProperties]
    split
    · exact holdsDefault_of_store rfl h
    · exact h
  | properties => exact h
  | toTempFile name stem suffix => exact holdsDefault_of_store rfl h
  | size _ | isEmpty _ | name _ | openResource _ _ | stream _ _ | readString _ _
  | readLines _ _ | root _ | debug _ | load _ _ | loadAll _ _ =>
    simp only [step, keep_snd]
    exact h

/-- Every run of calls keeps the default chain at handle 0. -/
theorem afterCalls_holdsDefault (s : Session) (calls : List Call) (h : s.HoldsDefault) :
    (s.afterCalls calls).HoldsDefault := by
  induction calls generalizing s with
  | nil => exact h
  | cons c rest ih => exact ih _ (step_holdsDefault s c h)

/-- In every session, after any run of calls, a resource that the default chain does not have
is reported as missing from the chain named `arputil`, and the session is left as it was. -/
theorem toTempFile_notFound {props : PropertyMap} {defs : List Definition} {s : Session}
    (hs : start props defs = .ok s) (calls : List Call) (r stem : String)
    (suffix : Option String) (hopen : (s.afterCalls calls).store.open 0 r = .ok none) :
    (s.afterCalls calls).step (.toTempFile (some r) stem suffix) =
      (.failed (.notFound r defaultName), s.afterCalls calls) := by
  have hdefault := afterCalls_holdsDefault s calls (start_holdsDefault hs)
  have hnot := (Store.toTempFile_checks_in_order _ (s.afterCalls calls).temp stem suffix).2.1 r
    hopen
  simp [step, reply, hnot, hdefault.nameOf_zero]

/-- **A plain prefix and suffix name the file.** A copy whose prefix and suffix hold no `/` and
no NUL, and whose name fits a file name, creates a file in the temp directory named by the
prefix, the drawn run and the suffix (`.tmp` when none is given), holding the bytes read; the
session keeps the file and registers it for removal at exit. -/
theorem toTempFile_plain_name (s : Session) (r : String) (src : List Segment) (stem : String)
    (suffix : Option String) (hopen : s.store.open 0 r = .ok (some src))
    (hend : (drain src).2 = .endOfInput) (hlen : minPrefixLength ≤ stem.length)
    (hplain : ∀ c ∈ stem.toList ++ (suffix.getD defaultSuffix).toList, c ≠ '/' ∧ c ≠ '\x00')
    (hfits : ((tempName stem (suffix.getD defaultSuffix)).map NameChar.bytes).sum ≤
      Files.maxNameBytes) :
    let t : TempFile :=
      ⟨stem, suffix.getD defaultSuffix, tempName stem (suffix.getD defaultSuffix), true,
        (drain src).1⟩
    s.step (.toTempFile (some r) stem suffix) =
      (.replied (.file t), { s with temp := (s.temp.create t).register t }) := by
  have hcopy := (Store.toTempFile_checks_in_order s.store s.temp stem suffix).2.2.2.2.2.2 r src _
    hopen hlen (place_tempName hplain hfits) hend
  simp [step, reply, hcopy]

/-! ### Temp files left at exit -/

/-- A definition leaves the temp files alone. -/
theorem define_temp {s s' : Session} {d : Definition} (hd : s.define d = .ok s') :
    s'.temp = s.temp := by
  unfold define at hd
  split at hd
  · cases hd
  · split at hd
    · cases hd
    · split at hd
      · cases hd
      · cases hd
        rfl

/-- The temp files of a session change only by a copy to a temp file. -/
theorem temp_step (s : Session) (c : Call) :
    (s.step c).2.temp =
      match c with
      | .toTempFile name stem suffix => (s.store.toTempFile s.temp name stem suffix).2
      | _ => s.temp := by
  cases c with
  | push chain entry =>
    show (s.pushed chain entry).2.temp = s.temp
    unfold pushed
    cases hp : s.pushOnto chain entry with
    | error r => rfl
    | ok s' =>
      obtain ⟨target, e, store, -, rfl⟩ := pushOnto_cases hp
      rfl
  | insert id resource contents =>
    show (s.inserted id resource contents).2.temp = s.temp
    unfold inserted
    cases s.handle id with
    | error r => rfl
    | ok h =>
      dsimp only
      split <;> rfl
  | readProperties c name =>
    rw [step_readProperties]
    split <;> rfl
  | properties | toTempFile _ _ _ => rfl
  | size _ | isEmpty _ | name _ | openResource _ _ | stream _ _ | readString _ _
  | readLines _ _ | root _ | debug _ | load _ _ | loadAll _ _ =>
    simp only [step, keep_snd]

/-- Every call keeps each file on disk registered for removal at exit. -/
theorem step_registered (s : Session) (c : Call) (h : s.temp.Registered) :
    (s.step c).2.temp.Registered := by
  rw [temp_step]
  cases c with
  | toTempFile name stem suffix =>
    dsimp only
    rw [Store.toTempFile_snd]
    split
    · exact h.create_register _
    · exact h
  | _ => exact h

/-- Every run of calls keeps each file on disk registered for removal at exit. -/
theorem afterCalls_registered (s : Session) (calls : List Call) (h : s.temp.Registered) :
    (s.afterCalls calls).temp.Registered := by
  induction calls generalizing s with
  | nil => exact h
  | cons c rest ih => exact ih _ (step_registered s c h)

theorem start_registered {props : PropertyMap} {defs : List Definition} {s : Session}
    (hs : start props defs = .ok s) : s.temp.Registered :=
  @foldlM_define_of_define (fun t => t.temp.Registered)
    (fun ht hd => by rwa [TempFiles.Registered, define_temp hd]) s defs (initial props)
    (List.Perm.refl []) hs

/-- **No temp file outlives a session.** In every session, after any run of calls, the temp
files on disk are exactly those registered for removal at exit, so a normal exit leaves none: a
copy that fails removes the file it made, and one that succeeds registers the file it keeps. -/
theorem temp_files_removed_at_exit {props : PropertyMap} {defs : List Definition} {s : Session}
    (hs : start props defs = .ok s) (calls : List Call) :
    (s.afterCalls calls).temp.onDisk.Perm (s.afterCalls calls).temp.atExit ∧
    (s.afterCalls calls).temp.exit.onDisk = [] :=
  have hreg := afterCalls_registered s calls (start_registered hs)
  ⟨hreg, hreg.exit_onDisk⟩

end Session
end Workspace

end ResourceKit

import Mathlib.Data.Nat.Find
import ResourceKit.Items.Matrix

/-!
# Copying a matrix row by row

`copy` walks the source rows in order and writes each over the start of the destination row
with the same index, after checking that it fits. A row *misfits* when there is no destination
row for it or the destination row is shorter. The walk stops at the first misfit, so what the
destination holds afterwards is fixed by that one index: every row below it is copied, every
row from it on is as it was.

**Results.**
* `copyFrom_fits`, `copyFrom_missing`, `copyFrom_short`: one step of the walk, per kind of row.
* `copyFrom_eq_of_fit`: a walk over rows that all fit reaches the next row with those rows
  copied.
* `map_length_copiedBelow`: copying rows that fit keeps the length of every row.
* `copy_of_fit`, `copy_of_first_misfit`, `map_length_copy`: the copy without a misfit, at the
  first misfit, and the lengths it keeps.
* `copy_stops_at_first_misfit`: the outcome and the destination afterwards, for every source
  and destination.
-/

namespace ResourceKit
namespace Items

variable {α : Type}

/-- Source row `i` has nowhere to go: there is no destination row `i`, or it is shorter. -/
def Misfit (src dest : List (List α)) (i : Nat) : Prop :=
  i < src.length ∧ (dest.length ≤ i ∨ (dest.getD i []).length < (src.getD i []).length)

instance (src dest : List (List α)) (i : Nat) : Decidable (Misfit src dest i) :=
  inferInstanceAs (Decidable (_ ∧ _))

/-- The destination with each of its rows below `k` overwritten, at its start, by the source
row of the same index. -/
def copiedBelow (k : Nat) (src dest : List (List α)) : List (List α) :=
  dest.mapIdx fun i d => if i < k then src.getD i [] ++ d.drop (src.getD i []).length else d

@[simp] theorem length_copiedBelow (k : Nat) (src dest : List (List α)) :
    (copiedBelow k src dest).length = dest.length := by
  simp [copiedBelow]

theorem getElem?_copiedBelow (k : Nat) (src dest : List (List α)) (i : Nat) :
    (copiedBelow k src dest)[i]? =
      dest[i]?.map fun d => if i < k then src.getD i [] ++ d.drop (src.getD i []).length else d := by
  simp [copiedBelow, List.getElem?_mapIdx]

@[simp] theorem copiedBelow_zero (src dest : List (List α)) : copiedBelow 0 src dest = dest := by
  apply List.ext_getElem?
  intro i
  simp [getElem?_copiedBelow]

/-- A fitting row `i` below `j` is not a misfit: both rows exist and the destination is long
enough. -/
theorem fits_of_not_misfit {src dest : List (List α)} {i : Nat} (hi : i < src.length)
    (h : ¬ Misfit src dest i) :
    i < dest.length ∧ (src.getD i []).length ≤ (dest.getD i []).length := by
  simp only [Misfit, not_and, not_or, not_le, not_lt] at h
  exact h hi

/-- Copying one more row that fits. -/
theorem copiedBelow_succ (j : Nat) (src dest : List (List α)) (d : List α)
    (hd : dest[j]? = some d) :
    (copiedBelow j src dest).set j (src.getD j [] ++ d.drop (src.getD j []).length) =
      copiedBelow (j + 1) src dest := by
  apply List.ext_getElem?
  intro i
  rw [List.getElem?_set, getElem?_copiedBelow, getElem?_copiedBelow]
  by_cases hij : j = i
  · subst hij
    obtain ⟨hj, rfl⟩ := List.getElem?_eq_some_iff.mp hd
    simp [hj]
  · have hlt : i < j + 1 ↔ i < j := by omega
    simp [hij, hlt]

/-! ### One step of the walk -/

section Step

variable (i : Nat) (dest : List (List α)) (s : List α) (ss : List (List α))

theorem copyFrom_missing (hd : dest[i]? = none) :
    copyFrom i dest (s :: ss) = (some ⟨i, dest.length⟩, dest) := by
  simp [copyFrom, hd]

theorem copyFrom_short (d : List α) (hd : dest[i]? = some d) (hshort : d.length < s.length) :
    copyFrom i dest (s :: ss) = (some ⟨s.length - 1, d.length⟩, dest) := by
  simp [copyFrom, hd, hshort]

theorem copyFrom_fits (d : List α) (hd : dest[i]? = some d) (hfits : s.length ≤ d.length) :
    copyFrom i dest (s :: ss) = copyFrom (i + 1) (dest.set i (s ++ d.drop s.length)) ss := by
  simp [copyFrom, hd, Nat.not_lt.mpr hfits]

end Step

/-- A walk over rows that all fit reaches row `j` with every row below it copied and the
destination otherwise as it was. -/
theorem copyFrom_eq_of_fit (src dest : List (List α)) (j : Nat) (hj : j ≤ src.length)
    (hfit : ∀ i < j, ¬ Misfit src dest i) :
    copyFrom 0 dest src = copyFrom j (copiedBelow j src dest) (src.drop j) := by
  induction j with
  | zero => simp
  | succ j ih =>
    have hjs : j < src.length := by omega
    obtain ⟨hjd, hlen⟩ := fits_of_not_misfit hjs (hfit j (by omega))
    have hd : (copiedBelow j src dest)[j]? = some dest[j] := by
      rw [getElem?_copiedBelow, List.getElem?_eq_getElem hjd]
      simp
    have hsrc : src.getD j [] = src[j] := by simp [hjs]
    have hdst : dest.getD j [] = dest[j] := by simp [hjd]
    rw [ih (by omega) (fun i hi => hfit i (by omega)), List.drop_eq_getElem_cons hjs,
      copyFrom_fits j _ _ _ _ hd (by rw [← hsrc, ← hdst]; exact hlen),
      ← hsrc, copiedBelow_succ j src dest _ (by simp [hjd])]

/-- Copying rows that fit keeps the length of every row. -/
theorem map_length_copiedBelow (src dest : List (List α)) (k : Nat) (hk : k ≤ src.length)
    (hfit : ∀ i < k, ¬ Misfit src dest i) :
    (copiedBelow k src dest).map List.length = dest.map List.length := by
  apply List.ext_getElem?
  intro i
  simp only [List.getElem?_map, getElem?_copiedBelow, Option.map_map]
  cases hd : dest[i]? with
  | none => rfl
  | some d =>
    by_cases hik : i < k
    · -- a copied row is the source row followed by what lies past it, as long as before
      obtain ⟨hid, hlen⟩ := fits_of_not_misfit (by omega) (hfit i hik)
      have hdst : dest.getD i [] = d := by simp [List.getD_eq_getElem?_getD, hd]
      rw [hdst, List.getD_eq_getElem?_getD] at hlen
      simp [hik]
      omega
    · simp [hik]

/-- With no misfit, every source row is copied and nothing fails. -/
theorem copy_of_fit (src dest : List (List α)) (hfit : ∀ i, ¬ Misfit src dest i) :
    copy (some src) (some dest) = (none, some (copiedBelow src.length src dest)) := by
  simp [copy, copyFrom_eq_of_fit src dest src.length le_rfl (fun i _ => hfit i), copyFrom]

/-- At the first misfit the copy stops with the rows below it copied: there is no destination
row there, or it is shorter than the source row. -/
theorem copy_of_first_misfit (src dest : List (List α)) (k : Nat) (hk : Misfit src dest k)
    (hleast : ∀ i < k, ¬ Misfit src dest i) :
    copy (some src) (some dest) =
      (some (if dest.length ≤ k then ⟨k, dest.length⟩
        else ⟨(src.getD k []).length - 1, (dest.getD k []).length⟩),
        some (copiedBelow k src dest)) := by
  obtain ⟨hks, hmis⟩ := hk
  -- the walk reaches row `k` with the rows below it copied and row `k` as it was
  have hrun := copyFrom_eq_of_fit src dest k (Nat.le_of_lt hks) hleast
  rw [List.drop_eq_getElem_cons hks] at hrun
  have hsrc : src.getD k [] = src[k] := by simp [hks]
  by_cases hkd : dest.length ≤ k
  · have hd : (copiedBelow k src dest)[k]? = none := by simp [hkd]
    rw [copyFrom_missing k _ _ _ hd, length_copiedBelow] at hrun
    simp [copy, hrun, hkd]
  · have hkd' : k < dest.length := by omega
    have hd : (copiedBelow k src dest)[k]? = some dest[k] := by
      rw [getElem?_copiedBelow, List.getElem?_eq_getElem hkd']
      simp
    have hdst : dest.getD k [] = dest[k] := by simp [hkd']
    have hshort : dest[k].length < src[k].length := by
      rw [← hsrc, ← hdst]
      omega
    rw [copyFrom_short k _ _ _ _ hd hshort] at hrun
    rw [if_neg hkd, hsrc, hdst]
    simp [copy, hrun]

/-- Copying keeps the length of every destination row. -/
theorem map_length_copy (src dest : List (List α)) :
    (copy (some src) (some dest)).2.map (·.map List.length) = some (dest.map List.length) := by
  by_cases hex : ∃ k, Misfit src dest k
  · -- the first misfit decides, and the rows below it fit
    have hfirst := Nat.find_spec hex
    have hleast : ∀ i < Nat.find hex, ¬ Misfit src dest i := fun i hi => Nat.find_min hex hi
    rw [copy_of_first_misfit src dest _ hfirst hleast]
    simp [map_length_copiedBelow src dest _ (Nat.le_of_lt hfirst.1) hleast]
  · have hfit : ∀ i, ¬ Misfit src dest i := fun i hi => hex ⟨i, hi⟩
    rw [copy_of_fit src dest hfit]
    simp [map_length_copiedBelow src dest _ le_rfl (fun i _ => hfit i)]

/-- **Copying a matrix stops at the first misfit.** With either matrix absent nothing happens.
When no source row misfits, every destination row below the number of source rows is copied
and the rest are as they were. When row `k` is the first misfit, the failure names `k` and the
number of destination rows if there is no destination row `k`, and else the last index of
source row `k` and the length of destination row `k`; every row below `k` is copied and every
row from `k` on is as it was. Either way every destination row keeps its length. -/
theorem copy_stops_at_first_misfit (src dest : List (List α)) :
    (∀ d : Option (List (List α)), copy none d = (none, d)) ∧
    (∀ s : Option (List (List α)), copy s none = (none, none)) ∧
    ((∀ i, ¬ Misfit src dest i) →
      copy (some src) (some dest) = (none, some (copiedBelow src.length src dest))) ∧
    (∀ k, Misfit src dest k → (∀ i < k, ¬ Misfit src dest i) →
      copy (some src) (some dest) =
        (some (if dest.length ≤ k then ⟨k, dest.length⟩
          else ⟨(src.getD k []).length - 1, (dest.getD k []).length⟩),
          some (copiedBelow k src dest))) ∧
    (copy (some src) (some dest)).2.map (·.map List.length) = some (dest.map List.length) := by
  have hnone : ∀ s : Option (List (List α)), copy s none = (none, none) := by
    intro s
    cases s <;> rfl
  exact ⟨fun _ => rfl, hnone, copy_of_fit src dest, copy_of_first_misfit src dest,
    map_length_copy src dest⟩

/-- The second source row is one longer than its destination row: the first row is copied and
the failure names the last index of the long row. -/
example : copy (some [[1, 2], [3, 4, 5]]) (some [[0, 0], [0, 0]]) =
    (some ⟨2, 2⟩, some [[1, 2], [0, 0]]) := by
  decide

end Items
end ResourceKit

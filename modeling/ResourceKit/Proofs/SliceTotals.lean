import Mathlib
import ResourceKit.Items.Collect

/-!
# Joining slices: which refusal wins

`asList` checks the slices one at a time: a missing slice is refused where it stands, and
before that the running total of lengths must stay within the size limit. Whichever comes
first wins, so the outcome is decided by the total of the slices *before the first missing
one*, taken over unbounded naturals: above the limit it is an overflow, within it a missing
slice is refused, and with no slice missing the slices are joined in order.

The checks come after room has been made for a reference to each slice, and before the list
itself is allocated; that allocation asks for the total number of items of the element's width,
and panics when those bytes exceed what one allocation may hold, though the total is a size the
machine can hold.

**Results.**
* `checkSizesFrom_lengths`, `checkSizes_lengths`: the check slice by slice is one check of that
  total.
* `asList_eq`: the outcome of joining slices, in closed form.
* `asList_checks_each_slice`: the outcome as its four cases, with `addAll`.
* `asList_overflows_bytes`: a total that fits whose bytes do not.
-/

namespace ResourceKit
namespace Items

variable {α : Type}

/-- The total length of the slices before the first missing one. -/
def prefixTotal (arrays : List (Option (List α))) : Nat :=
  ((arrays.takeWhile Option.isSome).reduceOption.map List.length).sum

@[simp] theorem prefixTotal_nil : prefixTotal ([] : List (Option (List α))) = 0 := rfl

@[simp] theorem prefixTotal_none (rest : List (Option (List α))) :
    prefixTotal (none :: rest) = 0 := by
  simp [prefixTotal]

@[simp] theorem prefixTotal_some (a : List α) (rest : List (Option (List α))) :
    prefixTotal (some a :: rest) = a.length + prefixTotal rest := by
  simp [prefixTotal, List.reduceOption_cons_of_some]

/-- With no slice missing, the total is the length of all the slices joined. -/
theorem prefixTotal_of_none_not_mem (arrays : List (Option (List α))) (h : none ∉ arrays) :
    prefixTotal arrays = arrays.reduceOption.flatten.length := by
  induction arrays with
  | nil => rfl
  | cons a rest ih =>
    cases a with
    | none => simp at h
    | some a =>
      have hrest : none ∉ rest := fun hr => h (List.mem_cons_of_mem _ hr)
      simp [List.reduceOption_cons_of_some, ih hrest]

theorem any_isNone_iff (arrays : List (Option (List α))) :
    arrays.any Option.isNone = true ↔ none ∈ arrays := by
  simp [List.any_eq_true, Option.isNone_iff_eq_none]

/-- A missing slice adds nothing to the join. -/
theorem flatMap_getD_eq (arrays : List (Option (List α))) :
    arrays.flatMap (·.getD []) = arrays.reduceOption.flatten := by
  induction arrays with
  | nil => rfl
  | cons a rest ih =>
    cases a with
    | none => simp [List.reduceOption_cons_of_none, ih]
    | some a => simp [List.reduceOption_cons_of_some, ih]

/-- Checking slice by slice from a total within the limit is one check of the total before the
first missing slice: it overflows, or else a slice is missing, or else all lengths are added. -/
theorem checkSizesFrom_lengths (t : Nat) (ht : t ≤ sizeLimit) (arrays : List (Option (List α))) :
    checkSizesFrom t (arrays.map (·.map List.length)) =
      if sizeLimit < t + prefixTotal arrays then .error .capacityOverflow
      else if arrays.any Option.isNone then .error (.missing .array)
      else .ok (t + prefixTotal arrays) := by
  -- the running total is the accumulator; it stays within the limit until the check fails
  induction arrays generalizing t with
  | nil => simp [checkSizesFrom, Nat.not_lt.mpr ht]
  | cons a rest ih =>
    cases a with
    | none => simp [checkSizesFrom, Nat.not_lt.mpr ht]
    | some a =>
      by_cases hover : sizeLimit < t + a.length
      · have hall : sizeLimit < t + (a.length + prefixTotal rest) := by omega
        simp [checkSizesFrom, hover, hall]
      · rw [List.map_cons, Option.map_some, checkSizesFrom, if_neg hover,
          ih (t + a.length) (by omega)]
        simp only [List.any_cons, Option.isNone_some, Bool.false_or, prefixTotal_some,
          Nat.add_assoc]

/-- The check of all the slices: an overflow of the total before the first missing slice, or
else a missing slice, or else the total. -/
theorem checkSizes_lengths (arrays : List (Option (List α))) :
    checkSizes (arrays.map (·.map List.length)) =
      if sizeLimit < prefixTotal arrays then .error .capacityOverflow
      else if arrays.any Option.isNone then .error (.missing .array)
      else .ok (prefixTotal arrays) := by
  unfold checkSizes
  simpa using checkSizesFrom_lengths 0 (Nat.zero_le _) arrays

/-- Joining slices: a list of slice references too large to allocate, or else an overflow of the
total before the first missing slice, or else a missing slice, or else a list too large to
allocate, or else the slices joined in order. -/
theorem asList_eq (width : Nat) (arrays : List (Option (List α))) :
    asList width arrays =
      if byteLimit < arrays.length * sliceWidth then .error .capacityOverflow
      else if sizeLimit < prefixTotal arrays then .ok (.error .capacityOverflow)
      else if arrays.any Option.isNone then .ok (.error (.missing .array))
      else if byteLimit < prefixTotal arrays * width then .error .capacityOverflow
      else .ok (.ok arrays.reduceOption.flatten) := by
  unfold asList
  by_cases hrefs : byteLimit < arrays.length * sliceWidth
  · rw [(reserve_eq_error_iff _ _).mpr hrefs, if_pos hrefs]
  · rw [(reserve_eq_ok_iff _ _).mpr (Nat.not_lt.mp hrefs), if_neg hrefs, checkSizes_lengths]
    dsimp only
    split_ifs with hover hmiss hbytes
    · rfl
    · rfl
    · dsimp only
      rw [(reserve_eq_error_iff _ _).mpr hbytes]
    · dsimp only
      rw [(reserve_eq_ok_iff _ _).mpr (Nat.not_lt.mp hbytes), flatMap_getD_eq]

/-- **Joining slices refuses by the total before the first missing slice, and panics when the
list's bytes do not fit one allocation.** For a list of slices the machine can hold, with the
total of the slices before the first missing one taken over unbounded naturals: joining returns
an overflow exactly when that total exceeds the size limit, and refuses a missing slice exactly
when one is missing and the total is within the limit. With no slice missing and the total
within the limit, it panics exactly when the total's items take more bytes than one allocation
may hold, and otherwise gives the slices joined in order, as long as the total. Adding slices to
a present collection appends them joined; an absent collection is refused. -/
theorem asList_checks_each_slice (width : Nat) (arrays : List (Option (List α)))
    (hheld : arrays.length * sliceWidth ≤ byteLimit) :
    (asList width arrays = .ok (.error .capacityOverflow) ↔ sizeLimit < prefixTotal arrays) ∧
    (asList width arrays = .ok (.error (.missing .array)) ↔
      none ∈ arrays ∧ prefixTotal arrays ≤ sizeLimit) ∧
    (asList width arrays = .error .capacityOverflow ↔
      none ∉ arrays ∧ prefixTotal arrays ≤ sizeLimit ∧ byteLimit < prefixTotal arrays * width) ∧
    (∀ xs, asList width arrays = .ok (.ok xs) ↔
      none ∉ arrays ∧ prefixTotal arrays ≤ sizeLimit ∧ prefixTotal arrays * width ≤ byteLimit ∧
        xs = arrays.reduceOption.flatten) ∧
    (∀ xs, asList width arrays = .ok (.ok xs) → xs.length = prefixTotal arrays) ∧
    (ListError.missing .array).message = "Null arrays not allowed" ∧
    Panic.capacityOverflow.message = "capacity overflow" ∧
    (∀ (c : List α) (more : List (List α)), addAll (some c) more = .ok (c ++ more.flatten)) ∧
    (∀ more : List (List α), addAll none more = .error .collection) ∧
    MissingArgument.collection.message = "collection cannot be null" := by
  -- the references to the slices always fit, so the outcome is decided by the four checks after
  have hrefs : ¬ byteLimit < arrays.length * sliceWidth := Nat.not_lt.mpr hheld
  have hmiss : arrays.any Option.isNone = true ↔ none ∈ arrays := any_isNone_iff arrays
  have hok : ∀ xs, asList width arrays = .ok (.ok xs) ↔
      none ∉ arrays ∧ prefixTotal arrays ≤ sizeLimit ∧ prefixTotal arrays * width ≤ byteLimit ∧
        xs = arrays.reduceOption.flatten := by
    intro xs
    rw [asList_eq, if_neg hrefs, ← hmiss]
    split_ifs with hover hnone hbytes
    · exact iff_of_false (by simp) fun h => absurd h.2.1 (Nat.not_le.mpr hover)
    · exact iff_of_false (by simp) fun h => h.1 hnone
    · exact iff_of_false (by simp) fun h => absurd h.2.2.1 (Nat.not_le.mpr hbytes)
    · rw [Except.ok.injEq, Except.ok.injEq]
      exact ⟨fun h => ⟨hnone, Nat.not_lt.mp hover, Nat.not_lt.mp hbytes, h.symm⟩,
        fun h => h.2.2.2.symm⟩
  refine ⟨?_, ?_, ?_, hok, ?_, rfl, rfl, fun _ _ => rfl, fun _ => rfl, rfl⟩
  · rw [asList_eq, if_neg hrefs]
    split_ifs <;> simp_all
  · rw [asList_eq, if_neg hrefs, ← hmiss]
    split_ifs <;> simp_all
  · rw [asList_eq, if_neg hrefs, ← hmiss]
    split_ifs <;> simp_all
  · intro xs hxs
    obtain ⟨hnone, -, -, rfl⟩ := (hok xs).mp hxs
    exact (prefixTotal_of_none_not_mem arrays hnone).symm

/-- Two slices of flags, the second missing: their references fit, the total is within the
limit, and the missing slice is refused. -/
theorem asList_checks_each_slice_missing_last :
    [some [true, false], none].length * sliceWidth ≤ byteLimit ∧
    asList 1 [some [true, false], none] = .ok (.error (.missing .array)) := by
  have hheld : [some [true, false], none].length * sliceWidth ≤ byteLimit := by decide
  exact ⟨hheld, (asList_checks_each_slice 1 _ hheld).2.1.mpr ⟨by simp, by decide⟩⟩

/-- A slice repeated adds its length each time. -/
theorem prefixTotal_replicate (k : Nat) (a : List α) :
    prefixTotal (List.replicate k (some a)) = k * a.length := by
  induction k with
  | zero => simp
  | succ k ih => rw [List.replicate_succ, prefixTotal_some, ih, Nat.succ_mul, Nat.add_comm]

/-- `2^30` references to one slice of `2^30` eight-byte integers: the total, `2^60`, is a size
the machine can hold, but its items take `2^63` bytes, one more than an allocation may hold. -/
theorem asList_overflows_bytes :
    asList 8 (List.replicate (Nat.pow 2 30) (some (List.replicate (Nat.pow 2 30) (0 : UInt64)))) =
      .error .capacityOverflow := by
  rw [asList_eq, prefixTotal_replicate, List.length_replicate, List.length_replicate,
    List.any_replicate, Option.isNone_some, ite_self,
    if_neg (by norm_num [sliceWidth, byteLimit]), if_neg (by norm_num [sizeLimit]),
    if_neg Bool.false_ne_true, if_pos (by norm_num [byteLimit])]

/-- A missing slice is refused wherever it stands. -/
example : asList 1 [some [(), ()], none] = .ok (.error (.missing .array)) ∧
    asList 1 [none, some [()]] = .ok (.error (.missing .array)) := by
  decide

end Items
end ResourceKit

import Mathlib.Data.Finset.Card
import Mathlib.Data.List.Nodup
import ResourceKit.Resource.Stream

/-!
# Memory tables after a history of inserts

A memory table is filled by inserting resources one after another. What the table answers
after any history depends on the history only through the normalised names: a name finds the
contents of the last insert under a name that normalises alike, each insert hands back what the
one before it under such a name stored, and the table holds one entry per normalised name.

**Results.**
* `MemoryStore.find?_insertAll`: after a history, a name finds its last write, or what it found
  before the history.
* `MemoryStore.keys_insertAll`: the names of a table after a history are those it had and those
  inserted, each once.
* `MemoryStore.inserts_answer_by_last_write`: the whole account of a table built from empty.
-/

namespace ResourceKit
namespace Resource

open Reading

/-- The contents of the last insert of a history under a name that normalises as `r` does. -/
def lastWrite (ins : List (String × List UInt8)) (r : String) : Option (List UInt8) :=
  (ins.reverse.find? fun e => normalize e.1 == normalize r).map (·.2)

@[simp] theorem lastWrite_nil (r : String) : lastWrite [] r = none := rfl

theorem lastWrite_append_single (ins : List (String × List UInt8)) (n : String)
    (c : List UInt8) (r : String) :
    lastWrite (ins ++ [(n, c)]) r =
      if normalize r = normalize n then some c else lastWrite ins r := by
  by_cases h : normalize r = normalize n
  · simp [lastWrite, h]
  · have h' : ¬ normalize n = normalize r := fun e => h e.symm
    simp [lastWrite, h, h']

namespace MemoryStore

/-- A table after inserting resources in order. -/
def insertAll (m : MemoryStore) (ins : List (String × List UInt8)) : MemoryStore :=
  ins.foldl (fun t e => (t.insert e.1 e.2).2) m

@[simp] theorem insertAll_nil (m : MemoryStore) : m.insertAll [] = m := rfl

theorem insertAll_append_single (m : MemoryStore) (ins : List (String × List UInt8))
    (n : String) (c : List UInt8) :
    m.insertAll (ins ++ [(n, c)]) = ((m.insertAll ins).insert n c).2 := by
  simp [insertAll]

/-- An insert hands back what the name found before it. -/
@[simp] theorem insert_fst (m : MemoryStore) (n : String) (c : List UInt8) :
    (m.insert n c).1 = m.find? n := rfl

theorem keys_insert (m : MemoryStore) (n : String) (c : List UInt8) :
    (m.insert n c).2.keys =
      if normalize n ∈ m.keys then m.keys else m.keys ++ [normalize n] :=
  Keyed.keys_put m.entries (normalize n) c

/-- After a history, a name finds its last write, or what it found before the history. -/
theorem find?_insertAll (m : MemoryStore) (ins : List (String × List UInt8)) (r : String) :
    (m.insertAll ins).find? r = (lastWrite ins r).or (m.find? r) := by
  -- the history grows at its end, where the newest insert decides
  induction ins using List.reverseRecOn with
  | nil => simp
  | append_singleton ins e ih =>
    obtain ⟨n, c⟩ := e
    rw [insertAll_append_single, find?_insert, lastWrite_append_single, ih]
    by_cases h : normalize r = normalize n <;> simp [h]

/-- The names of a table after a history are those it had and those inserted, each once. -/
theorem keys_insertAll (m : MemoryStore) (hm : m.keys.Nodup)
    (ins : List (String × List UInt8)) :
    (m.insertAll ins).keys.Nodup ∧
      (m.insertAll ins).keys.toFinset =
        m.keys.toFinset ∪ (ins.map fun e => normalize e.1).toFinset := by
  induction ins using List.reverseRecOn with
  | nil => simp [hm]
  | append_singleton ins e ih =>
    obtain ⟨n, c⟩ := e
    obtain ⟨hnd, hset⟩ := ih
    have hnew : (ins ++ [(n, c)]).map (fun e => normalize e.1) =
        ins.map (fun e => normalize e.1) ++ [normalize n] := by simp
    rw [insertAll_append_single, keys_insert, hnew, List.toFinset_append, ← Finset.union_assoc,
      ← hset]
    by_cases hn : normalize n ∈ (m.insertAll ins).keys
    · -- the name is there already: its entry is replaced in place
      rw [if_pos hn]
      refine ⟨hnd, ?_⟩
      simp only [List.toFinset_cons, List.toFinset_nil, insert_empty_eq, Finset.union_singleton]
      exact (Finset.insert_eq_of_mem (List.mem_toFinset.mpr hn)).symm
    · -- a new name goes last
      rw [if_neg hn, ← List.concat_eq_append]
      exact ⟨hnd.concat hn, by simp⟩

/-- The number of entries of a table built from empty is the number of normalised names
inserted. -/
theorem size_insertAll (name : String) (ins : List (String × List UInt8)) :
    (({ name } : MemoryStore).insertAll ins).size =
      (ins.map fun e => normalize e.1).toFinset.card := by
  obtain ⟨hnd, hset⟩ := keys_insertAll { name } List.nodup_nil ins
  have hsize : ∀ t : MemoryStore, t.size = t.keys.length := fun t => by simp [size, keys]
  rw [hsize, ← List.toFinset_card_of_nodup hnd, hset]
  simp [keys]

/-- **A memory table answers by the last write.** After any history of inserts into a fresh
table, a name finds, and opening it from any store that holds the table yields, exactly the
contents of the last insert under a name that normalises alike, or nothing if there was none;
the next insert hands back those contents; and the table has one entry per normalised name
inserted. -/
theorem inserts_answer_by_last_write (name : String) (ins : List (String × List UInt8))
    (r : String) :
    (({ name } : MemoryStore).insertAll ins).find? r = lastWrite ins r ∧
    (∀ (s : Store) (h : Nat),
      s.get? h = some (.memory (({ name } : MemoryStore).insertAll ins)) →
      (s.open h r).map (·.map contents) = .ok ((lastWrite ins r).map .ok)) ∧
    (∀ (n : String) (c : List UInt8),
      ((({ name } : MemoryStore).insertAll ins).insert n c).1 = lastWrite ins n) ∧
    (({ name } : MemoryStore).insertAll ins).size =
      (ins.map fun e => normalize e.1).toFinset.card := by
  have hfind : ∀ r, (({ name } : MemoryStore).insertAll ins).find? r = lastWrite ins r := by
    intro r
    rw [find?_insertAll]
    cases lastWrite ins r <;> rfl
  refine ⟨hfind r, ?_, ?_, size_insertAll name ins⟩
  · intro s h hget
    rw [Store.open_memory s h _ hget, hfind]
    cases lastWrite ins r <;> simp [Except.map, contents, drain_ofBytes]
  · intro n c
    rw [insert_fst, hfind]

/-- Two inserts under `/a.txt` and `a.txt`, read back from a store that holds the table. -/
theorem inserts_answer_by_last_write_slashes :
    (⟨[.memory (({ name := "mem" } : MemoryStore).insertAll
        [("/a.txt", [1]), ("a.txt", [2])])]⟩ : Store).get? 0 =
      some (.memory (({ name := "mem" } : MemoryStore).insertAll
        [("/a.txt", [1]), ("a.txt", [2])])) ∧
    ((⟨[.memory (({ name := "mem" } : MemoryStore).insertAll
        [("/a.txt", [1]), ("a.txt", [2])])]⟩ : Store).open 0 "//a.txt").map (·.map contents) =
      .ok (some (.ok [2])) := by
  have hlast : lastWrite [("/a.txt", [1]), ("a.txt", [2])] "//a.txt" = some [2] := by decide
  refine ⟨rfl, ?_⟩
  rw [(inserts_answer_by_last_write "mem" [("/a.txt", [1]), ("a.txt", [2])] "//a.txt").2.1 _ 0 rfl,
    hlast]
  rfl

end MemoryStore
end Resource
end ResourceKit

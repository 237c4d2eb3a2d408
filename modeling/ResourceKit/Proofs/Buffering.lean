import ResourceKit.Reading.Buffered

/-!
# Buffered reading keeps every byte

A buffered reader asks its source for at most its capacity at a time, so a run of data arrives
in chunks. None of the chunks is empty, since an empty read would be taken for the end of the
input, and together they are the run: cutting a source to a capacity changes neither what is
drained from it nor how the draining ends. Capacities here are of one byte or more; a reader
of capacity zero, which reports the end of the input at its first fill, is not modelled.

A source that reaches the end of its input and never fails hands out only chunks: runs of
data that are not empty, and interruptions. Over such a source, reading a record (up to and
including the next line feed) takes exactly the first record of what is left and leaves the
rest, wherever the reads' edges fall.

**Results.**
* `drain_cut`: the reads of a buffered reader drain to the bytes and ending of its source.
* `Buffered.readRecord_spec`: reading a record takes the first record of what is left.
* `records_flatten`: the records of bytes are the bytes, cut after each line feed.
-/

namespace ResourceKit
namespace Reading

theorem chunks_ne_nil (n : Nat) (bytes : List UInt8) : ∀ c ∈ chunks n bytes, c ≠ [] := by
  fun_induction chunks n bytes with
  | case1 => simp
  | case2 bytes h ih =>
    intro c hc
    rcases List.mem_cons.mp hc with rfl | hc
    · obtain ⟨b, bs, rfl⟩ := List.exists_cons_of_ne_nil h
      simp
    · exact ih c hc

/-- Runs of data that are not empty drain one after the other. -/
theorem drain_data_append (cs : List (List UInt8)) (hcs : ∀ c ∈ cs, c ≠ [])
    (rest : List Segment) :
    drain (cs.map Segment.data ++ rest) = (cs.flatten ++ (drain rest).1, (drain rest).2) := by
  induction cs with
  | nil => rfl
  | cons c cs ih =>
    have hc : c ≠ [] := hcs c List.mem_cons_self
    have hcs' : ∀ c ∈ cs, c ≠ [] := fun c h => hcs c (List.mem_cons_of_mem _ h)
    rw [List.map_cons, List.cons_append, drain_append_data c hc, ih hcs']
    simp

/-- **The reads of a buffered reader drain to the bytes and ending of its source**, for a
buffer of any capacity of one byte or more. -/
theorem drain_cut (cap : Capacity) (src : List Segment) : drain (cut cap src) = drain src := by
  induction src with
  | nil => rfl
  | cons seg rest ih =>
    cases seg with
    | data bytes =>
      cases bytes with
      | nil => rfl
      | cons b bs =>
        simp only [cut]
        rw [drain_data_append _ (chunks_ne_nil _ _), chunks_flatten, ih,
          drain_append_data _ (List.cons_ne_nil b bs)]
    | interrupted => exact ih
    | failure m => rfl

/-! ## Records -/

/-- A read that hands out bytes, or is interrupted: never an end of the input, never a failure. -/
def Segment.isChunk : Segment → Bool
  | .data bytes => !bytes.isEmpty
  | .interrupted => true
  | .failure _ => false

theorem cut_isChunk (cap : Capacity) {src : List Segment} (h : ∀ seg ∈ src, seg.isChunk) :
    ∀ seg ∈ cut cap src, seg.isChunk := by
  induction src with
  | nil => simp [cut]
  | cons seg rest ih =>
    have hrest := ih (fun s hs => h s (List.mem_cons_of_mem _ hs))
    have hseg := h seg List.mem_cons_self
    cases seg with
    | data bytes =>
      cases bytes with
      | nil => simp [Segment.isChunk] at hseg
      | cons b bs =>
        intro s hs
        simp only [cut, List.mem_append, List.mem_map] at hs
        rcases hs with ⟨c, hc, rfl⟩ | hs
        · simpa [Segment.isChunk] using chunks_ne_nil _ _ c hc
        · exact hrest s hs
    | interrupted =>
      intro s hs
      rcases List.mem_cons.mp hs with rfl | hs
      · rfl
      · exact hrest s hs
    | failure m => simp [Segment.isChunk] at hseg

/-- The records of bytes: each runs up to and including a line feed, and the last one may lack
it. -/
def records : List UInt8 → List (List UInt8)
  | [] => []
  | b :: bs =>
    if b = 10 then [b] :: records bs
    else
      match records bs with
      | [] => [[b]]
      | r :: rs => (b :: r) :: rs

/-- The first record of bytes, all of them if no line feed ends it. -/
def firstRecord (bytes : List UInt8) : List UInt8 :=
  match splitRecord bytes with
  | some (record, _) => record
  | none => bytes

/-- The bytes after the first record. -/
def afterRecord (bytes : List UInt8) : List UInt8 :=
  match splitRecord bytes with
  | some (_, after) => after
  | none => []

theorem records_flatten (bytes : List UInt8) : (records bytes).flatten = bytes := by
  induction bytes with
  | nil => rfl
  | cons b bs ih =>
    simp only [records]
    split
    · next h =>
      subst h
      simp [ih]
    · cases hr : records bs with
      | nil =>
        rw [hr] at ih
        simp [← ih]
      | cons r rs =>
        rw [hr] at ih
        simp [← ih]

theorem records_eq (bytes : List UInt8) :
    records bytes =
      if bytes = [] then [] else firstRecord bytes :: records (afterRecord bytes) := by
  induction bytes with
  | nil => rfl
  | cons b bs ih =>
    simp only [records, firstRecord, afterRecord, splitRecord, reduceCtorEq, if_false]
    by_cases h : b = 10
    · simp [h]
    · simp only [h, if_false]
      rw [ih]
      cases hs : splitRecord bs with
      | none =>
        by_cases hbs : bs = []
        · subst hbs
          simp [records]
        · simp [hbs, firstRecord, afterRecord, hs, records]
      | some p =>
        obtain ⟨record, after⟩ := p
        have hbs : bs ≠ [] := by
          rintro rfl
          simp [splitRecord] at hs
        simp [hbs, firstRecord, afterRecord, hs]

theorem splitRecord_append_of_none {x : List UInt8} (hx : splitRecord x = none)
    (y : List UInt8) :
    splitRecord (x ++ y) = (splitRecord y).map fun p => (x ++ p.1, p.2) := by
  induction x with
  | nil => simp
  | cons b bs ih =>
    simp only [splitRecord] at hx
    split at hx
    · cases hx
    · next h =>
      have hbs : splitRecord bs = none := by simpa using hx
      simp only [List.cons_append, splitRecord, h, if_false, ih hbs, Option.map_map]
      rfl

theorem splitRecord_append_of_some {x record after : List UInt8}
    (hx : splitRecord x = some (record, after)) (y : List UInt8) :
    splitRecord (x ++ y) = some (record, after ++ y) := by
  induction x generalizing record after with
  | nil => simp [splitRecord] at hx
  | cons b bs ih =>
    simp only [splitRecord] at hx
    split at hx
    · next h =>
      cases hx
      simp [splitRecord, h]
    · next h =>
      obtain ⟨⟨r, a⟩, hs, he⟩ := Option.map_eq_some_iff.mp hx
      simp only [Prod.mk.injEq] at he
      obtain ⟨rfl, rfl⟩ := he
      simp [splitRecord, h, ih hs]

/-- Reading on through chunks: the record begun in `acc`, which holds no line feed, is completed
from the chunks, and the rest is left. -/
theorem refill_spec (acc : List UInt8) (hacc : splitRecord acc = none) (pending : List Segment)
    (hp : ∀ seg ∈ pending, seg.isChunk) :
    (refill acc pending).1 = .ok (firstRecord (acc ++ (drain pending).1)) ∧
    (refill acc pending).2.rest = afterRecord (acc ++ (drain pending).1) ∧
    ∀ seg ∈ (refill acc pending).2.pending, seg.isChunk := by
  induction pending generalizing acc with
  | nil =>
    simp [refill, drain, firstRecord, afterRecord, hacc, Buffered.rest]
  | cons seg rest ih =>
    have hrest : ∀ s ∈ rest, s.isChunk := fun s hs => hp s (List.mem_cons_of_mem _ hs)
    have hseg := hp seg List.mem_cons_self
    cases seg with
    | data bytes =>
      obtain ⟨b, bs, rfl⟩ := List.exists_cons_of_ne_nil (by simpa [Segment.isChunk] using hseg)
      rw [drain_append_data _ (List.cons_ne_nil b bs)]
      cases hs : splitRecord (b :: bs) with
      | some p =>
        -- the record ends inside this chunk; what follows it stays in the buffer
        obtain ⟨record, after⟩ := p
        have hsplit : splitRecord (acc ++ ((b :: bs) ++ (drain rest).1)) =
            some (acc ++ record, after ++ (drain rest).1) := by
          rw [splitRecord_append_of_none hacc, splitRecord_append_of_some hs]
          rfl
        simp only [refill, hs, firstRecord, afterRecord, hsplit, Buffered.rest]
        exact ⟨trivial, trivial, hrest⟩
      | none =>
        -- the whole chunk belongs to the record
        have hacc' : splitRecord (acc ++ b :: bs) = none := by
          rw [splitRecord_append_of_none hacc, hs]
          rfl
        simp only [refill, hs]
        rw [← List.append_assoc]
        exact ih (acc ++ b :: bs) hacc' hrest
    | interrupted =>
      simp only [refill, drain]
      exact ih acc hacc hrest
    | failure m => simp [Segment.isChunk] at hseg

/-- **Reading a record takes the first record of what is left**, however the bytes left are
split between the buffer and the chunks to come, and leaves the bytes after it. -/
theorem Buffered.readRecord_spec (r : Buffered) (hr : ∀ seg ∈ r.pending, seg.isChunk) :
    r.readRecord.1 = .ok (firstRecord r.rest) ∧
    r.readRecord.2.rest = afterRecord r.rest ∧
    ∀ seg ∈ r.readRecord.2.pending, seg.isChunk := by
  unfold Buffered.readRecord
  cases hs : splitRecord r.buffer with
  | some p =>
    obtain ⟨record, after⟩ := p
    have hsplit := splitRecord_append_of_some hs (drain r.pending).1
    simp only [Buffered.rest, firstRecord, afterRecord, hsplit]
    exact ⟨trivial, trivial, hr⟩
  | none => exact refill_spec r.buffer hs r.pending hr

end Reading
end ResourceKit

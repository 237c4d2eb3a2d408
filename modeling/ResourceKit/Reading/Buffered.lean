import ResourceKit.Reading.Source
import ResourceKit.Reading.Failure

/-!
# Buffered reading

A buffered reader of capacity `n` asks its source for at most `n` bytes whenever its buffer is
empty, so a run of data longer than `n` arrives in several reads. The reader holds the bytes
it has filled and not yet handed out (`buffer`) and the reads still to come (`pending`),
already cut to the capacity.

`readRecord` reads up to and including the next line feed, retrying interruptions. At the end
of the input it returns what it has, possibly nothing. A failure ends the call with the
failure, and the bytes this call had taken are lost.

A capacity is at least one byte (`Capacity.size_pos`). A buffered reader of capacity zero can
be made as well: its every fill reads nothing, so it reports the end of the input at once,
whatever the source holds. That reader is left out here, so every result quantified over
capacities is about readers of one byte or more.

**Results.**
* `chunks_flatten`: cutting into runs keeps every byte, in order.
-/

namespace ResourceKit
namespace Reading

/-- The size of a reader's buffer: at least one byte. A buffer of no bytes, which reports the
end of the input at its first fill, is not modelled. -/
structure Capacity where
  size : Nat
  size_pos : 0 < size := by decide
deriving Repr

/-- The capacity used when none is given. -/
def Capacity.standard : Capacity := ⟨8192, by decide⟩

/-- A byte string in runs of at most `n + 1` bytes. -/
def chunks (n : Nat) (bytes : List UInt8) : List (List UInt8) :=
  if h : bytes = [] then []
  else bytes.take (n + 1) :: chunks n (bytes.drop (n + 1))
termination_by bytes.length
decreasing_by
  have : bytes.length ≠ 0 := fun e => h (List.eq_nil_of_length_eq_zero e)
  simp only [List.length_drop]
  omega

/-- The reads a buffered reader of capacity `cap` makes of a source. -/
def cut (cap : Capacity) : List Segment → List Segment
  | [] => []
  | .data [] :: rest => .data [] :: cut cap rest
  | .data (b :: bs) :: rest =>
    ((chunks (cap.size - 1) (b :: bs)).map Segment.data) ++ cut cap rest
  | s :: rest => s :: cut cap rest

/-- A buffered reader: bytes filled and not yet handed out, and the reads to come. -/
structure Buffered where
  buffer : List UInt8
  pending : List Segment
deriving Repr

/-- A buffered reader over a source, with nothing filled yet. -/
def Buffered.ofSource (cap : Capacity) (src : List Segment) : Buffered :=
  ⟨[], cut cap src⟩

/-- The bytes up to and including the first line feed, and those after it. -/
def splitRecord : List UInt8 → Option (List UInt8 × List UInt8)
  | [] => none
  | b :: bs =>
    if b = 10 then some ([b], bs)
    else (splitRecord bs).map fun p => (b :: p.1, p.2)

/-- Reading on through the reads to come, with the bytes taken so far. -/
def refill (acc : List UInt8) : List Segment → Except IoFailure (List UInt8) × Buffered
  | [] => (.ok acc, ⟨[], []⟩)
  | .data [] :: rest => (.ok acc, ⟨[], rest⟩)
  | .data (b :: bs) :: rest =>
    match splitRecord (b :: bs) with
    | some (record, after) => (.ok (acc ++ record), ⟨after, rest⟩)
    | none => refill (acc ++ (b :: bs)) rest
  | .interrupted :: rest => refill acc rest
  | .failure m :: rest => (.error (.injected m), ⟨[], rest⟩)

/-- Read up to and including the next line feed. -/
def Buffered.readRecord (r : Buffered) : Except IoFailure (List UInt8) × Buffered :=
  match splitRecord r.buffer with
  | some (record, after) => (.ok record, ⟨after, r.pending⟩)
  | none => refill r.buffer r.pending

/-- What is left to read: the buffer, then the source up to its end or first failure. -/
def Buffered.rest (r : Buffered) : List UInt8 :=
  r.buffer ++ (drain r.pending).1

/-- Cutting into runs keeps every byte, in order. -/
theorem chunks_flatten (n : Nat) (bytes : List UInt8) : (chunks n bytes).flatten = bytes := by
  fun_induction chunks n bytes with
  | case1 => rfl
  | case2 bytes h ih => rw [List.flatten_cons, ih, List.take_append_drop]

end Reading
end ResourceKit

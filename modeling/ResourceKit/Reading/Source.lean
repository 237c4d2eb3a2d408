/-!
# Scripted byte sources

A source is the list of outcomes its successive `read` calls give: a run of data, an
interruption (a failure that readers retry), or a failure with a message. A run of data is
served by one or more reads, none of which mixes two runs; an empty run is one read that
returns nothing, which readers take for the end of the input. After the last outcome every
read returns nothing.

What a reader that goes to the end collects is the *drain* of the source: the data up to the
first empty read or failure, skipping interruptions, and how it ended.

**Results.**
* `drain_append_data`: a non-empty run of data is a prefix of what is drained.
-/

namespace ResourceKit
namespace Reading

/-- One scripted outcome of a read. -/
inductive Segment
  | data (bytes : List UInt8)
  | interrupted
  | failure (message : String)
deriving Repr, DecidableEq

/-- How reading a source to its end stops. -/
inductive Ending
  | endOfInput
  | failed (message : String)
deriving Repr, DecidableEq

/-- The bytes a reader collects until the end of the input or the first failure, and which of
the two it met. -/
def drain : List Segment → List UInt8 × Ending
  | [] => ([], .endOfInput)
  | .data [] :: _ => ([], .endOfInput)
  | .data (b :: bs) :: rest => ((b :: bs) ++ (drain rest).1, (drain rest).2)
  | .interrupted :: rest => drain rest
  | .failure m :: _ => ([], .failed m)

/-- A source that serves a byte string in one run. -/
def ofBytes (bytes : List UInt8) : List Segment :=
  [.data bytes]

theorem drain_ofBytes (bytes : List UInt8) : drain (ofBytes bytes) = (bytes, .endOfInput) := by
  cases bytes <;> simp [ofBytes, drain]

/-- A non-empty run of data is a prefix of what is drained. -/
theorem drain_append_data (bs : List UInt8) (h : bs ≠ []) (rest : List Segment) :
    drain (.data bs :: rest) = (bs ++ (drain rest).1, (drain rest).2) := by
  cases bs with
  | nil => exact absurd rfl h
  | cons b bs => rfl

end Reading
end ResourceKit

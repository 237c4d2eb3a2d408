import ResourceKit.Text.Utf8
import ResourceKit.Reading.Source
import ResourceKit.Reading.Buffered
import ResourceKit.Reading.Failure

/-!
# Reading text and lines from a source

`readText` reads a whole source as UTF-8 text: it collects the data to the end of the input,
and a failure of the source wins over text that is not UTF-8.

`readLines` reads through a buffered reader and cuts lines as the bytes arrive, chunk by
chunk. A carriage return sets a flag that makes a line feed right after it, even one in the
next chunk, part of the same terminator. Each line is checked as UTF-8 as soon as it ends,
so a bad line ends the reading before a later failure of the source is met. At the end of
the input an unterminated non-empty rest is a last line.

**Results.**
* `readText_ofBytes`: a source of one run reads as the decoding of that run.
-/

namespace ResourceKit
namespace Lines

open Reading

/-- The text of a whole source. -/
def readText (src : List Segment) : Except IoFailure String :=
  match drain src with
  | (_, .failed m) => .error (.injected m)
  | (bytes, .endOfInput) =>
    match Text.Utf8.decode? bytes with
    | .ok s => .ok s
    | .error _ => .error .notText

/-- The state of the line cutter between bytes: the current line's bytes newest first,
whether the last byte was a carriage return, and the lines so far newest first. -/
structure Cutter where
  line : List UInt8 := []
  afterCr : Bool := false
  lines : List String := []
deriving Repr

/-- End the current line, checking it as UTF-8. -/
def Cutter.endLine (s : Cutter) : Except Text.Utf8.Error Cutter :=
  match Text.Utf8.decode? s.line.reverse with
  | .ok text => .ok { s with line := [], lines := text :: s.lines }
  | .error e => .error e

/-- One byte through the cutter. -/
def Cutter.feed (s : Cutter) (b : UInt8) : Except Text.Utf8.Error Cutter :=
  if b = 10 ∧ s.afterCr then .ok { s with afterCr := false }
  else if b = 10 ∨ b = 13 then
    match s.endLine with
    | .ok s' => .ok { s' with afterCr := b = 13 }
    | .error e => .error e
  else .ok { s with line := b :: s.line, afterCr := false }

/-- A chunk of bytes through the cutter. -/
def Cutter.feedAll (s : Cutter) : List UInt8 → Except Text.Utf8.Error Cutter
  | [] => .ok s
  | b :: bs =>
    match s.feed b with
    | .ok s' => s'.feedAll bs
    | .error e => .error e

/-- The lines once the input has ended. -/
def Cutter.finish (s : Cutter) : Except Text.Utf8.Error (List String) :=
  if s.line = [] then .ok s.lines.reverse
  else (s.endLine).map fun s' => s'.lines.reverse

/-- The cutter over the reads of a buffered reader, each handed out whole. -/
def Cutter.run (s : Cutter) : List Segment → Except IoFailure (List String)
  | [] => s.finish.mapError .badLine
  | .data [] :: _ => s.finish.mapError .badLine
  | .data (b :: bs) :: rest =>
    match s.feedAll (b :: bs) with
    | .ok s' => s'.run rest
    | .error e => .error (.badLine e)
  | .interrupted :: rest => s.run rest
  | .failure m :: _ => .error (.injected m)

/-- The lines of a source read through a buffered reader of capacity `cap`. -/
def readLines (cap : Capacity) (src : List Segment) : Except IoFailure (List String) :=
  ({} : Cutter).run (Reading.cut cap src)

/-- A source of one run reads as the decoding of that run. -/
theorem readText_ofBytes (bytes : List UInt8) :
    readText (ofBytes bytes) =
      match Text.Utf8.decode? bytes with
      | .ok s => .ok s
      | .error _ => .error .notText := by
  simp [readText, drain_ofBytes]

end Lines
end ResourceKit

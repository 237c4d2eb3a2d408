import ResourceKit.Text.Sniffing
import ResourceKit.Reading.Source
import ResourceKit.Properties.Escape
import ResourceKit.Properties.Line
import ResourceKit.Properties.Lines
import ResourceKit.Properties.Map

/-!
# Reading properties text

Reading a stream of properties text decodes its bytes (windows-1252 unless a byte-order mark
says otherwise), cuts the text into logical lines, and writes each entry into a fresh map, in
order. Escapes are decoded in keys, values and comments alike, so a malformed escape in a
comment is an error too; of two faults, the one met first while reading line by line wins.

Three faults can end a reading: a malformed escape on a line, a failure of the stream, and a
decoder asked for text after it has finished. The last arises when the input ends inside a
byte sequence the decoder was holding: the decoder then releases those bytes as text, and the
reader, which has not yet seen the end, asks once more.
-/

namespace ResourceKit
namespace Properties

open Text

/-- Why properties text cannot be read. -/
inductive Fault
  | malformed (problem : EscapeProblem) (line : Nat)
  | unreadable (line : Nat) (message : String)
  | decoderFinished
deriving Repr, DecidableEq

/-- The text of a fault. -/
def Fault.message : Fault → String
  | .malformed p n => let what := p.text; s!"{what} (line_number = {n})"
  | .unreadable n _ => s!"I/O error (line_number = {n})"
  | .decoderFinished => "Must not use a decoder that has finished."

/-- Write one logical line into a map. -/
def applyLine (m : PropertyMap) (line : Logical) : Except Fault PropertyMap :=
  match Content.ofLine line.text with
  | .nothing => .ok m
  | .comment t =>
    match unescape t with
    | .ok _ => .ok m
    | .error p => .error (.malformed p line.number)
  | .entry k v =>
    match unescape k with
    | .error p => .error (.malformed p line.number)
    | .ok k' =>
      match unescape v with
      | .error p => .error (.malformed p line.number)
      | .ok v' => .ok (m.insert (String.ofList k') (String.ofList v'))

/-- The fault a stop of the logical lines stands for, if any. -/
def LogicalStop.fault? : LogicalStop → Option Fault
  | .exhausted => none
  | .aborted => some .decoderFinished
  | .failed n m => some (.unreadable n m)

/-- The map that decoded text describes. -/
def ofText (text : List Char) (e : TextEnd) : Except Fault PropertyMap :=
  let (lines, stop) := logical (physical text e).1 (physical text e).2
  match lines.foldlM applyLine PropertyMap.empty with
  | .error f => .error f
  | .ok m =>
    match stop.fault? with
    | none => .ok m
    | some f => .error f

/-- The map that a stream of bytes describes: at the end of the input the decoder releases
what it holds, and a decoder that released anything is then finished. -/
def ofStream (bytes : List UInt8) (ending : Reading.Ending) : Except Fault PropertyMap :=
  match ending with
  | .endOfInput =>
    let d := Sniffing.decode bytes
    ofText (d.chars ++ d.held) (if d.held = [] then .finished else .spent)
  | .failed m => ofText (Sniffing.decode bytes).chars (.failed m)

/-- The map that a complete byte string describes. -/
def ofBytes (bytes : List UInt8) : Except Fault PropertyMap :=
  ofStream bytes .endOfInput

end Properties
end ResourceKit

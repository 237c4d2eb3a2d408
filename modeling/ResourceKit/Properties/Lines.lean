import ResourceKit.Text.Blank
import ResourceKit.Properties.Line

/-!
# Physical and logical lines of properties text

Decoded text is cut into *physical* lines at each line feed, carriage return, or carriage
return followed by line feed; the text after the last terminator is a last physical line,
possibly empty. Lines are numbered from 1.

A *logical* line is a physical line, joined with the following ones while it ends in an odd
number of backslashes: one backslash is dropped and the next line is appended without its
leading Unicode blanks. A line that opens a comment is never continued. A logical line keeps
the number of its first physical line.

The text can end in three ways (`TextEnd`): it is finished; the decoder is *spent*, so that
asking for one more character aborts; or the stream failed. A reader of lines meets that end
only when it asks for the line after the last complete one, so everything before it is still
read.
-/

namespace ResourceKit
namespace Properties

open Text

/-- How decoded text ends. -/
inductive TextEnd
  | finished
  | spent
  | failed (message : String)
deriving Repr, DecidableEq

/-- What stops a reader of lines after the lines it returned. -/
inductive Stop
  | exhausted
  | aborted
  | failed (message : String)
deriving Repr, DecidableEq

/-- Cutting text into physical lines, with the current line's characters newest first and
the finished lines newest first. -/
def physicalFrom (acc : List Char) (done : List (List Char)) :
    List Char → TextEnd → List (List Char) × Stop
  | [], .finished => ((acc.reverse :: done).reverse, .exhausted)
  | [], .spent => (done.reverse, .aborted)
  | [], .failed m => (done.reverse, .failed m)
  | '\n' :: rest, e => physicalFrom [] (acc.reverse :: done) rest e
  | '\r' :: '\n' :: rest, e => physicalFrom [] (acc.reverse :: done) rest e
  | ['\r'], .spent => (done.reverse, .aborted)
  | '\r' :: rest, e => physicalFrom [] (acc.reverse :: done) rest e
  | c :: rest, e => physicalFrom (c :: acc) done rest e

/-- The physical lines of decoded text, and what stops the reading after them. -/
def physical (text : List Char) (e : TextEnd) : List (List Char) × Stop :=
  physicalFrom [] [] text e

/-- The number of backslashes that end a line. -/
def trailingBackslashes (line : List Char) : Nat :=
  (line.reverse.takeWhile (· = '\\')).length

/-- Whether a line continues onto the next physical line. -/
def Continues (line : List Char) : Bool :=
  trailingBackslashes line % 2 = 1

/-- A logical line: its number and its text. -/
structure Logical where
  number : Nat
  text : List Char
deriving Repr, DecidableEq

/-- What ends the logical lines: nothing more, an abort, or a failure on a line. -/
inductive LogicalStop
  | exhausted
  | aborted
  | failed (line : Nat) (message : String)
deriving Repr, DecidableEq

/-- Where reading stops when the physical lines run out: `count` lines were read. -/
def Stop.atLine (count : Nat) : Stop → LogicalStop
  | .exhausted => .exhausted
  | .aborted => .aborted
  | .failed m => .failed (count + 1) m

/-- The logical lines over physical lines numbered from `next`. `pending` is the logical line
being continued (its number and text so far), `acc` the finished ones newest first. A line
still open when the physical lines run out is dropped. -/
def logicalFrom (stop : Stop) (next : Nat) (pending : Option (Nat × List Char))
    (acc : List Logical) : List (List Char) → List Logical × LogicalStop
  | [] => (acc.reverse, stop.atLine (next - 1))
  | l :: ls =>
    match pending with
    | none =>
      if IsCommentStart l || !Continues l then
        logicalFrom stop (next + 1) none (⟨next, l⟩ :: acc) ls
      else logicalFrom stop (next + 1) (some (next, l.dropLast)) acc ls
    | some (number, buf) =>
      if Continues l then
        logicalFrom stop (next + 1) (some (number, (buf ++ l.dropWhile IsBlank).dropLast)) acc ls
      else logicalFrom stop (next + 1) none (⟨number, buf ++ l.dropWhile IsBlank⟩ :: acc) ls

/-- The logical lines of physical lines, and what ends them. -/
def logical (lines : List (List Char)) (stop : Stop) : List Logical × LogicalStop :=
  logicalFrom stop 1 none [] lines

end Properties
end ResourceKit

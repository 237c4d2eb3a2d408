import ResourceKit.Text.Utf8
import ResourceKit.Reading.Source
import ResourceKit.Reading.Buffered
import ResourceKit.Reading.Failure

/-!
# Prompts and answers

Asking a question writes the prompt, flushes the writer, then reads one record from a shared
buffered reader: the bytes up to and including the next line feed. The answer is the record as
text without one final line feed and then one carriage return before it; at the end of the
input, with nothing read, there is no answer. A record that is not UTF-8 is an error, but it is
read all the same.

The writer is described by how its calls end: each write fails with a fixed message or takes
all the bytes it is given, and likewise each flush. An empty prompt makes no write at all, but
the flush is made all the same, so an empty prompt fails exactly when flushing does. A prompt
that fails, in its write or in its flush, is the question's error, and then nothing is read. A
writer that takes part of the bytes and then fails is not modelled.
-/

namespace ResourceKit
namespace Console

open Reading

/-- A record without one final line feed and then one carriage return before it. -/
def strip (record : List Char) : List Char :=
  match record.reverse with
  | '\n' :: '\r' :: rest => rest.reverse
  | '\n' :: rest => rest.reverse
  | _ => record

/-- The answer a record gives. -/
def answerOf (record : List UInt8) : Except IoFailure (Option String) :=
  if record = [] then .ok none
  else
    match Text.Utf8.decodeChars? record with
    | .ok cs => .ok (some (String.ofList (strip cs)))
    | .error _ => .error .notText

/-- What a series of questions leaves: the answers in order, the bytes written, and the
reader. -/
structure Transcript where
  answers : List (Except IoFailure (Option String))
  output : List UInt8
  reader : Buffered

/-- A writer, by how its calls end: every write fails with `writeFailure` when it is set and
takes all the bytes otherwise, and every flush fails with `flushFailure` when it is set. -/
structure Writer where
  writeFailure : Option String := none
  flushFailure : Option String := none
deriving Repr, DecidableEq

/-- The writer that takes every write and every flush. -/
def Writer.accepting : Writer := {}

/-- How one call on the writer ends, given the message it fails with, if any. -/
def callOutcome : Option String → Except IoFailure Unit
  | some m => .error (.injected m)
  | none => .ok ()

/-- Write a prompt and flush it: the bytes written so far, and how the prompt went out. An empty
prompt makes no write, but the flush is made all the same. -/
def writePrompt (w : Writer) (output : List UInt8) (prompt : String) :
    List UInt8 × Except IoFailure Unit :=
  if prompt.isEmpty then (output, callOutcome w.flushFailure)
  else
    match callOutcome w.writeFailure with
    | .error e => (output, .error e)
    | .ok () => (output ++ prompt.toUTF8.toList, callOutcome w.flushFailure)

/-- Ask one question: write and flush the prompt, then, if it went out, read a record. -/
def ask (w : Writer) (t : Transcript) (prompt : String) : Transcript :=
  match writePrompt w t.output prompt with
  | (output, .error e) => { t with answers := t.answers ++ [.error e], output }
  | (output, .ok ()) =>
    let (record, reader) := t.reader.readRecord
    let answer := match record with
      | .ok bytes => answerOf bytes
      | .error e => .error e
    ⟨t.answers ++ [answer], output, reader⟩

/-- Ask each prompt in turn on one buffered reader of capacity `cap` over `src`, writing to `w`. -/
def session (cap : Capacity) (src : List Segment) (w : Writer) (prompts : List String) :
    Transcript :=
  prompts.foldl (ask w) ⟨[], [], Buffered.ofSource cap src⟩

/-- A record ending in carriage return and line feed loses both. -/
example : strip ['a', '\r', '\n'] = ['a'] := rfl

end Console
end ResourceKit

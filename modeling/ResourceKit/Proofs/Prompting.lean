import ResourceKit.Console.Prompt
import ResourceKit.Proofs.Buffering

/-!
# Questions on a shared buffer

A series of questions asked on one buffered reader reads the input record by record: each
question takes exactly the next record, up to and including its line feed, and leaves every
byte after it for the next question, whatever the buffer's capacity (one byte or more) and
wherever the source's runs and interruptions fall. The answers are the records, stripped of one
final line feed and a carriage return before it; once the records run out every answer is that
there is none.

A question whose prompt fails, in the write or in the flush that follows it, answers with that
failure and leaves the reader as it was. The flush is made even for an empty prompt, which
makes no write, so a writer that cannot flush fails every question.

**Results.**
* `writePrompt_accepting`: a writer that takes everything receives the prompt's bytes.
* `ask_of_failed`: a prompt that fails is the answer, and nothing is read.
* `writePrompt_of_write_failure`, `writePrompt_of_flush_failure`: which failure a prompt ends
  with.
* `session_reads_records`: the prompts are written in order, the `i`-th answer is that of the
  `i`-th record, and what is left unread is the records not yet asked for.
-/

namespace ResourceKit
namespace Console

open Reading

/-- The answers to `k` questions on records `rs`: one per record, then none. -/
def answersTo (rs : List (List UInt8)) (k : Nat) : List (Except IoFailure (Option String)) :=
  (List.range k).map fun i => answerOf (rs.getD i [])

theorem answersTo_succ (rs : List (List UInt8)) (k : Nat) :
    answersTo rs (k + 1) = answerOf (rs.getD 0 []) :: answersTo (rs.drop 1) k := by
  simp only [answersTo, List.range_succ_eq_map, List.map_cons, List.map_map]
  congr 1
  apply List.map_congr_left
  intro i _
  cases rs <;> simp

/-! ## Writing the prompt -/

/-- A writer that takes everything receives the prompt's bytes, and the prompt goes out. -/
theorem writePrompt_accepting (output : List UInt8) (p : String) :
    writePrompt .accepting output p = (output ++ p.toUTF8.toList, .ok ()) := by
  by_cases hp : p.isEmpty
  · -- an empty prompt writes nothing, which is what its bytes are
    obtain rfl : p = "" := by simpa using hp
    simp [writePrompt, Writer.accepting, callOutcome]
  · simp [writePrompt, hp, Writer.accepting, callOutcome]

/-- A write that fails fails a prompt that is not empty, with nothing written. -/
theorem writePrompt_of_write_failure {w : Writer} {m : String} (hw : w.writeFailure = some m)
    (output : List UInt8) {p : String} (hp : p ≠ "") :
    writePrompt w output p = (output, .error (.injected m)) := by
  have hne : p.isEmpty = false := by simpa using hp
  simp [writePrompt, hne, hw, callOutcome]

/-- A flush that fails fails the prompt when the prompt is empty, so that no write is made, or
when the write goes through. -/
theorem writePrompt_of_flush_failure {w : Writer} {m : String} (hf : w.flushFailure = some m)
    (output : List UInt8) {p : String} (hwrite : p = "" ∨ w.writeFailure = none) :
    (writePrompt w output p).2 = .error (.injected m) := by
  rcases hwrite with rfl | hw
  · simp [writePrompt, hf, callOutcome]
  · by_cases hp : p.isEmpty <;> simp [writePrompt, hp, hf, hw, callOutcome]

/-! ## Asking -/

/-- A question whose prompt fails answers with the failure and leaves the reader as it was. -/
theorem ask_of_failed {w : Writer} {t : Transcript} {p : String} {e : IoFailure}
    (h : (writePrompt w t.output p).2 = .error e) :
    ask w t p =
      { t with answers := t.answers ++ [.error e], output := (writePrompt w t.output p).1 } := by
  unfold ask
  rcases hw : writePrompt w t.output p with ⟨output, r⟩
  rw [hw] at h
  dsimp only at h
  subst h
  rfl

/-- One question with a writer that takes everything, where the reader gives a record: the
prompt is written, and the answer is that of the record. -/
theorem ask_accepting {t : Transcript} {bytes : List UInt8}
    (h : t.reader.readRecord.1 = .ok bytes) (p : String) :
    ask .accepting t p = ⟨t.answers ++ [answerOf bytes], t.output ++ p.toUTF8.toList,
      t.reader.readRecord.2⟩ := by
  simp [ask, writePrompt_accepting, h]

/-- Questions asked in turn, from any transcript whose reader has only chunks to come. -/
theorem foldl_ask (prompts : List String) (t : Transcript)
    (ht : ∀ seg ∈ t.reader.pending, seg.isChunk) :
    (prompts.foldl (ask .accepting) t).output = t.output ++ (prompts.map (·.toUTF8.toList)).flatten ∧
    (prompts.foldl (ask .accepting) t).answers =
      t.answers ++ answersTo (records t.reader.rest) prompts.length ∧
    records (prompts.foldl (ask .accepting) t).reader.rest =
      (records t.reader.rest).drop prompts.length ∧
    ∀ seg ∈ (prompts.foldl (ask .accepting) t).reader.pending, seg.isChunk := by
  induction prompts generalizing t with
  | nil => exact ⟨by simp, by simp [answersTo], by simp, ht⟩
  | cons p ps ih =>
    obtain ⟨hrecord, hrest, hpending⟩ := Buffered.readRecord_spec t.reader ht
    -- the reader after one question has the first record taken off what was left
    have hnext : records t.reader.readRecord.2.rest = (records t.reader.rest).drop 1 := by
      rw [hrest, records_eq t.reader.rest]
      split
      · next h => simp [h, afterRecord, splitRecord, records]
      · rfl
    have hfirst : (records t.reader.rest).getD 0 [] = firstRecord t.reader.rest := by
      rw [records_eq t.reader.rest]
      split
      · next h => simp [h, firstRecord, splitRecord]
      · rfl
    obtain ⟨h1, h2, h3, h4⟩ := ih (ask .accepting t p) (by rw [ask_accepting hrecord]; exact hpending)
    rw [List.foldl_cons]
    refine ⟨?_, ?_, ?_, h4⟩
    · rw [h1, ask_accepting hrecord]
      simp
    · rw [h2, ask_accepting hrecord]
      simp only [hnext, List.length_cons, answersTo_succ, hfirst, List.append_assoc,
        List.singleton_append]
    · rw [h3, ask_accepting hrecord]
      simp only [hnext, List.drop_drop, List.length_cons]
      congr 1
      omega

theorem records_ne_nil (bytes : List UInt8) : ∀ r ∈ records bytes, r ≠ [] := by
  induction bytes with
  | nil => simp [records]
  | cons b bs ih =>
    intro r hr
    simp only [records] at hr
    split at hr
    · rcases List.mem_cons.mp hr with rfl | hr
      · simp
      · exact ih r hr
    · split at hr
      · simp only [List.mem_singleton] at hr
        subst hr
        simp
      · next r' rs' heq =>
        rcases List.mem_cons.mp hr with rfl | hr
        · simp
        · exact ih r (by rw [heq]; exact List.mem_cons_of_mem _ hr)

/-- **Questions on a shared buffer read the input record by record.** Over a source that hands
out the bytes `b` in runs, through a buffer of any capacity of one byte or more, with
interruptions anywhere, and then reaches the end of its input, questions asked with a writer
that takes everything write the prompts in order; the `i`-th answer is the `i`-th record of `b`
without one final line feed and a carriage return before it, or a failure if that record is not
UTF-8, or no answer once the records have run out; and the bytes left unread are the records
after those asked for. With any writer, a question whose prompt fails answers with that failure
and reads nothing; a failing write fails a prompt that is not empty, and a failing flush fails
an empty prompt and one whose write went through. -/
theorem session_reads_records (cap : Capacity) (src : List Segment)
    (hsrc : ∀ seg ∈ src, seg.isChunk) (prompts : List String) :
    (session cap src .accepting prompts).output =
      (prompts.map fun p => p.toUTF8.toList).flatten ∧
    (session cap src .accepting prompts).answers =
      (List.range prompts.length).map (fun i =>
        match (records (drain src).1)[i]? with
        | none => .ok none
        | some r =>
          match Text.Utf8.decodeChars? r with
          | .ok cs => .ok (some (String.ofList (strip cs)))
          | .error _ => .error .notText) ∧
    (session cap src .accepting prompts).reader.rest =
      ((records (drain src).1).drop prompts.length).flatten ∧
    (∀ (w : Writer) (t : Transcript) (p : String) (e : IoFailure),
      (writePrompt w t.output p).2 = .error e →
        (ask w t p).answers = t.answers ++ [.error e] ∧ (ask w t p).reader = t.reader) ∧
    (∀ (w : Writer) (output : List UInt8) (p m : String), w.writeFailure = some m → p ≠ "" →
      (writePrompt w output p).2 = .error (.injected m)) ∧
    (∀ (w : Writer) (output : List UInt8) (p m : String), w.flushFailure = some m →
      (p = "" ∨ w.writeFailure = none) → (writePrompt w output p).2 = .error (.injected m)) := by
  have hstart : ∀ seg ∈ (Buffered.ofSource cap src).pending, seg.isChunk :=
    cut_isChunk cap hsrc
  have hrest : (Buffered.ofSource cap src).rest = (drain src).1 := by
    simp [Buffered.ofSource, Buffered.rest, drain_cut]
  obtain ⟨h1, h2, h3, -⟩ := foldl_ask prompts ⟨[], [], Buffered.ofSource cap src⟩ hstart
  simp only [hrest, List.nil_append] at h1 h2 h3
  refine ⟨h1, ?_, ?_, ?_, ?_, ?_⟩
  · -- a record is never empty, so its answer is its text, or a failure
    rw [session, h2, answersTo]
    apply List.map_congr_left
    intro i _
    cases hi : (records (drain src).1)[i]? with
    | none => simp [List.getD_eq_getElem?_getD, hi, answerOf]
    | some r =>
      have hr : r ≠ [] := records_ne_nil _ r (List.mem_of_getElem? hi)
      rcases hd : Text.Utf8.decodeChars? r with e | cs <;>
        simp [List.getD_eq_getElem?_getD, hi, answerOf, hr, hd]
  · rw [session, ← records_flatten (List.foldl (ask .accepting) _ prompts).reader.rest, h3]
  · intro w t p e h
    rw [ask_of_failed h]
    exact ⟨rfl, rfl⟩
  · intro w output p m hw hp
    rw [writePrompt_of_write_failure hw output hp]
  · intro w output p m hf hwrite
    exact writePrompt_of_flush_failure hf output hwrite

/-- Two records split across an interruption, read through a one-byte buffer by three
questions: the third finds the input exhausted. -/
theorem session_reads_records_across_interruption :
    (∀ seg ∈ [Segment.data [104, 105, 13], .interrupted, .data [10, 121, 111, 10]],
      seg.isChunk) ∧
    (session ⟨1, by decide⟩ [.data [104, 105, 13], .interrupted, .data [10, 121, 111, 10]]
      .accepting ["a? ", "b? ", "c? "]).answers = [.ok (some "hi"), .ok (some "yo"), .ok none] := by
  refine ⟨by decide, ?_⟩
  rw [(session_reads_records _ _ (by decide) _).2.1]
  rfl

end Console
end ResourceKit

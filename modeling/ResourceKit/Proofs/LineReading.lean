import ResourceKit.Lines.Reader
import ResourceKit.Resource.Stream
import ResourceKit.Proofs.LineCutting
import ResourceKit.Proofs.Buffering

/-!
# Reading lines through a buffer

The line reader cuts bytes as the buffered reader hands them out, chunk by chunk, with a flag
for a carriage return at the end of a chunk. Its state after any bytes is what the one-pass
cut `cutAt` computes from them (`Cutter.feedAll_eq`), and feeding chunks is feeding their
concatenation (`Cutter.feedAll_append`); so however the source is cut into runs, whatever
the buffer's capacity and wherever interruptions fall, the reader gives the lines of the
drained bytes as one cut of the whole (`readLines_eq_pieces`).

**Results.**
* `readLines_eq_pieces`: reading lines is decoding the pieces of the drained bytes; a failure
  of the source is reported unless a line ended before it is not UTF-8.
-/

namespace ResourceKit
namespace Lines

open Reading Text.Utf8

/-- Whether the last byte read was a carriage return, `f` before any byte. -/
def endsInCr (f : Bool) : List UInt8 → Bool
  | [] => f
  | b :: bs => endsInCr (decide (b = 13)) bs

namespace Cutter

theorem feedAll_append (s : Cutter) (xs ys : List UInt8) :
    s.feedAll (xs ++ ys) =
      match s.feedAll xs with
      | .ok s' => s'.feedAll ys
      | .error e => .error e := by
  induction xs generalizing s with
  | nil => rfl
  | cons b xs ih =>
    simp only [List.cons_append, feedAll]
    cases s.feed b with
    | error e => rfl
    | ok s' => exact ih s'

/-- **One pass of the cutter**: feeding bytes to the cutter ends the lines the one-pass cut
finds, checks each as UTF-8 in order, and keeps the cut's rest as the current line. -/
theorem feedAll_eq (s : Cutter) (bs : List UInt8) :
    s.feedAll bs =
      ((cutAt (13 : UInt8) 10 s.afterCr s.line [] bs).1.mapM decode?).map fun ts =>
        { line := (cutAt (13 : UInt8) 10 s.afterCr s.line [] bs).2.reverse
          afterCr := endsInCr s.afterCr bs
          lines := ts.reverse ++ s.lines } := by
  induction bs generalizing s with
  | nil =>
    obtain ⟨line, afterCr, lines⟩ := s
    simp [feedAll, endsInCr, Except.map, pure, Except.pure]
  | cons b bs ih =>
    obtain ⟨line, afterCr, lines⟩ := s
    simp only [feedAll, feed]
    by_cases hskip : b = 10 ∧ afterCr = true
    · -- a line feed right after a carriage return is passed over
      obtain ⟨rfl, rfl⟩ := hskip
      simp only [and_self, if_true]
      rw [ih, cutAt_lf_afterCr]
      rfl
    · rw [if_neg hskip]
      by_cases hbreak : b = 10 ∨ b = 13
      · -- a terminator ends the current line, which is checked at once
        rw [if_pos hbreak, cutAt_break 13 10 hbreak hskip, cutAt_done]
        simp only [List.reverse_singleton, List.singleton_append, endsInCr, List.mapM_cons, endLine]
        cases hd : decode? line.reverse with
        | error e => rfl
        | ok t =>
          simp only [ih]
          cases hm : (cutAt (13 : UInt8) 10 (decide (b = 13)) [] [] bs).1.mapM decode? with
          | error e => simp [Except.map, bind, Except.bind]
          | ok ts => simp [Except.map, bind, Except.bind, pure, Except.pure]
      · -- any other byte goes onto the current line
        have h10 : b ≠ 10 := fun e => hbreak (Or.inl e)
        have h13 : b ≠ 13 := fun e => hbreak (Or.inr e)
        rw [if_neg hbreak]
        dsimp only
        rw [ih, cutAt_cons_plain h13 h10]
        simp [endsInCr, h13]

theorem feedAll_start (bytes : List UInt8) :
    ({} : Cutter).feedAll bytes =
      ((cut bytes).1.mapM decode?).map fun ts =>
        { line := (cut bytes).2.reverse, afterCr := endsInCr false bytes, lines := ts.reverse } := by
  rw [feedAll_eq]
  simp [cut, cutFrom_eq_cutAt, cr, lf]

/-- At the end of the input the unfinished line, unless empty, is checked and is the last. -/
theorem finish_eq (rest : List UInt8) (f : Bool) (ts : List String) :
    ({ line := rest.reverse, afterCr := f, lines := ts.reverse } : Cutter).finish =
      ((if rest = [] then [] else [rest]).mapM decode?).map (ts ++ ·) := by
  by_cases h : rest = []
  · subst h
    simp [finish, Except.map, pure, Except.pure]
  · have h' : rest.reverse ≠ [] := by simpa using h
    simp only [finish, h', if_false, endLine, List.reverse_reverse, h, List.mapM_cons,
      List.mapM_nil]
    cases decode? rest <;> simp [Except.map, bind, Except.bind, pure, Except.pure]

theorem run_data (s : Cutter) (cs : List (List UInt8)) (hcs : ∀ c ∈ cs, c ≠ [])
    (tail : List Segment) :
    s.run (cs.map Segment.data ++ tail) =
      match s.feedAll cs.flatten with
      | .ok s' => s'.run tail
      | .error e => .error (.badLine e) := by
  induction cs generalizing s with
  | nil => rfl
  | cons c cs ih =>
    obtain ⟨b, bs, rfl⟩ := List.exists_cons_of_ne_nil (hcs c List.mem_cons_self)
    have hcs' : ∀ c ∈ cs, c ≠ [] := fun c hc => hcs c (List.mem_cons_of_mem _ hc)
    have hflat : ((b :: bs) :: cs).flatten = (b :: bs) ++ cs.flatten := rfl
    rw [hflat, feedAll_append, List.map_cons, List.cons_append]
    simp only [run]
    cases s.feedAll (b :: bs) with
    | error e => rfl
    | ok s' => exact ih s' hcs'

/-- **Running over the reads of a buffered reader is feeding the drained bytes**, then finishing
at the end of the input or failing with the source, for a buffer of any capacity of one byte or
more. -/
theorem run_cut (cap : Capacity) (s : Cutter) (src : List Segment) :
    s.run (Reading.cut cap src) =
      match s.feedAll (drain src).1 with
      | .error e => .error (.badLine e)
      | .ok s' =>
        match (drain src).2 with
        | .endOfInput => s'.finish.mapError .badLine
        | .failed m => .error (.injected m) := by
  induction src generalizing s with
  | nil => rfl
  | cons seg rest ih =>
    cases seg with
    | data bytes =>
      cases bytes with
      | nil => rfl
      | cons b bs =>
        -- the run arrives in chunks of at most the capacity, none of them empty
        simp only [Reading.cut, drain]
        rw [run_data s _ (chunks_ne_nil _ _) _, chunks_flatten, feedAll_append]
        cases s.feedAll (b :: bs) with
        | error e => rfl
        | ok s' => exact ih s'
    | interrupted => exact ih s
    | failure m => rfl

end Cutter

/-- **Reading lines is decoding the pieces of the drained bytes.** However the source arrives (in
runs of any size, through a buffer of any capacity of one byte or more, with interruptions
anywhere), at the end of the input the lines are the pieces of all the bytes, each decoded, and the
first piece that is not UTF-8 is the failure. When the source fails instead, the failure is reported
unless a line that ended before it is not UTF-8. -/
theorem readLines_eq_pieces (cap : Capacity) (src : List Segment) :
    readLines cap src =
      match drain src with
      | (bytes, .endOfInput) => ((pieces bytes).mapM decode?).mapError IoFailure.badLine
      | (bytes, .failed m) =>
        match (cut bytes).1.mapM decode? with
        | .ok _ => .error (.injected m)
        | .error e => .error (.badLine e) := by
  unfold readLines
  rw [Cutter.run_cut, Cutter.feedAll_start]
  rcases drain src with ⟨bytes, _ | m⟩
  · -- the terminated lines are checked first, then the rest as a last line
    dsimp only
    cases hm : (cut bytes).1.mapM decode? with
    | error e => simp [pieces, List.mapM_append, hm, Except.map, Except.mapError, bind, Except.bind]
    | ok ts =>
      simp only [Except.map]
      rw [Cutter.finish_eq]
      simp only [pieces, List.mapM_append, hm]
      cases ((if (cut bytes).2 = [] then [] else [(cut bytes).2]).mapM decode?) <;>
        simp [Except.map, Except.mapError, bind, Except.bind, pure, Except.pure]
  · -- the source failed: a bad line before the failure wins
    dsimp only
    cases hm : (cut bytes).1.mapM decode? <;> simp [Except.map]

/-! ## Lines and whole text -/

theorem mapM_toOption {ε β γ : Type} (f : β → Except ε γ) (l : List β) :
    (l.mapM f).toOption = l.mapM fun a => (f a).toOption := by
  induction l with
  | nil => rfl
  | cons a l ih =>
    simp only [List.mapM_cons]
    cases f a with
    | error e => rfl
    | ok b =>
      rw [← ih]
      cases l.mapM f <;> rfl

theorem mapM_map_option {β γ δ : Type} (g : β → Option γ) (h : γ → δ) (l : List β) :
    (l.mapM fun a => (g a).map h) = (l.mapM g).map (·.map h) := by
  induction l with
  | nil => rfl
  | cons a l ih =>
    simp only [List.mapM_cons, ih]
    cases g a <;> cases l.mapM g <;> rfl

/-- **The decoded pieces of bytes are the lines of the bytes' text**, and exist exactly when
the text does. -/
theorem pieces_decode?_toOption (bytes : List UInt8) :
    ((pieces bytes).mapM decode?).toOption = (decode? bytes).toOption.map textLines := by
  have hdec : ∀ l : List UInt8,
      (decode? l).toOption = (decodeChars? l).toOption.map String.ofList := by
    intro l
    simp only [decode?]
    cases decodeChars? l <;> rfl
  rw [mapM_toOption, hdec bytes]
  simp only [hdec, mapM_map_option, decode_pieces, Option.map_map]
  congr 1
  funext cs
  simp [textLines, linesOf]

/-- At the end of the input, the lines are the decoded pieces of the drained bytes. -/
theorem readLines_of_endOfInput {cap : Capacity} {src : List Segment}
    (hend : (drain src).2 = .endOfInput) :
    readLines cap src = ((pieces (drain src).1).mapM decode?).mapError IoFailure.badLine := by
  rw [readLines_eq_pieces]
  rcases hd : drain src with ⟨bytes, ending⟩
  rw [hd] at hend
  cases hend
  rfl

/-- At the end of the input, the text is the decoding of the drained bytes. -/
theorem readText_of_endOfInput {src : List Segment} (hend : (drain src).2 = .endOfInput) :
    readText src =
      match decode? (drain src).1 with
      | .ok s => .ok s
      | .error _ => .error .notText := by
  unfold readText
  rcases hd : drain src with ⟨bytes, ending⟩
  rw [hd] at hend
  cases hend
  rfl

theorem linesAgree_of_endOfInput (cap : Capacity) {src : List Segment}
    (hend : (drain src).2 = .endOfInput) :
    ((∃ ls, readLines cap src = .ok ls) ↔ (∃ t, readText src = .ok t)) ∧
    (∀ ls t, readLines cap src = .ok ls → readText src = .ok t → ls = textLines t) ∧
    ((∃ e, readLines cap src = .error e ∧ e.kind = .invalidData) ↔
      (∃ e, readText src = .error e ∧ e.kind = .invalidData)) := by
  rw [readLines_of_endOfInput hend, readText_of_endOfInput hend]
  have key := pieces_decode?_toOption (drain src).1
  generalize (drain src).1 = bytes at key
  cases hd : decode? bytes with
  | ok t =>
    rw [hd] at key
    cases hp : (pieces bytes).mapM decode? with
    | error e => simp [hp, Except.toOption] at key
    | ok ls =>
      rw [hp] at key
      simp only [Except.toOption, Option.map_some, Option.some.injEq] at key
      refine ⟨?_, ?_, ?_⟩
      · simp [Except.mapError]
      · intro ls' t' h1 h2
        simp only [Except.mapError, Except.ok.injEq] at h1 h2
        rw [← h1, ← h2, key]
      · simp [Except.mapError]
  | error e =>
    rw [hd] at key
    cases hp : (pieces bytes).mapM decode? with
    | ok ls => simp [hp, Except.toOption] at key
    | error e' =>
      refine ⟨?_, ?_, ?_⟩
      · simp [Except.mapError]
      · intro ls' t' h1 h2
        simp [Except.mapError] at h1
      · simp [Except.mapError, IoFailure.kind]

end Lines

namespace Resource

open Reading Lines

/-- A failure to read or open of the class *invalid data*. -/
def ResourceError.IsInvalidData (e : ResourceError) : Prop :=
  ∃ f, e = .io f ∧ f.kind = .invalidData

/-- A resource whose stream reaches the end of its input reads as lines exactly when it reads as
text, to the lines of that text; and one fails as invalid data exactly when the other does. -/
theorem Store.readLines_agrees (s : Store) (h : Nat) (name : String)
    (hend : ∀ src, s.stream h (some name) = .ok src → (drain src).2 = .endOfInput) :
    ((∃ ls, s.readLines h (some name) = .ok ls) ↔
      (∃ t, s.readString h (some name) = .ok (some t))) ∧
    (∀ ls t, s.readLines h (some name) = .ok ls → s.readString h (some name) = .ok (some t) →
      ls = textLines t) ∧
    ((∃ e, s.readLines h (some name) = .error e ∧ e.IsInvalidData) ↔
      (∃ e, s.readString h (some name) = .error e ∧ e.IsInvalidData)) := by
  cases hs : s.stream h (some name) with
  | error e =>
    -- both fail the same way before reading
    simp [Store.readLines, Store.readString, hs]
  | ok src =>
    obtain ⟨hok, hlines, hbad⟩ := linesAgree_of_endOfInput Capacity.standard (hend src hs)
    simp only [Store.readLines, Store.readString, hs]
    refine ⟨?_, ?_, ?_⟩
    · cases hl : Lines.readLines Capacity.standard src <;> cases ht : readText src <;>
        simp_all
    · intro ls t h1 h2
      cases hl : Lines.readLines Capacity.standard src <;> cases ht : readText src <;>
        simp only [hl, ht, reduceCtorEq, Except.ok.injEq, Option.some.injEq] at h1 h2
      exact h1 ▸ h2 ▸ hlines _ _ hl ht
    · cases hl : Lines.readLines Capacity.standard src <;> cases ht : readText src <;>
        simp_all [ResourceError.IsInvalidData]

end Resource

namespace Lines

open Reading

/-- **Reading lines succeeds exactly when reading text does**, for a source that reaches the end of
its input (in runs of any size, through a buffer of any capacity of one byte or more, with
interruptions anywhere) and for a resource whose stream does: the lines are the text cut at
`"\r\n"`, lone `'\r'` and lone `'\n'`, an empty last piece dropped; and when one fails as invalid
data, so does the other. -/
theorem readLines_agrees_with_readText :
    (∀ (cap : Capacity) (src : List Segment), (drain src).2 = .endOfInput →
      ((∃ ls, readLines cap src = .ok ls) ↔ (∃ t, readText src = .ok t)) ∧
      (∀ ls t, readLines cap src = .ok ls → readText src = .ok t → ls = textLines t) ∧
      ((∃ e, readLines cap src = .error e ∧ e.kind = .invalidData) ↔
        (∃ e, readText src = .error e ∧ e.kind = .invalidData))) ∧
    (∀ (s : Resource.Store) (h : Nat) (name : String),
      (∀ src, s.stream h (some name) = .ok src → (drain src).2 = .endOfInput) →
      ((∃ ls, s.readLines h (some name) = .ok ls) ↔
        (∃ t, s.readString h (some name) = .ok (some t))) ∧
      (∀ ls t, s.readLines h (some name) = .ok ls →
        s.readString h (some name) = .ok (some t) → ls = textLines t) ∧
      ((∃ e, s.readLines h (some name) = .error e ∧ e.IsInvalidData) ↔
        (∃ e, s.readString h (some name) = .error e ∧ e.IsInvalidData))) :=
  ⟨fun cap _ hend => linesAgree_of_endOfInput cap hend,
    fun s h name hend => Resource.Store.readLines_agrees s h name hend⟩

/-- A carriage return and line feed split by an interruption, read through a one-byte buffer, and
a memory table holding the same bytes. -/
theorem readLines_agrees_across_interruption :
    (drain [.data [97, 13], .interrupted, .data [10, 98]]).2 = .endOfInput ∧
    ((∃ ls, readLines ⟨1, by decide⟩ [.data [97, 13], .interrupted, .data [10, 98]] = .ok ls) ↔
      (∃ t, readText [.data [97, 13], .interrupted, .data [10, 98]] = .ok t)) ∧
    (∀ ls t, readLines ⟨1, by decide⟩ [.data [97, 13], .interrupted, .data [10, 98]] = .ok ls →
      readText [.data [97, 13], .interrupted, .data [10, 98]] = .ok t → ls = textLines t) ∧
    ((∃ e, readLines ⟨1, by decide⟩ [.data [97, 13], .interrupted, .data [10, 98]] = .error e ∧
        e.kind = .invalidData) ↔
      (∃ e, readText [.data [97, 13], .interrupted, .data [10, 98]] = .error e ∧
        e.kind = .invalidData)) ∧
    (∀ src, (⟨[.memory ⟨"mem", [("a.txt", [97, 13, 10, 98])]⟩]⟩ : Resource.Store).stream 0
      (some "a.txt") = .ok src → (drain src).2 = .endOfInput) ∧
    ((∃ ls, (⟨[.memory ⟨"mem", [("a.txt", [97, 13, 10, 98])]⟩]⟩ : Resource.Store).readLines 0
        (some "a.txt") = .ok ls) ↔
      (∃ t, (⟨[.memory ⟨"mem", [("a.txt", [97, 13, 10, 98])]⟩]⟩ : Resource.Store).readString 0
        (some "a.txt") = .ok (some t))) := by
  have hsrc : (drain [.data [97, 13], .interrupted, .data [10, 98]]).2 = .endOfInput := by decide
  have hres : ∀ src, (⟨[.memory ⟨"mem", [("a.txt", [97, 13, 10, 98])]⟩]⟩ : Resource.Store).stream 0
      (some "a.txt") = .ok src → (drain src).2 = .endOfInput := by
    intro src h
    have hopen : (⟨[.memory ⟨"mem", [("a.txt", [97, 13, 10, 98])]⟩]⟩ : Resource.Store).stream 0
        (some "a.txt") = .ok (ofBytes [97, 13, 10, 98]) := rfl
    rw [hopen, Except.ok.injEq] at h
    subst h
    decide
  obtain ⟨hok, hlines, hbad⟩ := readLines_agrees_with_readText.1 ⟨1, by decide⟩ _ hsrc
  exact ⟨hsrc, hok, hlines, hbad, hres, (readLines_agrees_with_readText.2 _ 0 "a.txt" hres).1⟩

end Lines
end ResourceKit

import ResourceKit.Proofs.LineReading
import ResourceKit.Proofs.Utf8Encoding

/-!
# Reading back written lines

Write lines one after another, each ended by a line feed, a carriage return or both, and the
last by one of these or by nothing, and read the bytes back as lines. Every line comes back, in
order, with two exceptions. A line ended by a lone carriage return and followed by an empty line
ended by a line feed: the return and the feed read as one terminator, and the empty line is
lost. And an empty last line with no terminator is no line at all. The lines read back are the
written ones less exactly those (`readBack`), however the bytes are chunked.

**Results.**
* `linesOf_cutAt_written`: the cut of written lines is the encoding of the lines read back.
* `readBack_eq_writtenLines_iff`: the lines read back are all the written lines exactly when no
  empty line follows a lone carriage return and ends with a line feed, and the last line is not
  empty and unterminated.
* `readLines_written`: reading written lines gives a sublist of them, all of them exactly in
  that case, and fewer otherwise.
-/

namespace ResourceKit
namespace Lines

open Reading Text.Utf8

/-- How a written line ends. -/
inductive Terminator
  | lf
  | cr
  | crlf
deriving Repr, DecidableEq

/-- The bytes of a terminator. -/
def Terminator.bytes : Terminator → List UInt8
  | .lf => [10]
  | .cr => [13]
  | .crlf => [13, 10]

/-- The bytes of lines written each with its terminator, then a last line with an optional
one. -/
def written (body : List (String × Terminator)) (last : String) (final : Option Terminator) :
    List UInt8 :=
  body.flatMap (fun p => encode p.1 ++ p.2.bytes) ++ encode last ++
    (final.map Terminator.bytes).getD []

/-- The lines written, in order. -/
def writtenLines (body : List (String × Terminator)) (last : String) : List String :=
  body.map (·.1) ++ [last]

/-- The lines written, each with how it ends. -/
def terminated (body : List (String × Terminator)) (last : String) (final : Option Terminator) :
    List (String × Option Terminator) :=
  body.map (fun p => (p.1, some p.2)) ++ [(last, final)]

@[simp] theorem written_cons (l : String) (t : Terminator) (body : List (String × Terminator))
    (last : String) (final : Option Terminator) :
    written ((l, t) :: body) last final = encode l ++ t.bytes ++ written body last final := by
  simp [written]

@[simp] theorem writtenLines_cons (l : String) (t : Terminator) (body : List (String × Terminator))
    (last : String) : writtenLines ((l, t) :: body) last = l :: writtenLines body last := rfl

@[simp] theorem terminated_cons (l : String) (t : Terminator) (body : List (String × Terminator))
    (last : String) (final : Option Terminator) :
    terminated ((l, t) :: body) last final = (l, some t) :: terminated body last final := rfl

/-- Some line ends with a lone carriage return, and the next is empty and ends with a line
feed. -/
def HidesEmptyLine (ps : List (String × Option Terminator)) : Prop :=
  ∃ l, [(l, some .cr), ("", some .lf)] <:+: ps

/-- The lines that read back, `afterCr` telling whether the line before ended with a lone
carriage return: an empty line ended by a line feed is lost after one, and an empty last line
with no terminator is lost always. -/
def readBack (afterCr : Bool) :
    List (String × Terminator) → String → Option Terminator → List String
  | [], last, none => if last = "" then [] else [last]
  | [], last, some t => if afterCr ∧ last = "" ∧ t = .lf then [] else [last]
  | (l, t) :: body, last, final =>
    (if afterCr ∧ l = "" ∧ t = .lf then [] else [l]) ++ readBack (decide (t = .cr)) body last final

/-! ## Cutting written lines -/

/-- A terminator ends the current line; after it the cut remembers a lone carriage return. -/
theorem cutAt_terminator (acc : List UInt8) (done : List (List UInt8)) (t : Terminator)
    (rest : List UInt8) :
    cutAt (13 : UInt8) 10 false acc done (t.bytes ++ rest) =
      cutAt 13 10 (decide (t = .cr)) [] (acc.reverse :: done) rest := by
  cases t <;> simp [cutAt, Terminator.bytes]

/-- Bytes that end no line and do not start empty make the cut forget a carriage return before
them. -/
theorem cutAt_afterCr_plain {x : List UInt8} (hx : Plain (13 : UInt8) 10 x) (hne : x ≠ [])
    (f : Bool) (done : List (List UInt8)) (rest : List UInt8) :
    cutAt (13 : UInt8) 10 f [] done (x ++ rest) = cutAt 13 10 false [] done (x ++ rest) := by
  obtain ⟨b, x, rfl⟩ := List.exists_cons_of_ne_nil hne
  obtain ⟨hcr, hlf⟩ := hx b List.mem_cons_self
  rw [List.cons_append, cutAt_cons_plain hcr hlf, cutAt_cons_plain hcr hlf]

/-- **One written line through the cut**: its bytes become a finished line, unless it is empty,
ends with a line feed and follows a lone carriage return. -/
theorem cutAt_line {x : List UInt8} (hx : Plain (13 : UInt8) 10 x) (f : Bool)
    (done : List (List UInt8)) (t : Terminator) (rest : List UInt8) :
    cutAt (13 : UInt8) 10 f [] done (x ++ t.bytes ++ rest) =
      cutAt 13 10 (decide (t = .cr)) [] (if f ∧ x = [] ∧ t = .lf then done else x :: done)
        rest := by
  by_cases hx0 : x = []
  · subst hx0
    cases f
    · simpa using cutAt_terminator [] done t rest
    · -- after a carriage return only a line feed is swallowed
      cases t
      · simp [Terminator.bytes, cutAt_lf_afterCr]
      · simp [Terminator.bytes, cutAt]
      · simp [Terminator.bytes, cutAt]
  · rw [List.append_assoc, cutAt_afterCr_plain hx hx0, cutAt_plain hx, cutAt_terminator]
    simp [hx0]

/-- A last line with no terminator is the rest of the cut. -/
theorem cutAt_last {x : List UInt8} (hx : Plain (13 : UInt8) 10 x) (f : Bool)
    (done : List (List UInt8)) :
    cutAt (13 : UInt8) 10 f [] done x = (done.reverse, x) := by
  by_cases hx0 : x = []
  · simp [hx0]
  · have h := cutAt_afterCr_plain hx hx0 f done []
    rw [List.append_nil] at h
    rw [h]
    simpa using cutAt_plain hx [] done []

/-- The UTF-8 of a line with no line terminator holds no line terminator byte. -/
theorem plain_encode {l : String} (hl : '\r' ∉ l.toList ∧ '\n' ∉ l.toList) :
    Plain (13 : UInt8) 10 (encode l) := by
  intro b hb
  constructor
  · rintro rfl
    exact hl.1 (ascii_mem_encode (by decide) hb)
  · rintro rfl
    exact hl.2 (ascii_mem_encode (by decide) hb)

variable {body : List (String × Terminator)} {last : String}

/-- **The cut of written lines** is the UTF-8 of the lines read back. -/
theorem linesOf_cutAt_written
    (hplain : ∀ l ∈ writtenLines body last, Plain (13 : UInt8) 10 (encode l))
    (final : Option Terminator) (f : Bool) (done : List (List UInt8)) :
    linesOf (cutAt (13 : UInt8) 10 f [] done (written body last final)) =
      done.reverse ++ (readBack f body last final).map encode := by
  -- on the written lines, each step one line and its terminator
  induction body generalizing f done with
  | nil =>
    have hx := hplain last (by simp [writtenLines])
    cases final with
    | none =>
      rw [written, List.flatMap_nil, List.nil_append, Option.map_none, Option.getD_none,
        List.append_nil, cutAt_last hx]
      by_cases h : last = "" <;> simp [linesOf, readBack, h, encode_eq_nil_iff]
    | some t =>
      have hcut := cutAt_line hx f done t []
      rw [List.append_nil] at hcut
      rw [written, List.flatMap_nil, List.nil_append, Option.map_some, Option.getD_some, hcut,
        cutAt_nil]
      simp only [encode_eq_nil_iff]
      by_cases h : f = true ∧ last = "" ∧ t = .lf <;> simp [linesOf, readBack, h]
  | cons p body ih =>
    obtain ⟨l, t⟩ := p
    have hx := hplain l (by simp [writtenLines])
    have hrest : ∀ l ∈ writtenLines body last, Plain (13 : UInt8) 10 (encode l) :=
      fun l' hl' => hplain l' (List.mem_cons_of_mem l hl')
    rw [written_cons, cutAt_line hx, ih hrest]
    simp only [encode_eq_nil_iff]
    by_cases h : f = true ∧ l = "" ∧ t = .lf <;> simp [readBack, h]

/-! ## Which lines are lost -/

theorem hidesEmptyLine_cons (p : String × Option Terminator)
    (ps : List (String × Option Terminator)) :
    HidesEmptyLine (p :: ps) ↔
      (p.2 = some .cr ∧ ps.head? = some ("", some .lf)) ∨ HidesEmptyLine ps := by
  unfold HidesEmptyLine
  constructor
  · rintro ⟨l, h⟩
    rcases List.infix_cons_iff.mp h with hpre | hin
    · cases ps with
      | nil => simp at hpre
      | cons q ps =>
        simp only [List.cons_prefix_cons] at hpre
        obtain ⟨rfl, rfl, -⟩ := hpre
        exact Or.inl ⟨rfl, rfl⟩
    · exact Or.inr ⟨l, hin⟩
  · rintro (⟨hcr, hhead⟩ | ⟨l, hin⟩)
    · obtain ⟨rest, rfl⟩ := List.head?_eq_some_iff.mp hhead
      refine ⟨p.1, List.IsPrefix.isInfix ?_⟩
      simp [← hcr]
    · exact ⟨l, hin.trans (List.suffix_cons p ps).isInfix⟩

theorem not_hidesEmptyLine_singleton (p : String × Option Terminator) : ¬ HidesEmptyLine [p] := by
  rintro ⟨l, h⟩
  have := h.length_le
  simp at this

theorem readBack_sublist (f : Bool) (final : Option Terminator) :
    (readBack f body last final).Sublist (writtenLines body last) := by
  induction body generalizing f with
  | nil =>
    -- the last line is kept or lost, and nothing else is left
    have hlast : ∀ (c : Prop) [Decidable c], (if c then [] else [last]).Sublist [last] := by
      intro c _
      split
      · exact List.nil_sublist _
      · exact List.Sublist.refl _
    cases final <;> exact hlast _
  | cons p body ih =>
    obtain ⟨l, t⟩ := p
    have h := ih (decide (t = .cr))
    simp only [readBack, writtenLines, List.map_cons, List.cons_append] at h ⊢
    split
    · exact (h.trans (List.sublist_cons_self l _))
    · exact h.cons_cons l

/-- **All the lines come back** exactly when none is hidden behind a lone carriage return before
the first, none after it, and the last is not an empty unterminated one. -/
theorem readBack_eq_writtenLines_iff (f : Bool) (final : Option Terminator) :
    readBack f body last final = writtenLines body last ↔
      ¬ (f = true ∧ (terminated body last final).head? = some ("", some .lf)) ∧
      ¬ HidesEmptyLine (terminated body last final) ∧ (last ≠ "" ∨ final ≠ none) := by
  induction body generalizing f with
  | nil =>
    cases final with
    | none => by_cases h : last = "" <;> simp [readBack, writtenLines, terminated, h,
        not_hidesEmptyLine_singleton]
    | some t =>
      by_cases h : f = true ∧ last = "" ∧ t = .lf
      · simp [readBack, writtenLines, terminated, h]
      · simp only [readBack, writtenLines, terminated, if_neg h, List.map_nil, List.nil_append,
          List.head?_cons, Option.some.injEq, Prod.mk.injEq, not_hidesEmptyLine_singleton]
        simp_all
  | cons p body ih =>
    obtain ⟨l, t⟩ := p
    rw [terminated_cons, hidesEmptyLine_cons]
    simp only [readBack, writtenLines, List.map_cons, List.cons_append]
    by_cases h : f = true ∧ l = "" ∧ t = .lf
    · -- the line is lost, and the rest, a sublist of the other lines, cannot make up for it
      obtain ⟨rfl, rfl, rfl⟩ := h
      have hsub : (readBack false body last final).Sublist (writtenLines body last) :=
        readBack_sublist false final
      have hlen := hsub.length_le
      have hne : readBack false body last final ≠ "" :: (body.map (·.1) ++ [last]) := by
        intro e
        rw [e] at hlen
        simp only [writtenLines, List.length_cons, List.length_append, List.length_map] at hlen
        omega
      simp [hne]
    · have ih' := ih (decide (t = .cr))
      simp only [writtenLines] at ih'
      rw [if_neg h, List.singleton_append, List.cons.injEq, ih']
      simp [h, and_assoc]

/-! ## Reading written lines -/

theorem mapM_decode?_map_encode (ls : List String) :
    (ls.map encode).mapM decode? = .ok ls := by
  induction ls with
  | nil => rfl
  | cons l ls ih =>
    simp only [List.map_cons, List.mapM_cons, decode?_encode, ih]
    rfl

/-- Reading written lines to the end of the input gives the lines read back. -/
theorem readLines_eq_readBack {cap : Capacity} {src : List Segment} {final : Option Terminator}
    (hend : drain src = (written body last final, .endOfInput))
    (hplain : ∀ l ∈ writtenLines body last, '\r' ∉ l.toList ∧ '\n' ∉ l.toList) :
    readLines cap src = .ok (readBack false body last final) := by
  have hcut := linesOf_cutAt_written (fun l hl => plain_encode (hplain l hl)) final false []
  rw [readLines_of_endOfInput (by rw [hend]), hend, pieces_eq_linesOf, hcut, List.reverse_nil,
    List.nil_append, mapM_decode?_map_encode]
  rfl

/-- **Reading back written lines.** Lines with no line terminator in them, written each with a line
feed, a carriage return or both after it, the last with one of these or none, and read to the end of
the input (in runs of any size, through a buffer of any capacity of one byte or more, with
interruptions anywhere), read back as a sublist of the lines written. It is all of them exactly when
no line ended by a lone carriage return is followed by an empty line ended by a line feed, and the
last line is not empty with no terminator; otherwise it is strictly shorter. -/
theorem readLines_written (cap : Capacity) (src : List Segment)
    (body : List (String × Terminator)) (last : String) (final : Option Terminator)
    (hend : drain src = (written body last final, .endOfInput))
    (hplain : ∀ l ∈ writtenLines body last, '\r' ∉ l.toList ∧ '\n' ∉ l.toList) :
    ∃ ls, readLines cap src = .ok ls ∧ ls.Sublist (writtenLines body last) ∧
      (ls = writtenLines body last ↔
        ¬ HidesEmptyLine (terminated body last final) ∧ (last ≠ "" ∨ final ≠ none)) ∧
      (ls ≠ writtenLines body last → ls.length < (writtenLines body last).length) := by
  have hsub : (readBack false body last final).Sublist (writtenLines body last) :=
    readBack_sublist false final
  refine ⟨_, readLines_eq_readBack hend hplain, hsub, ?_, ?_⟩
  · rw [readBack_eq_writtenLines_iff]
    simp
  · intro hne
    exact Nat.lt_of_le_of_ne hsub.length_le (fun e => hne (hsub.eq_of_length e))

/-- A carriage return and a line feed around an interruption, read through a one-byte buffer:
the empty line between them is lost. -/
theorem readLines_written_across_interruption :
    drain [.data [97, 13], .interrupted, .data [10, 98]] =
      (written [("a", .cr), ("", .lf)] "b" none, .endOfInput) ∧
    (∀ l ∈ writtenLines [("a", .cr), ("", .lf)] "b", '\r' ∉ l.toList ∧ '\n' ∉ l.toList) ∧
    ∃ ls, readLines ⟨1, by decide⟩ [.data [97, 13], .interrupted, .data [10, 98]] = .ok ls ∧
      ls.Sublist (writtenLines [("a", .cr), ("", .lf)] "b") ∧
      (ls = writtenLines [("a", .cr), ("", .lf)] "b" ↔
        ¬ HidesEmptyLine (terminated [("a", .cr), ("", .lf)] "b" none) ∧
          ("b" ≠ "" ∨ (none : Option Terminator) ≠ none)) ∧
      (ls ≠ writtenLines [("a", .cr), ("", .lf)] "b" →
        ls.length < (writtenLines [("a", .cr), ("", .lf)] "b").length) := by
  have hend : drain [.data [97, 13], .interrupted, .data [10, 98]] =
      (written [("a", .cr), ("", .lf)] "b" none, .endOfInput) := by decide
  have hplain :
      ∀ l ∈ writtenLines [("a", .cr), ("", .lf)] "b", '\r' ∉ l.toList ∧ '\n' ∉ l.toList := by
    decide
  exact ⟨hend, hplain, readLines_written ⟨1, by decide⟩ _ _ _ _ hend hplain⟩

end Lines
end ResourceKit

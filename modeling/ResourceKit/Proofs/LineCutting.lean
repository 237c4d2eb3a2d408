import ResourceKit.Lines.Cut
import ResourceKit.Proofs.Utf8Borders

/-!
# Cutting lines, in bytes and in text

`cutAt cr lf` cuts a sequence into lines in one pass with no lookahead: it remembers whether
the last item was a carriage return, so that a line feed straight after it is no second
terminator. This is how the line reader cuts bytes as they arrive, and it is the same cut as
`Lines.cut`, which looks one byte ahead instead (`cutFrom_eq_cutAt`). On characters it gives
the lines of a text (`textLines`).

Since line terminators are ASCII, cutting commutes with strict UTF-8 decoding: decoding the
pieces one by one succeeds exactly when decoding the whole does, and the pieces' texts are the
lines of the whole's text.

**Results.**
* `cutFrom_eq_cutAt`: the library's cut is the one-pass cut with the flag cleared.
* `decode_cutAt`: decoding the lines and the rest of the bytes is decoding the bytes and
  cutting the text.
* `decode_pieces`: the pieces decode, one by one, exactly when the whole does, to the lines of
  its text.
-/

namespace ResourceKit
namespace Lines

section Generic

variable {α : Type} [DecidableEq α] (cr lf : α)

/-- Cutting at `cr lf`, lone `cr` and lone `lf` in one pass: whether the last item was `cr`,
the current line's items newest first, and the finished lines newest first. -/
def cutAt (afterCr : Bool) (acc : List α) (done : List (List α)) :
    List α → List (List α) × List α
  | [] => (done.reverse, acc.reverse)
  | a :: rest =>
    if a = lf ∧ afterCr then cutAt false acc done rest
    else if a = lf ∨ a = cr then cutAt (decide (a = cr)) [] (acc.reverse :: done) rest
    else cutAt false (a :: acc) done rest

/-- Items that end no line. -/
def Plain (x : List α) : Prop :=
  ∀ a ∈ x, a ≠ cr ∧ a ≠ lf

@[simp] theorem cutAt_nil (f : Bool) (acc : List α) (done : List (List α)) :
    cutAt cr lf f acc done [] = (done.reverse, acc.reverse) := rfl

theorem cutAt_done (f : Bool) (acc : List α) (done : List (List α)) (xs : List α) :
    cutAt cr lf f acc done xs =
      (done.reverse ++ (cutAt cr lf f acc [] xs).1, (cutAt cr lf f acc [] xs).2) := by
  induction xs generalizing f acc done with
  | nil => simp
  | cons a rest ih =>
    simp only [cutAt]
    split
    · exact ih _ _ _
    · split
      · rw [ih _ _ (acc.reverse :: done), ih _ _ [acc.reverse]]
        simp
      · exact ih _ _ _

theorem cutAt_lf_afterCr (acc : List α) (done : List (List α)) (rest : List α) :
    cutAt cr lf true acc done (lf :: rest) = cutAt cr lf false acc done rest := by
  simp [cutAt]

theorem cutAt_afterCr (acc : List α) (done : List (List α)) {rest : List α}
    (h : rest.head? ≠ some lf) :
    cutAt cr lf true acc done rest = cutAt cr lf false acc done rest := by
  cases rest with
  | nil => rfl
  | cons a rest =>
    have ha : a ≠ lf := fun e => h (by simp [e])
    simp [cutAt, ha]

/-- A terminator that is not a line feed after a carriage return ends the line. -/
theorem cutAt_break {a : α} (hbreak : a = lf ∨ a = cr) {f : Bool} (hskip : ¬ (a = lf ∧ f = true))
    (acc : List α) (done : List (List α)) (rest : List α) :
    cutAt cr lf f acc done (a :: rest) = cutAt cr lf (decide (a = cr)) [] (acc.reverse :: done) rest := by
  simp only [cutAt, if_neg hskip, if_pos hbreak]

variable {cr lf}

theorem cutAt_lf (hcl : cr ≠ lf) (acc : List α) (done : List (List α)) (rest : List α) :
    cutAt cr lf false acc done (lf :: rest) = cutAt cr lf false [] (acc.reverse :: done) rest := by
  simp [cutAt, Ne.symm hcl]

theorem cutAt_cr (hcl : cr ≠ lf) (f : Bool) (acc : List α) (done : List (List α))
    (rest : List α) :
    cutAt cr lf f acc done (cr :: rest) = cutAt cr lf true [] (acc.reverse :: done) rest := by
  simp [cutAt, hcl]

theorem cutAt_cons_plain {a : α} (hacr : a ≠ cr) (half : a ≠ lf) (f : Bool) (acc : List α)
    (done : List (List α)) (rest : List α) :
    cutAt cr lf f acc done (a :: rest) = cutAt cr lf false (a :: acc) done rest := by
  simp [cutAt, hacr, half]

/-- Items that end no line go onto the current line. -/
theorem cutAt_plain {x : List α} (hx : Plain cr lf x) (acc : List α) (done : List (List α))
    (rest : List α) :
    cutAt cr lf false acc done (x ++ rest) = cutAt cr lf false (x.reverse ++ acc) done rest := by
  induction x generalizing acc with
  | nil => rfl
  | cons a x ih =>
    obtain ⟨hacr, half⟩ := hx a List.mem_cons_self
    have hx' : Plain cr lf x := fun b hb => hx b (List.mem_cons_of_mem a hb)
    rw [List.cons_append, cutAt_cons_plain hacr half, ih hx']
    simp

theorem cutAt_of_plain {x : List α} (hx : Plain cr lf x) :
    cutAt cr lf false [] [] x = ([], x) := by
  simpa using cutAt_plain hx [] [] []

/-- Plain items, then a line feed: the items are the first line. -/
theorem cutAt_plain_lf (hcl : cr ≠ lf) {x : List α} (hx : Plain cr lf x) (rest : List α) :
    cutAt cr lf false [] [] (x ++ lf :: rest) =
      (x :: (cutAt cr lf false [] [] rest).1, (cutAt cr lf false [] [] rest).2) := by
  rw [cutAt_plain hx, cutAt_lf hcl, cutAt_done]
  simp

/-- Plain items, then a carriage return: the items are the first line, and a line feed right
after the return is part of the same terminator. -/
theorem cutAt_plain_cr (hcl : cr ≠ lf) {x : List α} (hx : Plain cr lf x) (rest : List α) :
    cutAt cr lf false [] [] (x ++ cr :: rest) =
      (x :: (cutAt cr lf true [] [] rest).1, (cutAt cr lf true [] [] rest).2) := by
  rw [cutAt_plain hx, cutAt_cr hcl, cutAt_done]
  simp

/-- Every sequence is plain, or plain items followed by a terminator and the rest. -/
theorem plain_or_first_break (xs : List α) :
    Plain cr lf xs ∨ ∃ x t rest, xs = x ++ t :: rest ∧ Plain cr lf x ∧ (t = cr ∨ t = lf) := by
  induction xs with
  | nil => exact Or.inl (fun a h => absurd h List.not_mem_nil)
  | cons a xs ih =>
    by_cases ha : a = cr ∨ a = lf
    · exact Or.inr ⟨[], a, xs, rfl, fun b h => absurd h List.not_mem_nil, ha⟩
    · have ha' : a ≠ cr ∧ a ≠ lf := by
        constructor <;> intro e <;> exact ha (by simp [e])
      rcases ih with hp | ⟨x, t, rest, rfl, hx, ht⟩
      · refine Or.inl ?_
        intro b hb
        rcases List.mem_cons.mp hb with rfl | hb
        · exact ha'
        · exact hp b hb
      · refine Or.inr ⟨a :: x, t, rest, rfl, ?_, ht⟩
        intro b hb
        rcases List.mem_cons.mp hb with rfl | hb
        · exact ha'
        · exact hx b hb

end Generic

/-! ## The terminators, as bytes and as characters -/

theorem cr_ne_lf_byte : (13 : UInt8) ≠ 10 := by decide

theorem cr_ne_lf_char : '\r' ≠ '\n' := by decide

theorem cr_ascii : (13 : UInt8) < 0x80 := by decide

theorem lf_ascii : (10 : UInt8) < 0x80 := by decide

/-- The library's cut, which looks one byte ahead after a carriage return, is the one-pass cut
that starts with no carriage return behind it. -/
theorem cutFrom_eq_cutAt (acc : List UInt8) (done : List (List UInt8)) (bytes : List UInt8) :
    cutFrom acc done bytes = cutAt cr lf false acc done bytes := by
  simp only [cr, lf]
  fun_induction cutFrom acc done bytes with
  | case1 acc done => rfl
  | case2 acc done rest ih =>
    rw [ih, cutAt_cr cr_ne_lf_byte, cutAt_lf_afterCr]
  | case3 acc done rest hne ih =>
    rw [ih, cutAt_cr cr_ne_lf_byte, cutAt_afterCr]
    intro h
    cases rest with
    | nil => cases h
    | cons b rest =>
      simp only [List.head?_cons, Option.some.injEq] at h
      exact hne rest (by rw [h])
  | case4 acc done rest ih =>
    rw [ih, cutAt_lf cr_ne_lf_byte]
  | case5 acc done b rest _ h13 h10 ih =>
    rw [ih, cutAt_cons_plain h13 h10]

/-! ## Lines of a text, and decoding -/

/-- The lines of a text: cut at `"\r\n"`, lone `'\r'` and lone `'\n'`, with an empty last piece
dropped. -/
def textLines (s : String) : List String :=
  let c := cutAt '\r' '\n' false [] [] s.toList
  (c.1 ++ if c.2 = [] then [] else [c.2]).map String.ofList

open Text.Utf8

theorem toOption_eq_some {ε β : Type} {r : Except ε β} {b : β} : r.toOption = some b ↔ r = .ok b := by
  cases r <;> simp [Except.toOption]

/-- Decoded bytes without line terminators hold no line terminators. -/
theorem plain_of_decodeChars? {x : List UInt8} (hx : Plain (13 : UInt8) 10 x) {cs : List Char}
    (h : decodeChars? x = .ok cs) : Plain '\r' '\n' cs := by
  have hno10 : (10 : UInt8) ∉ x := fun m => (hx 10 m).2 rfl
  have hno13 : (13 : UInt8) ∉ x := fun m => (hx 13 m).1 rfl
  have hlf := ofNat_not_mem_decodeChars? (a := 10) (by decide) (by decide) hno10 h
  have hcr := ofNat_not_mem_decodeChars? (a := 13) (by decide) (by decide) hno13 h
  intro c hc
  exact ⟨fun e => hcr (e ▸ hc), fun e => hlf (e ▸ hc)⟩

/-- Bytes that do not begin with a line feed decode to a text that does not either. -/
theorem head?_decodeChars?_ne_lf {y : List UInt8} (hy : y.head? ≠ some 10) {cs : List Char}
    (h : decodeChars? y = .ok cs) : cs.head? ≠ some '\n' := by
  cases y with
  | nil =>
    simp only [decodeChars?, decodeFrom, Except.ok.injEq] at h
    simp [← h]
  | cons z y =>
    have hz : z ≠ 10 := fun e => hy (by simp [e])
    obtain ⟨c, ds, rfl, hc⟩ := decodeChars?_cons h
    simp only [List.head?_cons, ne_eq, Option.some.injEq]
    rintro rfl
    rcases hc with e | e | e
    · have := congrArg Char.toNat e
      rw [toNat_ofNat_byte] at this
      exact hz (UInt8.toNat_inj.mp this.symm)
    · exact absurd e (by decide)
    · exact absurd e (by decide)

/-- The lines and rest of a cut, each decoded, when all of them decode. -/
def decodeCut (c : List (List UInt8) × List UInt8) : Option (List (List Char) × List Char) :=
  (c.1.mapM fun l => (decodeChars? l).toOption).bind fun ls =>
    (decodeChars? c.2).toOption.map fun r => (ls, r)

theorem decodeCut_cons (x : List UInt8) (c : List (List UInt8) × List UInt8) :
    decodeCut (x :: c.1, c.2) =
      (decodeChars? x).toOption.bind fun cx => (decodeCut c).map fun d => (cx :: d.1, d.2) := by
  simp only [decodeCut, List.mapM_cons]
  cases (decodeChars? x).toOption <;> cases c.1.mapM fun l => (decodeChars? l).toOption <;>
    simp [Function.comp_def]

theorem ofNat_cr_lf : Char.ofNat (13 : UInt8).toNat = '\r' ∧ Char.ofNat (10 : UInt8).toNat = '\n' :=
  ⟨rfl, rfl⟩

/-- **Cutting commutes with decoding**: the bytes decode and their text is cut into some lines
and a rest exactly when the byte lines and byte rest of the cut each decode, to those. -/
theorem decode_cutAt (bytes : List UInt8) :
    (decodeChars? bytes).toOption.map (cutAt '\r' '\n' false [] []) =
      decodeCut (cutAt (13 : UInt8) 10 false [] [] bytes) := by
  -- on the length: each step takes the first line and its terminator off the front
  induction h : bytes.length using Nat.strongRecOn generalizing bytes with
  | _ n ih =>
  rcases @plain_or_first_break _ _ (13 : UInt8) 10 bytes with hp | ⟨x, t, rest, rfl, hx, ht⟩
  · rw [cutAt_of_plain hp]
    cases hd : (decodeChars? bytes).toOption with
    | none => simp [decodeCut, hd]
    | some cs =>
      have hpc := plain_of_decodeChars? hp (toOption_eq_some.mp hd)
      simp [decodeCut, hd, cutAt_of_plain hpc]
  · have hlen : rest.length < n := by
      subst h
      simp only [List.length_append, List.length_cons]
      omega
    have ih' := ih rest.length hlen rest rfl
    rcases ht with rfl | rfl
    · -- a carriage return, then a line feed or not
      rw [cutAt_plain_cr cr_ne_lf_byte hx, decodeChars?_append_ascii _ _ cr_ascii, decodeCut_cons,
        ofNat_cr_lf.1]
      cases hdx : (decodeChars? x).toOption with
      | none => rfl
      | some cx =>
        have hpc := plain_of_decodeChars? hx (toOption_eq_some.mp hdx)
        simp only [Option.bind_some, Option.map_map, Function.comp_def]
        by_cases hlf : rest.head? = some 10
        · -- the line feed after the carriage return ends the same line
          obtain ⟨rest', rfl⟩ := List.head?_eq_some_iff.mp hlf
          have ih'' := ih rest'.length (by simp at hlen; omega) rest' rfl
          rw [cutAt_lf_afterCr, ← ih'', decodeChars?_ascii_cons rest' lf_ascii, ofNat_cr_lf.2,
            Option.map_map]
          simp [Function.comp_def, cutAt_plain_cr cr_ne_lf_char hpc, cutAt_lf_afterCr]
        · rw [cutAt_afterCr _ _ _ _ hlf, ← ih']
          cases hdr : (decodeChars? rest).toOption with
          | none => rfl
          | some cy =>
            have hcy := head?_decodeChars?_ne_lf hlf (toOption_eq_some.mp hdr)
            simp [cutAt_plain_cr cr_ne_lf_char hpc, cutAt_afterCr _ _ _ _ hcy]
    · -- a lone line feed
      rw [cutAt_plain_lf cr_ne_lf_byte hx, decodeChars?_append_ascii _ _ lf_ascii, decodeCut_cons,
        ofNat_cr_lf.2, ← ih']
      cases hdx : (decodeChars? x).toOption with
      | none => rfl
      | some cx =>
        have hpc := plain_of_decodeChars? hx (toOption_eq_some.mp hdx)
        simp [Option.map_map, Function.comp_def, cutAt_plain_lf cr_ne_lf_char hpc]

theorem decodeChars?_eq_nil {x : List UInt8} {cs : List Char}
    (h : (decodeChars? x).toOption = some cs) : cs = [] ↔ x = [] := by
  constructor
  · intro hcs
    cases x with
    | nil => rfl
    | cons z y =>
      obtain ⟨c, ds, rfl, -⟩ := decodeChars?_cons (toOption_eq_some.mp h)
      cases hcs
  · rintro rfl
    simpa [Except.toOption] using h.symm

/-- The lines of a cut: its finished lines, and its rest unless that is empty. -/
def linesOf {β : Type} (c : List (List β) × List β) : List (List β) :=
  c.1 ++ if c.2 = [] then [] else [c.2]

theorem pieces_eq_linesOf (bytes : List UInt8) :
    pieces bytes = linesOf (cutAt (13 : UInt8) 10 false [] [] bytes) := by
  simp only [pieces, cut, cutFrom_eq_cutAt, cr, lf, linesOf]

/-- **The pieces of bytes decode, one by one, exactly when the bytes decode**, and then to the
lines of their text. -/
theorem decode_pieces (bytes : List UInt8) :
    (pieces bytes).mapM (fun l => (decodeChars? l).toOption) =
      (decodeChars? bytes).toOption.map fun cs => linesOf (cutAt '\r' '\n' false [] [] cs) := by
  have hcut := decode_cutAt bytes
  rw [pieces_eq_linesOf]
  generalize cutAt (13 : UInt8) 10 false [] [] bytes = c at hcut
  obtain ⟨ls, r⟩ := c
  simp only [linesOf, List.mapM_append]
  cases hd : (decodeChars? bytes).toOption with
  | none =>
    -- some line, or the rest, does not decode
    rw [hd] at hcut
    simp only [decodeCut, Option.map_none] at hcut
    cases hls : ls.mapM fun l => (decodeChars? l).toOption with
    | none => rfl
    | some dls =>
      rw [hls] at hcut
      have hr : (decodeChars? r).toOption = none := by simpa using hcut.symm
      have hne : r ≠ [] := by
        rintro rfl
        simp [Except.toOption] at hr
      simp [hne, hr]
  | some cs =>
    rw [hd] at hcut
    simp only [decodeCut, Option.map_some] at hcut
    cases hls : ls.mapM fun l => (decodeChars? l).toOption with
    | none => simp [hls] at hcut
    | some dls =>
      rw [hls] at hcut
      cases hr : (decodeChars? r).toOption with
      | none => simp [hr] at hcut
      | some dr =>
        rw [hr] at hcut
        simp only [Option.bind_some, Option.map_some, Option.some.injEq] at hcut
        have hnil := decodeChars?_eq_nil hr
        simp only [Option.map_some, hcut]
        by_cases hr0 : r = []
        · simp [hr0, hnil.mpr hr0]
        · have hdr0 : dr ≠ [] := fun e => hr0 (hnil.mp e)
          simp [hr0, hdr0, hr]

end Lines
end ResourceKit

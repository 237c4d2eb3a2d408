import Mathlib
import ResourceKit.Text.Utf8

/-!
# ASCII bytes as borders of UTF-8 decoding

A byte below `0x80` can neither begin a multi-byte sequence nor continue one, since every
continuation byte lies in `0x80`–`0xBF`. So for the strict decoder an ASCII byte is a border:
the bytes on either side of it decode independently, and the whole decodes exactly when both
sides do. Nor does a multi-byte sequence ever decode to a control character below `0x40`: the
bits it collects before its last byte are never all zero.

These facts say that splitting bytes at line terminators and decoding the pieces is the same as
decoding the whole and splitting the text.

**Results.**
* `decodeChars?_append_ascii`: bytes around an ASCII byte decode exactly when each side does,
  to the two texts with the byte's character between them.
* `ofNat_not_mem_decodeChars?`: a control character below `0x40` other than NUL is decoded only
  from its own byte.
* `decodeChars?_cons`: the first character decoded is the first byte's own character, or is
  not below `0x40` (or is NUL).
-/

namespace ResourceKit
namespace Text
namespace Utf8

/-- The code of a character made from a number is the number, or zero when the number is no
Unicode scalar value. -/
theorem toNat_ofNat_cases (n : Nat) : (Char.ofNat n).toNat = n ∨ (Char.ofNat n).toNat = 0 := by
  unfold Char.ofNat
  split
  · left
    simp [Char.ofNatAux, Char.toNat]
  · right
    rfl

theorem toNat_ofNat_byte (b : UInt8) : (Char.ofNat b.toNat).toNat = b.toNat := by
  have hb := b.toNat_lt
  unfold Char.ofNat
  rw [dif_pos (Or.inl (by omega))]
  simp [Char.ofNatAux, Char.toNat]

theorem toNat_and_mask (b m : UInt8) (k : Nat) (hm : m.toNat = 2 ^ k - 1) :
    (b &&& m).toNat = b.toNat % 2 ^ k := by
  rw [UInt8.toNat_and, hm, Nat.and_two_pow_sub_one_eq_mod]

/-! ## The machine's pending sequences -/

/-- The sequences the machine is in after a lead byte: the next byte must be a continuation
byte, and the bits read so far are not all zero unless two more bytes are due and the next one
is at least `0x90`. -/
def Pending.Proper (p : Pending) : Prop :=
  0x80 ≤ p.low ∧ p.high ≤ 0xBF ∧ (1 ≤ p.bits ∨ (0x90 ≤ p.low ∧ 2 ≤ p.remaining))

/-- A state of the machine between bytes: nothing pending, or a proper pending sequence. -/
def ProperState (st : Option Pending) : Prop :=
  ∀ p, st = some p → p.Proper

@[simp] theorem properState_none : ProperState none := by
  intro p h
  cases h

@[simp] theorem properState_some (p : Pending) : ProperState (some p) ↔ p.Proper := by
  constructor
  · intro h
    exact h p rfl
  · rintro hp q ⟨⟩
    exact hp

/-- A lead byte opens a proper sequence. -/
theorem start_pending_proper {b : UInt8} {p : Pending} (h : start b = .pending p) : p.Proper := by
  simp only [start, UInt8.lt_iff_toNat_lt, UInt8.reduceToNat] at h
  split at h
  · cases h
  split at h
  · cases h
  rename_i h1 h2
  split at h
  · -- `C2`–`DF`: five bits of at least 2
    rename_i h3
    cases h
    simp only [Pending.Proper]
    refine ⟨by decide, by decide, Or.inl ?_⟩
    rw [toNat_and_mask b 0x1F 5 rfl]
    omega
  rename_i h3
  split at h
  · -- `E0`–`EF`: four bits, all zero only for `E0`, whose next byte is at least `A0`
    rename_i h4
    cases h
    simp only [Pending.Proper]
    refine ⟨by split <;> decide, by split <;> decide, ?_⟩
    by_cases he : b = 0xE0
    · simp [he]
    · left
      have hne : b.toNat ≠ 0xE0 := fun e => he (UInt8.toNat_inj.mp e)
      rw [toNat_and_mask b 0x0F 4 rfl]
      omega
  split at h
  · -- `F0`–`F4`: three bits, all zero only for `F0`, whose next byte is at least `90`
    rename_i h4 h5
    cases h
    simp only [Pending.Proper]
    refine ⟨by split <;> decide, by split <;> decide, ?_⟩
    by_cases he : b = 0xF0
    · simp [he]
    · left
      have hne : b.toNat ≠ 0xF0 := fun e => he (UInt8.toNat_inj.mp e)
      rw [toNat_and_mask b 0x07 3 rfl]
      omega
  · cases h

theorem start_scalar {b : UInt8} {c : Char} (h : start b = .scalar c) :
    b < 0x80 ∧ c = Char.ofNat b.toNat := by
  simp only [start] at h
  split_ifs at h with h1
  · cases h
    exact ⟨h1, rfl⟩

theorem Pending.next_pending_proper {p q : Pending} {b : UInt8} (hp : p.Proper)
    (h : p.next b = .pending q) : q.Proper := by
  obtain ⟨hlow, hhigh, hbits⟩ := hp
  have h6 := toNat_and_mask b 0x3F 6 rfl
  simp only [Pending.next] at h
  split_ifs at h with hin hrem
  cases h
  simp only [UInt8.le_iff_toNat_le, UInt8.reduceToNat] at hin hlow hhigh
  simp only [Pending.Proper]
  refine ⟨by decide, by decide, Or.inl ?_⟩
  rw [h6]
  rcases hbits with hbits | ⟨hlow', _⟩
  · have : 64 ≤ p.bits * 64 := by omega
    omega
  · simp only [UInt8.le_iff_toNat_le, UInt8.reduceToNat] at hlow'
    omega

theorem Pending.next_ascii {p : Pending} {b : UInt8} (hp : p.Proper) (hb : b < 0x80) :
    p.next b = .illFormed (p.seen + 1) := by
  have hlow := hp.1
  have hno : ¬ (p.low ≤ b ∧ b ≤ p.high) := by
    rintro ⟨h1, _⟩
    simp only [UInt8.le_iff_toNat_le, UInt8.lt_iff_toNat_lt, UInt8.reduceToNat] at h1 hb hlow
    omega
  simp [Pending.next, hno]

/-- A character that ends a proper sequence has a code of at least `0x40`, or is NUL. -/
theorem Pending.next_scalar_toNat {p : Pending} {b : UInt8} {c : Char} (hp : p.Proper)
    (h : p.next b = .scalar c) : c.toNat = 0 ∨ 64 ≤ c.toNat := by
  obtain ⟨_, _, hbits⟩ := hp
  simp only [Pending.next] at h
  split_ifs at h with hin hrem
  cases h
  have hbits : 1 ≤ p.bits := by omega
  rcases toNat_ofNat_cases (p.bits * 64 + (b &&& 0x3F).toNat) with e | e
  · right
    rw [e]
    omega
  · left
    exact e

/-! ## Decoding from a position -/

@[simp] theorem decodeChars?_nil : decodeChars? [] = .ok [] := rfl

theorem decodeFrom_none_origin (o o' p : Nat) (bs : List UInt8) (acc : List Char) :
    decodeFrom o p none bs acc = decodeFrom o' p none bs acc := by
  cases bs <;> rfl

/-- Positions only place errors: what decodes, decodes to the same characters from anywhere,
after those already decoded. -/
theorem decodeFrom_toOption (o p o' p' : Nat) (st : Option Pending) (bs : List UInt8)
    (acc : List Char) :
    (decodeFrom o p st bs acc).toOption =
      (decodeFrom o' p' st bs []).toOption.map (acc.reverse ++ ·) := by
  -- every step hands the origin, the position and the accumulator on, and only an error reads
  -- the first two, so the induction frees all three
  induction bs generalizing o p o' p' st acc with
  | nil =>
    cases st <;> simp [decodeFrom, Except.toOption]
  | cons b bs ih =>
    cases st with
    | none =>
      rcases hs : start b with c | q | n
      · simp only [decodeFrom, hs]
        rw [ih _ _ 0 0, ih (p' + 1) (p' + 1) 0 0, Option.map_map]
        simp [Function.comp_def]
      · simp only [decodeFrom, hs]
        rw [ih _ _ 0 0, ih p' (p' + 1) 0 0, Option.map_map]
        simp [Function.comp_def]
      · simp [decodeFrom, hs, Except.toOption]
    | some q =>
      rcases hs : q.next b with c | q' | n
      · simp only [decodeFrom, hs]
        rw [ih _ _ 0 0, ih (p' + 1) (p' + 1) 0 0, Option.map_map]
        simp [Function.comp_def]
      · simp only [decodeFrom, hs]
        rw [ih _ _ 0 0, ih o' (p' + 1) 0 0, Option.map_map]
        simp [Function.comp_def]
      · simp [decodeFrom, hs, Except.toOption]

/-- Bytes that decode completely leave the decoder between characters, so what follows them is
decoded afresh after their characters. -/
theorem decodeFrom_append_of_ok {o p : Nat} {st : Option Pending} {x : List UInt8}
    {acc cs : List Char} (h : decodeFrom o p st x acc = .ok cs) (w : List UInt8) :
    decodeFrom o p st (x ++ w) acc =
      decodeFrom (p + x.length) (p + x.length) none w cs.reverse := by
  induction x generalizing o p st acc with
  | nil =>
    cases st with
    | none =>
      simp only [decodeFrom, Except.ok.injEq] at h
      subst h
      simp [decodeFrom_none_origin o p]
    | some q => simp [decodeFrom] at h
  | cons b x ih =>
    have hlen : p + (x.length + 1) = p + 1 + x.length := by omega
    simp only [List.cons_append, List.length_cons, hlen]
    cases st with
    | none =>
      rcases hs : start b with c | q | n
      · simp only [decodeFrom, hs] at h ⊢
        exact ih h
      · simp only [decodeFrom, hs] at h ⊢
        exact ih h
      · simp [decodeFrom, hs] at h
    | some q =>
      rcases hs : q.next b with c | q' | n
      · simp only [decodeFrom, hs] at h ⊢
        exact ih h
      · simp only [decodeFrom, hs] at h ⊢
        exact ih h
      · simp [decodeFrom, hs] at h

/-- Bytes that fail to decode still fail with an ASCII byte and anything after them: the byte
cannot finish a sequence they left open. -/
theorem decodeFrom_append_ascii_of_error {o p : Nat} {st : Option Pending}
    (hst : ProperState st) {x : List UInt8} {acc : List Char} {e : Error}
    (h : decodeFrom o p st x acc = .error e) {b : UInt8} (hb : b < 0x80) (w : List UInt8) :
    (decodeFrom o p st (x ++ b :: w) acc).toOption = none := by
  -- the pending state stays proper along `x`, so where `x` stops in the middle of a sequence
  -- the ASCII byte cannot continue it
  induction x generalizing o p st acc e with
  | nil =>
    cases st with
    | none => simp [decodeFrom] at h
    | some q =>
      have hq : q.Proper := hst q rfl
      simp [decodeFrom, Pending.next_ascii hq hb, Except.toOption]
  | cons z x ih =>
    cases st with
    | none =>
      rcases hs : start z with c | q | n
      · simp only [decodeFrom, List.cons_append, hs] at h ⊢
        exact ih properState_none h
      · simp only [decodeFrom, List.cons_append, hs] at h ⊢
        exact ih ((properState_some q).mpr (start_pending_proper hs)) h
      · simp [decodeFrom, hs, Except.toOption]
    | some q =>
      have hq : q.Proper := hst q rfl
      rcases hs : q.next z with c | q' | n
      · simp only [decodeFrom, List.cons_append, hs] at h ⊢
        exact ih properState_none h
      · simp only [decodeFrom, List.cons_append, hs] at h ⊢
        exact ih ((properState_some q').mpr (Pending.next_pending_proper hq hs)) h
      · simp [decodeFrom, hs, Except.toOption]

/-- A sequence that decodes from a proper pending state yields a first character that is not a
control character below `0x40`, or is NUL. -/
theorem decodeFrom_some_ok {o p : Nat} {q : Pending} (hq : q.Proper) {x : List UInt8}
    {acc cs : List Char} (h : decodeFrom o p (some q) x acc = .ok cs) :
    ∃ c ds, cs = acc.reverse ++ c :: ds ∧ (c.toNat = 0 ∨ 64 ≤ c.toNat) := by
  induction x generalizing o p q acc with
  | nil => simp [decodeFrom] at h
  | cons z x ih =>
    rcases hs : q.next z with c | q' | n
    · simp only [decodeFrom, hs] at h
      have ho := decodeFrom_toOption (p + 1) (p + 1) 0 0 none x (c :: acc)
      rw [h] at ho
      obtain ⟨ds, -, hds⟩ := Option.map_eq_some_iff.mp ho.symm
      exact ⟨c, ds, by simp [← hds], Pending.next_scalar_toNat hq hs⟩
    · simp only [decodeFrom, hs] at h
      exact ih (Pending.next_pending_proper hq hs) h
    · simp [decodeFrom, hs] at h

/-! ## Decoding around an ASCII byte -/

/-- **Bytes around an ASCII byte decode exactly when each side does**, to the two texts with the
byte's own character between them. -/
theorem decodeChars?_append_ascii (x y : List UInt8) {b : UInt8} (hb : b < 0x80) :
    (decodeChars? (x ++ b :: y)).toOption =
      (decodeChars? x).toOption.bind fun cx =>
        (decodeChars? y).toOption.map fun cy => cx ++ Char.ofNat b.toNat :: cy := by
  unfold decodeChars?
  rcases hx : decodeFrom 0 0 none x [] with e | cx
  · -- a failure on the left is not repaired by what follows
    rw [decodeFrom_append_ascii_of_error properState_none hx hb]
    rfl
  · have hstart : start b = .scalar (Char.ofNat b.toNat) := start_ascii hb
    rw [decodeFrom_append_of_ok hx]
    simp only [Nat.zero_add, decodeFrom, hstart]
    rw [decodeFrom_toOption _ _ 0 0]
    simp [Except.toOption]

/-- An ASCII byte in front decodes to its own character in front. -/
theorem decodeChars?_ascii_cons (y : List UInt8) {b : UInt8} (hb : b < 0x80) :
    (decodeChars? (b :: y)).toOption =
      (decodeChars? y).toOption.map (Char.ofNat b.toNat :: ·) := by
  have h := decodeChars?_append_ascii [] y hb
  rw [List.nil_append, decodeChars?_nil] at h
  simpa [Except.toOption] using h

/-- **A control character below `0x40` other than NUL is decoded only from its own byte.** -/
theorem ofNat_not_mem_decodeFrom {a : UInt8} (ha0 : 0 < a.toNat) (ha : a.toNat < 64)
    {o p : Nat} {st : Option Pending} (hst : ProperState st) {x : List UInt8} (hx : a ∉ x)
    {acc cs : List Char} (hacc : Char.ofNat a.toNat ∉ acc) (h : decodeFrom o p st x acc = .ok cs) :
    Char.ofNat a.toNat ∉ cs := by
  have hcode := toNat_ofNat_byte a
  induction x generalizing o p st acc with
  | nil =>
    cases st with
    | none =>
      simp only [decodeFrom, Except.ok.injEq] at h
      simpa [← h] using hacc
    | some q => simp [decodeFrom] at h
  | cons z x ih =>
    have hza : z ≠ a := fun e => hx (e ▸ List.mem_cons_self)
    have hx' : a ∉ x := fun m => hx (List.mem_cons_of_mem z m)
    cases st with
    | none =>
      rcases hs : start z with c | q | n
      · -- an ASCII byte other than `a` gives a character other than `a`'s
        simp only [decodeFrom, hs] at h
        obtain ⟨-, rfl⟩ := start_scalar hs
        refine ih properState_none hx' ?_ h
        intro m
        rcases List.mem_cons.mp m with e | m
        · have := congrArg Char.toNat e
          rw [hcode, toNat_ofNat_byte] at this
          exact hza (UInt8.toNat_inj.mp this.symm)
        · exact hacc m
      · simp only [decodeFrom, hs] at h
        exact ih ((properState_some q).mpr (start_pending_proper hs)) hx' hacc h
      · simp [decodeFrom, hs] at h
    | some q =>
      have hq : q.Proper := hst q rfl
      rcases hs : q.next z with c | q' | n
      · -- a character that ends a sequence is NUL or at least `0x40`
        simp only [decodeFrom, hs] at h
        refine ih properState_none hx' ?_ h
        intro m
        rcases List.mem_cons.mp m with e | m
        · have hc := Pending.next_scalar_toNat hq hs
          rw [← e, hcode] at hc
          omega
        · exact hacc m
      · simp only [decodeFrom, hs] at h
        exact ih ((properState_some q').mpr (Pending.next_pending_proper hq hs)) hx' hacc h
      · simp [decodeFrom, hs] at h

theorem ofNat_not_mem_decodeChars? {a : UInt8} (ha0 : 0 < a.toNat) (ha : a.toNat < 64)
    {x : List UInt8} (hx : a ∉ x) {cs : List Char} (h : decodeChars? x = .ok cs) :
    Char.ofNat a.toNat ∉ cs :=
  ofNat_not_mem_decodeFrom ha0 ha properState_none hx (List.not_mem_nil) h

/-- **The first character decoded is the first byte's own character**, or it ends a multi-byte
sequence and so is NUL or at least `0x40`. -/
theorem decodeChars?_cons {z : UInt8} {y : List UInt8} {cs : List Char}
    (h : decodeChars? (z :: y) = .ok cs) :
    ∃ c ds, cs = c :: ds ∧ (c = Char.ofNat z.toNat ∨ c.toNat = 0 ∨ 64 ≤ c.toNat) := by
  unfold decodeChars? at h
  rcases hs : start z with c | q | n
  · simp only [decodeFrom, hs] at h
    have ho := decodeFrom_toOption 1 1 0 0 none y [c]
    rw [h] at ho
    obtain ⟨ds, -, hds⟩ := Option.map_eq_some_iff.mp ho.symm
    exact ⟨c, ds, by simp [← hds], Or.inl (start_scalar hs).2⟩
  · simp only [decodeFrom, hs] at h
    obtain ⟨c, ds, hcs, hc⟩ := decodeFrom_some_ok (start_pending_proper hs) h
    exact ⟨c, ds, by simpa using hcs, Or.inr hc⟩
  · simp [decodeFrom, hs] at h

end Utf8
end Text
end ResourceKit

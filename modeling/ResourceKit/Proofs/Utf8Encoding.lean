import ResourceKit.Proofs.Utf8Borders

/-!
# Strict decoding reads every encoded text back

The UTF-8 encoding of a character is one byte below `0x80`, or a lead byte `C2`–`F4` followed
by continuation bytes in `80`–`BF` that carry six bits each. The strict decoder's machine
accepts each such sequence: the lead byte's range fixes how many continuation bytes follow, and
the narrower second-byte ranges after `E0`, `ED`, `F0` and `F4` hold because an encoded
character is neither an overlong form, nor a surrogate, nor past U+10FFFF.

**Results.**
* `decodeFrom_utf8EncodeChar`: the decoder reads the encoding of a character as that character
  and is then between characters again.
* `decodeChars?_encode`, `decode?_encode`: the encoding of a text decodes to its characters,
  and to the text.
* `ascii_mem_encode`: a byte below `0x80` in the encoding of a text is one of its characters.
-/

namespace ResourceKit
namespace Text
namespace Utf8

/-! ## The machine on lead and continuation bytes -/

theorem toNat_ofNat_small {n : Nat} (h : n < 256) : (UInt8.ofNat n).toNat = n := by
  simp [UInt8.toNat_ofNat', Nat.mod_eq_of_lt h]

theorem start_two {b : UInt8} (h1 : 0xC2 ≤ b.toNat) (h2 : b.toNat < 0xE0) :
    start b = .pending ⟨1, 0, 0x80, 0xBF, b.toNat % 32⟩ := by
  have h80 : ¬ b < 0x80 := by rw [UInt8.lt_iff_toNat_lt]; simp; omega
  have hC2 : ¬ b < 0xC2 := by rw [UInt8.lt_iff_toNat_lt]; simp; omega
  have hE0 : b < 0xE0 := by rw [UInt8.lt_iff_toNat_lt]; simpa using h2
  simp [start, h80, hC2, hE0, toNat_and_mask b 0x1F 5 rfl]

theorem start_three {b : UInt8} (h1 : 0xE0 ≤ b.toNat) (h2 : b.toNat < 0xF0) :
    start b = .pending ⟨2, 0, if b = 0xE0 then 0xA0 else 0x80,
      if b = 0xED then 0x9F else 0xBF, b.toNat % 16⟩ := by
  have h80 : ¬ b < 0x80 := by rw [UInt8.lt_iff_toNat_lt]; simp; omega
  have hC2 : ¬ b < 0xC2 := by rw [UInt8.lt_iff_toNat_lt]; simp; omega
  have hE0 : ¬ b < 0xE0 := by rw [UInt8.lt_iff_toNat_lt]; simp; omega
  have hF0 : b < 0xF0 := by rw [UInt8.lt_iff_toNat_lt]; simpa using h2
  simp [start, h80, hC2, hE0, hF0, toNat_and_mask b 0x0F 4 rfl]

theorem start_four {b : UInt8} (h1 : 0xF0 ≤ b.toNat) (h2 : b.toNat < 0xF5) :
    start b = .pending ⟨3, 0, if b = 0xF0 then 0x90 else 0x80,
      if b = 0xF4 then 0x8F else 0xBF, b.toNat % 8⟩ := by
  have h80 : ¬ b < 0x80 := by rw [UInt8.lt_iff_toNat_lt]; simp; omega
  have hC2 : ¬ b < 0xC2 := by rw [UInt8.lt_iff_toNat_lt]; simp; omega
  have hE0 : ¬ b < 0xE0 := by rw [UInt8.lt_iff_toNat_lt]; simp; omega
  have hF0 : ¬ b < 0xF0 := by rw [UInt8.lt_iff_toNat_lt]; simp; omega
  have hF5 : b < 0xF5 := by rw [UInt8.lt_iff_toNat_lt]; simpa using h2
  simp [start, h80, hC2, hE0, hF0, hF5, toNat_and_mask b 0x07 3 rfl]

/-- A continuation byte inside the allowed range adds its six bits. -/
theorem Pending.next_continue {q : Pending} {b : UInt8} (hlow : q.low.toNat ≤ b.toNat)
    (hhigh : b.toNat ≤ q.high.toNat) :
    q.next b =
      if q.remaining ≤ 1 then .scalar (Char.ofNat (q.bits * 64 + b.toNat % 64))
      else .pending ⟨q.remaining - 1, q.seen + 1, 0x80, 0xBF, q.bits * 64 + b.toNat % 64⟩ := by
  have hin : q.low ≤ b ∧ b ≤ q.high := ⟨UInt8.le_iff_toNat_le.mpr hlow,
    UInt8.le_iff_toNat_le.mpr hhigh⟩
  simp [Pending.next, hin, toNat_and_mask b 0x3F 6 rfl]

/-! ## Decoding steps on well-formed bytes -/

section
variable {o p : Nat} (rest : List UInt8) (acc : List Char)

/-- A continuation byte of a sequence with the full range: the last one ends the character,
any other leaves one fewer due. -/
theorem decodeFrom_continue {r s bits : Nat} {b : UInt8} (h1 : 0x80 ≤ b.toNat)
    (h2 : b.toNat ≤ 0xBF) :
    decodeFrom o p (some ⟨r, s, 0x80, 0xBF, bits⟩) (b :: rest) acc =
      if r ≤ 1 then
        decodeFrom (p + 1) (p + 1) none rest (Char.ofNat (bits * 64 + b.toNat % 64) :: acc)
      else decodeFrom o (p + 1) (some ⟨r - 1, s + 1, 0x80, 0xBF, bits * 64 + b.toNat % 64⟩)
        rest acc := by
  have hn := Pending.next_continue (q := ⟨r, s, 0x80, 0xBF, bits⟩) (b := b)
    (by simpa using h1) (by simpa using h2)
  by_cases hr : r ≤ 1
  · simp only [hr, if_true] at hn ⊢
    simp only [decodeFrom, hn]
  · simp only [hr, if_false] at hn ⊢
    simp only [decodeFrom, hn]

/-- A lead byte `C2`–`DF` opens a sequence of one more byte. -/
theorem decodeFrom_lead_two {b : UInt8} (h1 : 0xC2 ≤ b.toNat) (h2 : b.toNat < 0xE0) :
    decodeFrom o p none (b :: rest) acc =
      decodeFrom p (p + 1) (some ⟨1, 0, 0x80, 0xBF, b.toNat % 32⟩) rest acc := by
  simp only [decodeFrom, start_two h1 h2]

/-- A lead byte `E0`–`EF` and a second byte in its range open a sequence of one more byte. -/
theorem decodeFrom_lead_three {b c : UInt8} (h1 : 0xE0 ≤ b.toNat) (h2 : b.toNat < 0xF0)
    (hc1 : 0x80 ≤ c.toNat) (hc2 : c.toNat ≤ 0xBF) (hE : b.toNat = 0xE0 → 0xA0 ≤ c.toNat)
    (hD : b.toNat = 0xED → c.toNat ≤ 0x9F) :
    decodeFrom o p none (b :: c :: rest) acc =
      decodeFrom p (p + 1 + 1) (some ⟨1, 1, 0x80, 0xBF, b.toNat % 16 * 64 + c.toNat % 64⟩)
        rest acc := by
  have hn := Pending.next_continue (b := c)
    (q := ⟨2, 0, if b = 0xE0 then 0xA0 else 0x80, if b = 0xED then 0x9F else 0xBF, b.toNat % 16⟩)
    (by dsimp only; split <;> simp_all) (by dsimp only; split <;> simp_all)
  simp only [decodeFrom, start_three h1 h2, hn]
  rfl

/-- A lead byte `F0`–`F4` and a second byte in its range open a sequence of two more bytes. -/
theorem decodeFrom_lead_four {b c : UInt8} (h1 : 0xF0 ≤ b.toNat) (h2 : b.toNat < 0xF5)
    (hc1 : 0x80 ≤ c.toNat) (hc2 : c.toNat ≤ 0xBF) (hF0 : b.toNat = 0xF0 → 0x90 ≤ c.toNat)
    (hF4 : b.toNat = 0xF4 → c.toNat ≤ 0x8F) :
    decodeFrom o p none (b :: c :: rest) acc =
      decodeFrom p (p + 1 + 1) (some ⟨2, 1, 0x80, 0xBF, b.toNat % 8 * 64 + c.toNat % 64⟩)
        rest acc := by
  have hn := Pending.next_continue (b := c)
    (q := ⟨3, 0, if b = 0xF0 then 0x90 else 0x80, if b = 0xF4 then 0x8F else 0xBF, b.toNat % 8⟩)
    (by dsimp only; split <;> simp_all) (by dsimp only; split <;> simp_all)
  simp only [decodeFrom, start_four h1 h2, hn]
  rfl

end

/-! ## One character -/

section
variable (c : Char)

/-- The bits of a character's code, in the ranges of its encoding. -/
theorem code_valid : c.val.toNat < 0xD800 ∨ (0xDFFF < c.val.toNat ∧ c.val.toNat < 0x110000) :=
  c.valid

theorem ofNat_code : Char.ofNat c.val.toNat = c := Char.ofNat_toNat c

/-- **The decoder reads the encoding of a character as that character**, and is then between
characters again. -/
theorem decodeFrom_utf8EncodeChar (o p : Nat) (rest : List UInt8) (acc : List Char) :
    decodeFrom o p none (String.utf8EncodeChar c ++ rest) acc =
      decodeFrom (p + (String.utf8EncodeChar c).length) (p + (String.utf8EncodeChar c).length)
        none rest (c :: acc) := by
  have hvalid := code_valid c
  have hc := ofNat_code c
  dsimp only [String.utf8EncodeChar]
  generalize c.val.toNat = v at hvalid hc ⊢
  -- one case per length of the encoding, as the encoder splits on the code
  split
  · -- one byte: ASCII stands for itself
    next h1 =>
    have hb : (UInt8.ofNat v).toNat = v := toNat_ofNat_small (by omega)
    have hs : start (UInt8.ofNat v) = .scalar c := by
      rw [start_ascii (by rw [UInt8.lt_iff_toNat_lt, hb]; simp only [UInt8.reduceToNat]; omega),
        hb, hc]
    simp only [List.cons_append, List.nil_append, decodeFrom, hs, List.length_singleton]
  split
  · -- two bytes: five bits, then six
    next h1 h2 =>
    have hb0 := toNat_ofNat_small (n := v / 64 % 0x20 + 0xc0) (by omega)
    have hb1 := toNat_ofNat_small (n := v % 0x40 + 0x80) (by omega)
    rw [List.cons_append, List.cons_append, List.nil_append,
      decodeFrom_lead_two _ _ (by omega) (by omega), decodeFrom_continue _ _ (by omega) (by omega),
      if_pos (Nat.le_refl 1), hb0, hb1,
      show (v / 64 % 0x20 + 0xc0) % 32 * 64 + (v % 0x40 + 0x80) % 64 = v by omega, hc]
    rfl
  split
  · -- three bytes: four bits, then six and six; `E0` and `ED` narrow the second byte
    next h1 h2 h3 =>
    have hb0 := toNat_ofNat_small (n := v / 4096 % 0x10 + 0xe0) (by omega)
    have hb1 := toNat_ofNat_small (n := v / 64 % 0x40 + 0x80) (by omega)
    have hb2 := toNat_ofNat_small (n := v % 0x40 + 0x80) (by omega)
    -- after `E0` the code is at least `800`; after `ED` it is below the surrogates
    rw [List.cons_append, List.cons_append, List.cons_append, List.nil_append,
      decodeFrom_lead_three _ _ (by omega) (by omega) (by omega) (by omega) (by omega) (by omega),
      decodeFrom_continue _ _ (by omega) (by omega), if_pos (Nat.le_refl 1), hb0, hb1, hb2,
      show ((v / 4096 % 0x10 + 0xe0) % 16 * 64 + (v / 64 % 0x40 + 0x80) % 64) * 64 +
        (v % 0x40 + 0x80) % 64 = v by omega, hc]
    rfl
  · -- four bytes: three bits, then six, six and six; `F0` and `F4` narrow the second byte
    next h1 h2 h3 =>
    have hb0 := toNat_ofNat_small (n := v / 262144 % 0x08 + 0xf0) (by omega)
    have hb1 := toNat_ofNat_small (n := v / 4096 % 0x40 + 0x80) (by omega)
    have hb2 := toNat_ofNat_small (n := v / 64 % 0x40 + 0x80) (by omega)
    have hb3 := toNat_ofNat_small (n := v % 0x40 + 0x80) (by omega)
    -- after `F0` the code is at least `10000`; after `F4` it is at most `10FFFF`
    rw [List.cons_append, List.cons_append, List.cons_append, List.cons_append, List.nil_append,
      decodeFrom_lead_four _ _ (by omega) (by omega) (by omega) (by omega) (by omega) (by omega),
      decodeFrom_continue _ _ (by omega) (by omega), if_neg (by decide),
      decodeFrom_continue _ _ (by omega) (by omega), if_pos (by decide), hb0, hb1, hb2, hb3,
      show (((v / 262144 % 0x08 + 0xf0) % 8 * 64 + (v / 4096 % 0x40 + 0x80) % 64) * 64 +
        (v / 64 % 0x40 + 0x80) % 64) * 64 + (v % 0x40 + 0x80) % 64 = v by omega, hc]
    rfl

/-- A byte below `0x80` in the encoding of a character is the whole encoding of that character:
the bytes of longer encodings are all at least `0x80`. -/
theorem eq_of_ascii_mem_utf8EncodeChar {b : UInt8} (hb : b.toNat < 0x80)
    (h : b ∈ String.utf8EncodeChar c) : c = Char.ofNat b.toNat := by
  have hc := ofNat_code c
  dsimp only [String.utf8EncodeChar] at h
  generalize c.val.toNat = v at hc h
  split at h
  · rw [List.mem_singleton] at h
    subst h
    rw [toNat_ofNat_small (by omega), hc]
  split at h
  · simp only [List.mem_cons, List.not_mem_nil, or_false] at h
    rcases h with rfl | rfl <;> rw [toNat_ofNat_small (by omega)] at hb <;> omega
  split at h
  · simp only [List.mem_cons, List.not_mem_nil, or_false] at h
    rcases h with rfl | rfl | rfl <;> rw [toNat_ofNat_small (by omega)] at hb <;> omega
  · simp only [List.mem_cons, List.not_mem_nil, or_false] at h
    rcases h with rfl | rfl | rfl | rfl <;> rw [toNat_ofNat_small (by omega)] at hb <;> omega

end

/-! ## Whole texts -/

/-- A byte below `0x80` in the encoding of a text stands for a character of the text. -/
theorem ascii_mem_encode {b : UInt8} (hb : b.toNat < 0x80) {s : String} (h : b ∈ encode s) :
    Char.ofNat b.toNat ∈ s.toList := by
  obtain ⟨c, hc, hbc⟩ := List.mem_flatMap.mp h
  rw [← eq_of_ascii_mem_utf8EncodeChar c hb hbc]
  exact hc

theorem encode_eq_nil_iff {s : String} : encode s = [] ↔ s = "" := by
  rw [encode, List.flatMap_eq_nil_iff, ← String.toList_eq_nil_iff, List.eq_nil_iff_forall_not_mem]
  simp [String.utf8EncodeChar_ne_nil]

/-- Between characters, the decoder reads the encodings of a list of characters back as that
list. -/
theorem decodeFrom_flatMap_utf8EncodeChar (cs : List Char) (p : Nat) (acc : List Char) :
    decodeFrom p p none (cs.flatMap String.utf8EncodeChar) acc = .ok (acc.reverse ++ cs) := by
  -- one character at a time, each leaving the decoder between characters at a later position
  induction cs generalizing p acc with
  | nil => simp [decodeFrom]
  | cons c cs ih =>
    rw [List.flatMap_cons, decodeFrom_utf8EncodeChar, ih]
    simp

/-- The encoding of a text decodes to its characters. -/
theorem decodeChars?_encode (s : String) : decodeChars? (encode s) = .ok s.toList := by
  simpa [decodeChars?, encode] using decodeFrom_flatMap_utf8EncodeChar s.toList 0 []

/-- The encoding of a text decodes to the text. -/
theorem decode?_encode (s : String) : decode? (encode s) = .ok s := by
  simp [decode?, decodeChars?_encode, Except.map]

end Utf8
end Text
end ResourceKit

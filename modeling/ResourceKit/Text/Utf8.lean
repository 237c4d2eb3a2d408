/-!
# UTF-8, one byte at a time

A UTF-8 decoder as a small machine: `start` reads the first byte of a sequence and
`Pending.next` each continuation byte. A byte that cannot continue a sequence ends it as an
*ill-formed subpart*, whose length counts the lead byte and the continuation bytes accepted so
far (the maximal-subpart rule of the Unicode standard).

Two decoders are built on the machine:

* `decode?`, the strict one: the first ill-formed subpart, or input that ends inside a
  sequence, is reported as an `Error` giving where the valid prefix ends and how long the bad
  subpart is;
* `decodeLossy`, the replacing one: each ill-formed subpart becomes U+FFFD and decoding goes
  on; a sequence left unfinished at the end of the input is *held* rather than replaced, so a
  caller that feeds more bytes later gets the same characters as one that fed them at once.

**Results.**
* `decode?_ascii`: bytes below `0x80` decode to themselves.
-/

namespace ResourceKit
namespace Text
namespace Utf8

/-- A sequence begun and not yet finished: how many continuation bytes are still due, how many
were accepted, the range allowed for the next one, and the bits read so far. -/
structure Pending where
  remaining : Nat
  seen : Nat
  low : UInt8
  high : UInt8
  bits : Nat
deriving Repr, DecidableEq

/-- The effect of one byte on the machine. -/
inductive Step
  | scalar (c : Char)
  | pending (p : Pending)
  | illFormed (length : Nat)
deriving Repr, DecidableEq

/-- The first byte of a sequence: ASCII stands alone, `C2`–`F4` open a sequence (with the
narrower second-byte ranges after `E0`, `ED`, `F0` and `F4`), all else is ill-formed. -/
def start (b : UInt8) : Step :=
  if b < 0x80 then .scalar (Char.ofNat b.toNat)
  else if b < 0xC2 then .illFormed 1
  else if b < 0xE0 then .pending ⟨1, 0, 0x80, 0xBF, (b &&& 0x1F).toNat⟩
  else if b < 0xF0 then
    .pending ⟨2, 0, if b = 0xE0 then 0xA0 else 0x80, if b = 0xED then 0x9F else 0xBF,
      (b &&& 0x0F).toNat⟩
  else if b < 0xF5 then
    .pending ⟨3, 0, if b = 0xF0 then 0x90 else 0x80, if b = 0xF4 then 0x8F else 0xBF,
      (b &&& 0x07).toNat⟩
  else .illFormed 1

/-- A continuation byte: inside the allowed range it adds six bits, outside it ends the
sequence as an ill-formed subpart of the bytes accepted so far. -/
def Pending.next (p : Pending) (b : UInt8) : Step :=
  if p.low ≤ b ∧ b ≤ p.high then
    if p.remaining ≤ 1 then .scalar (Char.ofNat (p.bits * 64 + (b &&& 0x3F).toNat))
    else .pending ⟨p.remaining - 1, p.seen + 1, 0x80, 0xBF, p.bits * 64 + (b &&& 0x3F).toNat⟩
  else .illFormed (p.seen + 1)

/-- Where strict decoding stopped: the length of the valid prefix, and the length of the
ill-formed subpart after it, or `none` when the input ends inside a sequence. -/
structure Error where
  validUpTo : Nat
  errorLength : Option Nat
deriving Repr, DecidableEq

/-- The text of a strict decoding error. -/
def Error.message (e : Error) : String :=
  let index := e.validUpTo
  match e.errorLength with
  | some length => s!"invalid utf-8 sequence of {length} bytes from index {index}"
  | none => s!"incomplete utf-8 byte sequence from index {index}"

/-- Strict decoding from a position: `origin` is where the current sequence began, `pos` the
index of the next byte, `acc` the characters decoded so far, newest first. -/
def decodeFrom (origin pos : Nat) :
    Option Pending → List UInt8 → List Char → Except Error (List Char)
  | none, [], acc => .ok acc.reverse
  | some _, [], _ => .error ⟨origin, none⟩
  | none, b :: bs, acc =>
    match start b with
    | .scalar c => decodeFrom (pos + 1) (pos + 1) none bs (c :: acc)
    | .pending p => decodeFrom pos (pos + 1) (some p) bs acc
    | .illFormed n => .error ⟨pos, some n⟩
  | some p, b :: bs, acc =>
    match p.next b with
    | .scalar c => decodeFrom (pos + 1) (pos + 1) none bs (c :: acc)
    | .pending q => decodeFrom origin (pos + 1) (some q) bs acc
    | .illFormed n => .error ⟨origin, some n⟩

/-- The characters of well-formed UTF-8, or where it first goes wrong. -/
def decodeChars? (bytes : List UInt8) : Except Error (List Char) :=
  decodeFrom 0 0 none bytes []

/-- The text of well-formed UTF-8, or where it first goes wrong. -/
def decode? (bytes : List UInt8) : Except Error String :=
  (decodeChars? bytes).map String.ofList

/-- Whether bytes are well-formed UTF-8. -/
def IsValid (bytes : List UInt8) : Prop :=
  ∃ cs, decodeChars? bytes = .ok cs

/-- The replacement character. -/
def replacement : Char := '�'

/-- A byte read with nothing pending, by the replacing decoder. -/
def freshLossy (b : UInt8) : List Char × Option Pending :=
  match start b with
  | .scalar c => ([c], none)
  | .pending q => ([], some q)
  | .illFormed _ => ([replacement], none)

/-- One byte read by the replacing decoder: the characters it completes and what is held
after it. A byte that breaks a sequence yields U+FFFD and is then read afresh. -/
def feedLossy : Option Pending → UInt8 → List Char × Option Pending
  | none, b => freshLossy b
  | some p, b =>
    match p.next b with
    | .scalar c => ([c], none)
    | .pending q => ([], some q)
    | .illFormed _ => (replacement :: (freshLossy b).1, (freshLossy b).2)

/-- The replacing decoder over a list, from a held state, with characters so far newest first. -/
def lossyFrom : Option Pending → List UInt8 → List Char → List Char × Option Pending
  | s, [], acc => (acc.reverse, s)
  | s, b :: bs, acc =>
    let (cs, t) := feedLossy s b
    lossyFrom t bs (cs.reverse ++ acc)

/-- Replacing decoding: the characters, and the unfinished sequence held at the end. -/
def decodeLossy (bytes : List UInt8) : List Char × Option Pending :=
  lossyFrom none bytes []

/-- The characters a held sequence turns into when the input ends: one U+FFFD if anything is
held. -/
def flush : Option Pending → List Char
  | none => []
  | some _ => [replacement]

/-- The UTF-8 bytes of a text. -/
def encode (s : String) : List UInt8 :=
  s.toList.flatMap String.utf8EncodeChar

theorem start_ascii {b : UInt8} (h : b < 0x80) : start b = .scalar (Char.ofNat b.toNat) := by
  simp [start, h]

/-- Bytes below `0x80` decode to themselves. -/
theorem decode?_ascii (b : UInt8) (h : b < 0x80) :
    decodeChars? [b] = .ok [Char.ofNat b.toNat] := by
  simp [decodeChars?, decodeFrom, start_ascii h]

end Utf8
end Text
end ResourceKit

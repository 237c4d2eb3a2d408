import ResourceKit.Text.Utf8
import ResourceKit.Text.Utf16
import ResourceKit.Text.Windows1252

/-!
# Decoding with byte-order-mark sniffing

Text without a declared encoding is read as windows-1252 unless it opens with a byte-order
mark: `EF BB BF` selects UTF-8, `FF FE` UTF-16 little-endian and `FE FF` UTF-16 big-endian,
and the mark itself is dropped. A mark that is begun and then contradicted is ordinary
windows-1252 text.

A decoder that reads a stream piece by piece holds back what it cannot decide yet (a begun
mark, an unfinished sequence). `Decoded` therefore keeps two lists: the characters available
while the stream is still open, and the characters that only the end of the stream releases.

**Results.**
* `decode_of_mark_prefix`: a whole input that is a proper prefix of a mark is held back
  entirely, and released as windows-1252.
-/

namespace ResourceKit
namespace Text

/-- The encodings a mark can select. -/
inductive Scheme
  | windows1252
  | utf8
  | utf16 (order : Utf16.ByteOrder)
deriving Repr, DecidableEq

/-- Decoded text: what is available before the end, and what the end releases. -/
structure Decoded where
  chars : List Char
  held : List Char
deriving Repr, DecidableEq

namespace Sniffing

/-- The encoding selected by the first bytes, and the bytes after the mark. -/
def sniff : List UInt8 → Scheme × List UInt8
  | 0xEF :: 0xBB :: 0xBF :: rest => (.utf8, rest)
  | 0xFF :: 0xFE :: rest => (.utf16 .little, rest)
  | 0xFE :: 0xFF :: rest => (.utf16 .big, rest)
  | bytes => (.windows1252, bytes)

/-- Whether bytes are a proper, non-empty prefix of a mark. -/
def IsMarkPrefix : List UInt8 → Bool
  | [0xEF] | [0xEF, 0xBB] | [0xFF] | [0xFE] => true
  | _ => false

/-- The characters of bytes in a chosen encoding. -/
def decodeIn : Scheme → List UInt8 → Decoded
  | .windows1252, bytes => ⟨Windows1252.decode bytes, []⟩
  | .utf8, bytes =>
    let (cs, pending) := Utf8.decodeLossy bytes
    ⟨cs, Utf8.flush pending⟩
  | .utf16 order, bytes =>
    let (cs, h) := Utf16.decode order bytes
    ⟨cs, Utf16.flush h⟩

/-- The text of a whole input: a proper prefix of a mark is held until the end, anything else
is decoded in the encoding its first bytes select. -/
def decode (bytes : List UInt8) : Decoded :=
  if IsMarkPrefix bytes then ⟨[], Windows1252.decode bytes⟩
  else decodeIn (sniff bytes).1 (sniff bytes).2

/-- A whole input that is a proper prefix of a mark is held back entirely. -/
theorem decode_of_mark_prefix {bytes : List UInt8} (h : IsMarkPrefix bytes = true) :
    decode bytes = ⟨[], Windows1252.decode bytes⟩ := by
  simp [decode, h]

end Sniffing
end Text
end ResourceKit

/-!
# windows-1252

The single-byte code page used for text that carries no byte-order mark. Bytes below `0x80`
and from `0xA0` up stand for the code point of the same value; the row `0x80`–`0x9F` holds
typographic characters, and its five unassigned bytes (`81`, `8D`, `8F`, `90`, `9D`) stand
for the C1 control of the same value, so that every byte decodes and decoding never fails.
-/

namespace ResourceKit
namespace Text
namespace Windows1252

/-- Code points of the bytes `0x80`–`0x9F`, in order. -/
def row : List Nat :=
  [0x20AC, 0x0081, 0x201A, 0x0192, 0x201E, 0x2026, 0x2020, 0x2021,
   0x02C6, 0x2030, 0x0160, 0x2039, 0x0152, 0x008D, 0x017D, 0x008F,
   0x0090, 0x2018, 0x2019, 0x201C, 0x201D, 0x2022, 0x2013, 0x2014,
   0x02DC, 0x2122, 0x0161, 0x203A, 0x0153, 0x009D, 0x017E, 0x0178]

/-- The code point a byte stands for. -/
def codePoint (b : UInt8) : Nat :=
  if 0x80 ≤ b.toNat ∧ b.toNat < 0xA0 then row.getD (b.toNat - 0x80) 0 else b.toNat

/-- The character a byte stands for. -/
def decodeByte (b : UInt8) : Char :=
  Char.ofNat (codePoint b)

/-- The characters of a byte string. -/
def decode (bytes : List UInt8) : List Char :=
  bytes.map decodeByte

/-- The euro sign opens the row, the five unassigned bytes keep their value, and `Ÿ` closes
it. -/
example :
    codePoint 0x80 = 0x20AC ∧ codePoint 0x81 = 0x81 ∧ codePoint 0x8D = 0x8D ∧
      codePoint 0x8F = 0x8F ∧ codePoint 0x90 = 0x90 ∧ codePoint 0x9D = 0x9D ∧
      codePoint 0x9F = 0x178 ∧ codePoint 0xA0 = 0xA0 ∧ codePoint 0x41 = 0x41 := by
  decide

end Windows1252
end Text
end ResourceKit

import ResourceKit.Text.GraphemeExtend
import ResourceKit.Text.Printable

/-!
# Quoted text

Text is quoted between double quotes. NUL, tab, carriage return and line feed are written
`\0`, `\t`, `\r`, `\n`; the backslash and the double quote are escaped by a backslash; a
grapheme extender or an unprintable character is written `\u{…}` with its code point in
lower-case hexadecimal. Every other character stands for itself.
-/

namespace ResourceKit
namespace Text

/-- Lower-case hexadecimal digits of a number. -/
def hexDigits (n : Nat) : List Char :=
  (Nat.toDigits 16 n).map Char.toLower

/-- A character as a `\u{…}` escape. -/
def unicodeEscape (c : Char) : List Char :=
  ['\\', 'u', '\x7b'] ++ hexDigits c.toNat ++ ['\x7d']

/-- The written form of one character inside quotes. -/
def escapeChar (c : Char) : List Char :=
  if c = '\x00' then ['\\', '0']
  else if c = '\t' then ['\\', 't']
  else if c = '\r' then ['\\', 'r']
  else if c = '\n' then ['\\', 'n']
  else if c = '\\' then ['\\', '\\']
  else if c = '"' then ['\\', '"']
  else if IsGraphemeExtend c || !IsPrintable c then unicodeEscape c
  else [c]

/-- Text between double quotes, escaped. -/
def quote (s : String) : String :=
  String.ofList ('"' :: (s.toList.flatMap escapeChar ++ ['"']))

/-- Plain text is only enclosed in quotes. -/
example : quote "ab" = "\"ab\"" := by
  decide +kernel

/-- A combining accent is written as an escape. -/
example : escapeChar '\u0301' = ['\\', 'u', '\x7b', '3', '0', '1', '\x7d'] := by
  decide +kernel

end Text
end ResourceKit

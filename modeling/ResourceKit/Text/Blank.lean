/-!
# Blank characters

Two classes of blank are in use. `IsSpacing` is the five characters a properties line treats
as blanks between its parts (space, tab, line feed, carriage return, form feed). `IsBlank` is
the Unicode White_Space property, which decides what is trimmed from the start of a
continued line; it includes the no-break space and the next-line control.

**Results.**
* `isBlank_of_isSpacing`: every spacing character is blank.
* `isBlank_of_isWhitespace`: every character core calls whitespace is blank.
-/

namespace ResourceKit
namespace Text

/-- The ranges of the White_Space property, as inclusive code point bounds. -/
def whiteSpaceRanges : List (Nat × Nat) :=
  [(0x09, 0x0D), (0x20, 0x20), (0x85, 0x85), (0xA0, 0xA0), (0x1680, 0x1680),
   (0x2000, 0x200A), (0x2028, 0x2029), (0x202F, 0x202F), (0x205F, 0x205F),
   (0x3000, 0x3000)]

/-- Whether a code point lies in one of a list of inclusive ranges. -/
def inRanges (ranges : List (Nat × Nat)) (n : Nat) : Bool :=
  ranges.any fun r => r.1 ≤ n && n ≤ r.2

/-- Unicode White_Space. -/
def IsBlank (c : Char) : Bool :=
  inRanges whiteSpaceRanges c.toNat

/-- The blanks between the parts of a properties line. -/
def IsSpacing (c : Char) : Bool :=
  c = ' ' || c = '\t' || c = '\n' || c = '\r' || c = '\x0c'

/-- Every spacing character is blank. -/
theorem isBlank_of_isSpacing {c : Char} (h : IsSpacing c = true) : IsBlank c = true := by
  simp only [IsSpacing, Bool.or_eq_true, decide_eq_true_eq] at h
  rcases h with (((h | h) | h) | h) | h <;> subst h <;> decide

/-- Every character core calls whitespace is blank. -/
theorem isBlank_of_isWhitespace {c : Char} (h : c.isWhitespace = true) : IsBlank c = true := by
  simp only [Char.isWhitespace, Bool.or_eq_true, decide_eq_true_eq] at h
  rcases h with ((h | h) | h) | h <;> subst h <;> decide

end Text
end ResourceKit

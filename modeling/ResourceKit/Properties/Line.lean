import ResourceKit.Text.Blank

/-!
# The parts of a properties line

After leading blanks (space, tab, line feed, carriage return, form feed), a line is a comment
if it starts with `#` or `!`; the comment's text is the rest without its surrounding blanks.
Otherwise the line is a key, then a separator, then a value:

* the key runs up to the first blank, `:` or `=` that is not escaped by a backslash;
* the separator is blanks, then one `:` or `=`, then blanks; failing that, one or more blanks;
* the value is everything after the separator, trailing blanks included.

A line with a key but no separator has the empty value; a line with neither has no content.
The parts are returned still escaped.
-/

namespace ResourceKit
namespace Properties

open Text

/-- The content of one logical line, before escapes are decoded. -/
inductive Content
  | comment (text : List Char)
  | entry (key value : List Char)
  | nothing
deriving Repr, DecidableEq

/-- Whether a character ends a key when it is not escaped. -/
def EndsKey (c : Char) : Bool :=
  IsSpacing c || c = ':' || c = '='

/-- The escaped key at the start of a text and the text after it, with the key characters so
far newest first. A backslash keeps the character after it in the key. -/
def takeKey (acc : List Char) : List Char → List Char × List Char
  | [] => (acc.reverse, [])
  | ['\\'] => (('\\' :: acc).reverse, [])
  | '\\' :: c :: rest => takeKey (c :: '\\' :: acc) rest
  | c :: rest => if EndsKey c then (acc.reverse, c :: rest) else takeKey (c :: acc) rest

/-- The value after a key: skip a separator of blanks around one `:` or `=`, or of blanks
alone. -/
def valueAfter (rest : List Char) : List Char :=
  match rest.dropWhile IsSpacing with
  | c :: more => if c = ':' ∨ c = '=' then more.dropWhile IsSpacing else c :: more
  | [] => []

/-- The content of a logical line. -/
def Content.ofLine (line : List Char) : Content :=
  match line.dropWhile IsSpacing with
  | [] => .nothing
  | c :: rest =>
    if c = '#' ∨ c = '!' then
      .comment ((rest.dropWhile IsSpacing).reverse.dropWhile IsSpacing).reverse
    else
      match takeKey [] (c :: rest) with
      | (key, []) => if key = [] then .nothing else .entry key []
      | (key, more) => .entry key (valueAfter more)

/-- Whether a physical line opens a comment. -/
def IsCommentStart (line : List Char) : Bool :=
  match line.dropWhile IsSpacing with
  | c :: _ => c = '#' || c = '!'
  | [] => false

/-- `k=v` is the key `k` with the value `v`. -/
example : Content.ofLine ['k', '=', 'v'] = .entry ['k'] ['v'] := by
  decide

end Properties
end ResourceKit

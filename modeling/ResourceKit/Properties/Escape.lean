/-!
# Escapes in properties text

Inside keys, values and comments a backslash escapes the next character: `\t`, `\n`, `\f`
and `\r` stand for the controls, `\uXXXX` for a UTF-16 code unit given by four characters,
and any other escaped character for itself. A backslash with nothing after it stands for
NUL.

The four characters of `\u` are read as an unsigned base-16 number that may carry one leading
`+` and has ASCII digits only; a code unit that is a surrogate names no character.

**Results.**
* `unescape_plain`: text without backslashes is its own meaning.
-/

namespace ResourceKit
namespace Properties

/-- Why an escape is malformed. -/
inductive EscapeProblem
  | tooFewDigits
  | notHex
  | surrogate
deriving Repr, DecidableEq

/-- The text of a malformed escape. -/
def EscapeProblem.text : EscapeProblem → String
  | .tooFewDigits => "Malformed \\uxxxx encoding: not enough digits."
  | .notHex => "Malformed \\uxxxx encoding: not hex."
  | .surrogate => "Malformed \\uxxxx encoding: invalid character."

/-- The value of an ASCII hexadecimal digit. -/
def hexDigit? (c : Char) : Option Nat :=
  if '0' ≤ c ∧ c ≤ '9' then some (c.toNat - '0'.toNat)
  else if 'a' ≤ c ∧ c ≤ 'f' then some (c.toNat - 'a'.toNat + 10)
  else if 'A' ≤ c ∧ c ≤ 'F' then some (c.toNat - 'A'.toNat + 10)
  else none

/-- The value of a non-empty run of hexadecimal digits, most significant first. -/
def hexDigits? : List Char → Option Nat
  | [] => none
  | cs => cs.foldlM (fun acc c => (hexDigit? c).map (acc * 16 + ·)) 0

/-- A code unit written as unsigned base 16, with at most one leading `+`. -/
def codeUnit? : List Char → Option Nat
  | '+' :: digits => hexDigits? digits
  | digits => hexDigits? digits

/-- The character of a `\u` escape's four characters. -/
def unitChar (digits : List Char) : Except EscapeProblem Char :=
  match codeUnit? digits with
  | none => .error .notHex
  | some u =>
    if 0xD800 ≤ u ∧ u < 0xE000 then .error .surrogate else .ok (Char.ofNat u)

/-- The meaning of escaped text, with the characters decoded so far newest first. -/
def unescapeInto (acc : List Char) : List Char → Except EscapeProblem (List Char)
  | [] => .ok acc.reverse
  | ['\\'] => .ok ('\x00' :: acc).reverse
  | '\\' :: 't' :: rest => unescapeInto ('\t' :: acc) rest
  | '\\' :: 'n' :: rest => unescapeInto ('\n' :: acc) rest
  | '\\' :: 'f' :: rest => unescapeInto ('\x0c' :: acc) rest
  | '\\' :: 'r' :: rest => unescapeInto ('\r' :: acc) rest
  | '\\' :: 'u' :: a :: b :: c :: d :: rest =>
    match unitChar [a, b, c, d] with
    | .ok ch => unescapeInto (ch :: acc) rest
    | .error e => .error e
  | '\\' :: 'u' :: _ => .error .tooFewDigits
  | '\\' :: c :: rest => unescapeInto (c :: acc) rest
  | c :: rest => unescapeInto (c :: acc) rest

/-- The meaning of escaped text. -/
def unescape (cs : List Char) : Except EscapeProblem (List Char) :=
  unescapeInto [] cs

/-- A leading `+` is allowed. -/
example : codeUnit? ['+', '0', '4', '1'] = some 0x41 := by
  decide

theorem unescapeInto_plain (acc : List Char) (cs : List Char) (h : '\\' ∉ cs) :
    unescapeInto acc cs = .ok (acc.reverse ++ cs) := by
  induction cs generalizing acc with
  | nil => simp [unescapeInto]
  | cons c rest ih =>
    have hc : c ≠ '\\' := fun e => h (e ▸ List.mem_cons_self)
    have hr : '\\' ∉ rest := fun m => h (List.mem_cons_of_mem _ m)
    rw [unescapeInto.eq_def]
    split <;> simp_all

/-- Text without backslashes is its own meaning. -/
theorem unescape_plain (cs : List Char) (h : '\\' ∉ cs) : unescape cs = .ok cs := by
  simp [unescape, unescapeInto_plain [] cs h]

end Properties
end ResourceKit

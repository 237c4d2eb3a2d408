/-!
# Cutting bytes into lines

A line ends at a carriage return followed by a line feed, at a lone carriage return, or at a
lone line feed. `cut` splits a byte string into the lines it terminates and the unterminated
rest after the last terminator; `pieces` is the lines of a whole input, where a non-empty rest
is a last line and an empty one is no line.
-/

namespace ResourceKit
namespace Lines

/-- Carriage return. -/
def cr : UInt8 := 13

/-- Line feed. -/
def lf : UInt8 := 10

/-- Cutting with the current line's bytes newest first and the finished lines newest first. -/
def cutFrom (acc : List UInt8) (done : List (List UInt8)) :
    List UInt8 → List (List UInt8) × List UInt8
  | [] => (done.reverse, acc.reverse)
  | 13 :: 10 :: rest => cutFrom [] (acc.reverse :: done) rest
  | 13 :: rest => cutFrom [] (acc.reverse :: done) rest
  | 10 :: rest => cutFrom [] (acc.reverse :: done) rest
  | b :: rest => cutFrom (b :: acc) done rest

/-- The terminated lines of a byte string and the rest after the last terminator. -/
def cut (bytes : List UInt8) : List (List UInt8) × List UInt8 :=
  cutFrom [] [] bytes

/-- The lines of a whole input. -/
def pieces (bytes : List UInt8) : List (List UInt8) :=
  (cut bytes).1 ++ (if (cut bytes).2 = [] then [] else [(cut bytes).2])

/-- A carriage return and line feed together end one line. -/
example : cut [0x61, 13, 10, 0x62] = ([[0x61]], [0x62]) := rfl

end Lines
end ResourceKit

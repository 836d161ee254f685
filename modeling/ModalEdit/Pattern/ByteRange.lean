import ModalEdit.Pattern.CharSet

/-!
Characters as sequences of bytes: a range of code points is a list of sequences of byte ranges,
each of which stands for all the texts that take one byte from each range.
-/

set_option autoImplicit false

namespace ModalEdit.Pattern

/-- The bytes from one to another. -/
abbrev ByteRange := Nat × Nat

namespace ByteRange

/-- The bytes of a code point. -/
def bytesOf (code : Nat) : List Nat :=
  if code < 0x80 then [code]
  else if code < 0x800 then [0xC0 + code / 64, 0x80 + code % 64]
  else if code < 0x10000 then [0xE0 + code / 4096, 0x80 + code / 64 % 64, 0x80 + code % 64]
  else
    [0xF0 + code / 262144, 0x80 + code / 4096 % 64, 0x80 + code / 64 % 64, 0x80 + code % 64]

/-- The code points that take as many bytes as each other, and are no halves of a pair. -/
def blocks : List (Nat × Nat) :=
  [(0, 0x7F), (0x80, 0x7FF), (0x800, 0xD7FF), (0xE000, 0xFFFF), (0x10000, 0x10FFFF)]

/-- A code point at which a range has to be cut: where one of its ends lies inside a unit of code
points that the range goes beyond. -/
def cut? (first last : Nat) : Option Nat :=
  [64, 4096, 262144].findSome? fun unit =>
    if first / unit = last / unit then none
    else if first % unit ≠ 0 then some ((first / unit + 1) * unit)
    else if last % unit ≠ unit - 1 then some (last / unit * unit)
    else none

/-- Cuts a range into pieces that are sequences of byte ranges. There are at most two cuts for each
of the three units. -/
def pieces : (cuts : Nat) → (first last : Nat) → List (Nat × Nat)
  | 0, first, last => [(first, last)]
  | cuts + 1, first, last =>
    match cut? first last with
    | none => [(first, last)]
    | some cut => pieces cuts first (cut - 1) ++ pieces cuts cut last

/-- The sequences of byte ranges for a range of code points. -/
def sequences (first last : Nat) : List (List ByteRange) :=
  blocks.flatMap fun (start, stop) =>
    let first := max first start
    let last := min last stop
    if last < first then []
    else if last < 0x80 then [[(first, last)]]
    else (pieces 8 first last).map fun (a, b) => (bytesOf a).zip (bytesOf b)

end ByteRange

/-- The sequences of byte ranges for the characters of a set. -/
def CharSet.sequences (set : CharSet) : List (List ByteRange) :=
  set.ranges.flatMap fun (first, last) => ByteRange.sequences first last

end ModalEdit.Pattern

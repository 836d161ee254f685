/-!
Sets of characters given as ranges of code points.
-/

set_option autoImplicit false

namespace ModalEdit.Text

/-- The character with this code point, if there is one. -/
def charOfCode? (code : Nat) : Option Char :=
  if code.isValidChar then some (Char.ofNat code) else none

/-- Whether a range of the list, ends included, covers the character. -/
def inRanges (ranges : List (Nat × Nat)) (c : Char) : Bool :=
  ranges.any fun range => range.1 ≤ c.toNat && c.toNat ≤ range.2

/-- As `inRanges`, for ranges that take every `step`-th code point only. -/
def inSteppedRanges (ranges : List (Nat × Nat × Nat)) (c : Char) : Bool :=
  ranges.any fun (first, last, step) =>
    first ≤ c.toNat && c.toNat ≤ last && (c.toNat - first) % step == 0

theorem inRanges_nil (c : Char) : inRanges [] c = false := rfl

theorem inRanges_cons (range : Nat × Nat) (ranges : List (Nat × Nat)) (c : Char) :
    inRanges (range :: ranges) c
      = ((range.1 ≤ c.toNat && c.toNat ≤ range.2) || inRanges ranges c) := rfl

end ModalEdit.Text

import ModalEdit.Script.Value.Compare

/-!
Patterns of escaped text. Each character of the text becomes a symbol that stands for itself, the
symbols become an expression of single characters in a row, and its program spells the text out from
the last step down.
-/

set_option autoImplicit false

namespace ModalEdit.Pattern

/-! ### Escaped text -/

/-- The expression of a text, character by character. -/
def Regex.ofText (text : List Char) : Regex :=
  .sequence (text.map .char)

variable {flags : Flags}

/-- The step in front of the rest of a text. -/
def Step.spelling : List Char → Step
  | [] => .accept
  | c :: rest => .take (.single c) rest.length

/-- The program takes the characters of a text one after the other; each step is as far from the
last one as characters are left. -/
structure Program.SpellsOut (program : Program) (text : List Char) : Prop where
  start : program.start = text.length
  size : program.steps.size = text.length + 1
  steps : ∀ rest, rest <:+ text → program.steps[rest.length]? = some (.spelling rest)

theorem Program.SpellsOut.push {program : Program} {rest : List Char}
    (spells : program.SpellsOut rest) (c : Char) :
    (program.push (.take (.single c))).SpellsOut (c :: rest) := by
  constructor
  · exact spells.size
  · show (program.steps.push _).size = _
    rw [Array.size_push, spells.size, List.length_cons]
  · intro later isLater
    show (program.steps.push _)[later.length]? = _
    rcases List.suffix_cons_iff.mp isLater with rfl | isEarlier
    · rw [Array.getElem?_push, List.length_cons, spells.size, if_pos rfl, spells.start]
      rfl
    · have isBelow := isEarlier.length_le
      rw [Array.getElem?_push, spells.size, if_neg (by omega)]
      exact spells.steps later isEarlier

end ModalEdit.Pattern

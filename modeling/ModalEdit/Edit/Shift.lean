import ModalEdit.Edit.Span
import ModalEdit.Workspace

/-!
Shifting lines: indents that grow or shrink by whole steps.
-/

set_option autoImplicit false

namespace ModalEdit

/-- Blanks of a width: tabs and then spaces, or spaces alone. -/
def indentText (width tabStop : Nat) (expand : Bool) : List Char :=
  if expand ∨ tabStop = 0 then List.replicate width ' '
  else List.replicate (width / tabStop) '\t' ++ List.replicate (width % tabStop) ' '

namespace Window

/-- The screen width of the blanks that a line begins with. -/
def indentWidth (window : Window) (line : Nat) : Nat :=
  window.displayColumn (window.text.firstNonBlank line)

end Window

namespace Workspace

/-- Gives a line an indent of a width. -/
def setIndent (space : Workspace) (line width : Nat) : Workspace :=
  space.replace (space.text.lineStart line) (space.text.firstNonBlank line)
    (indentText width space.tabStop (space.options.flag "expandtab"))

/-- Shifts a line by a number of columns. An empty line gets no indent. -/
def shiftLine (space : Workspace) (right : Bool) (columns line : Nat) : Workspace :=
  let width := space.window.indentWidth line
  let shifted := if right then Number.wrapAdd width columns else width - columns
  if right ∧ space.text.lineLength line = 0 ∨ shifted = width then space
  else space.setIndent line shifted

/-- Shifts lines by a number of steps. -/
def shiftLines (space : Workspace) (first last : Nat) (right : Bool) (times : Nat) : Workspace :=
  let columns := Number.wrapMul space.shiftWidth times
  (space.text.linesWithin first last).foldl (fun space line => space.shiftLine right columns line)
    space

end Workspace

end ModalEdit

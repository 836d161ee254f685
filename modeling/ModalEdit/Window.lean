import ModalEdit.Caret.Set
import ModalEdit.Document
import ModalEdit.Ruler

/-!
A window on a text: the text itself, the carets in it, and the lines and columns that are seen.
-/

set_option autoImplicit false

namespace ModalEdit

/-- The part of a text that is seen. The view may reach beyond the text. -/
structure View where
  top : Nat := 0
  left : Nat := 0
  height : Nat := 35
  width : Nat := 80
deriving DecidableEq, Inhabited

/-- The last line that is seen. -/
def View.bottom (view : View) : Nat :=
  view.top + (view.height - 1)

/-- The last column that is seen. -/
def View.right (view : View) : Nat :=
  view.left + (view.width - 1)

/-- A mark drawn between characters, at a line and a screen column. It belongs to the text before
it or behind it. -/
structure Inlay where
  line : Nat
  column : Nat
  withPreceding : Bool
deriving DecidableEq, Inhabited

namespace Ruler

/-- The screen column of an offset. What lies behind the end of a line has the column of the
end. -/
def columnOf (ruler : Ruler) (text : Document) (offset : Nat) : Nat :=
  let line := text.lineOf offset
  ruler.columnAfter 0 (text.slice (text.lineStart line) (min offset (text.lineEnd line)))

/-- The character of a line that covers a screen column, or the end of the line. Lines behind the
last one stand for it. -/
def offsetAt (ruler : Ruler) (text : Document) (line column : Nat) : Nat :=
  let line := min line text.lastLine
  text.lineStart line + ruler.countBefore column 0 (text.lineText line)

end Ruler

structure Window where
  text : Document
  carets : CaretSet := .single (.ofOffset 0)
  view : View := {}
  tabWidth : Nat := 8
  inlays : List Inlay := []
deriving Inhabited

namespace Window

/-- The widths of characters in the window. -/
def ruler (window : Window) : Ruler where
  tab := max window.tabWidth 1

/-- The screen column of an offset. -/
def displayColumn (window : Window) (offset : Nat) : Nat :=
  window.ruler.columnOf window.text offset

/-- The screen column behind the last character of a line. -/
def lineWidth (window : Window) (line : Nat) : Nat :=
  window.displayColumn (window.text.lineEnd line)

/-- The offset that a line and a screen column name. -/
def offsetAtColumn (window : Window) (line column : Nat) : Nat :=
  window.ruler.offsetAt window.text line column

/-- The offset of the primary caret. -/
def caret (window : Window) : Nat :=
  window.carets.primary.offset

/-- The offset of the primary caret, or the end of the text where the caret is behind it. -/
def caretInText (window : Window) : Nat :=
  min window.caret window.text.length

def caretLine (window : Window) : Nat :=
  window.text.lineOf window.caretInText

def caretColumn (window : Window) : Nat :=
  window.displayColumn window.caretInText

/-- Line and column of an offset. Behind the end of the text the columns of the last line go on. -/
def positionOf (window : Window) (offset : Nat) : Position :=
  let line := window.text.lineOf offset
  ⟨line, offset - window.text.lineStart line⟩

/-- The offset of a position. Lines behind the last one stand for it, and columns behind the end
of a line for the end, as long as start and column do not add up to more than the largest count. -/
def offsetOf (window : Window) (position : Position) : Nat :=
  let line := min position.line (window.text.lineCount - 1)
  min (Number.wrapAdd (window.text.lineStart line) position.column) (window.text.lineEnd line)

/-- The window with a single caret at a position. -/
def placeCaret (window : Window) (position : Position) : Window :=
  { window with carets := .single (.ofOffset (window.text.offsetOf position)) }

/-- The window scrolled to a first line and column. The first line is a line of the text. -/
def scrollTo (window : Window) (top left : Nat) : Window :=
  { window with view := { window.view with top := min top window.text.lastLine, left } }

/-- The window with tab stops of a width, which is at least one. -/
def setTabWidth (window : Window) (width : Nat) : Window :=
  { window with tabWidth := max width 1 }

/-- The first inlay at a place. -/
def inlayAt? (window : Window) (line column : Nat) : Option Inlay :=
  window.inlays.find? fun inlay => inlay.line = line && inlay.column = column

end Window

end ModalEdit

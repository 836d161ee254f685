import ModalEdit.Digraph
import ModalEdit.History
import ModalEdit.Options.Basic
import ModalEdit.Register
import ModalEdit.Scroll

/-!
What commands work on: the window with its text and carets, the options, the registers, the
digraphs, and the history that records every change of the text.
-/

set_option autoImplicit false

namespace ModalEdit

/-- Where an offset is once the text between two others has been replaced. Places inside that
text move to its start. -/
def shiftOffset (start stop inserted offset : Nat) : Nat :=
  if stop ≤ offset then offset - (stop - start) + inserted
  else if start < offset then start
  else offset

structure Workspace where
  window : Window
  options : Options := {}
  registers : RegisterFile := {}
  history : History := {}
  digraphs : Digraphs := {}

namespace Workspace

def text (space : Workspace) : Document :=
  space.window.text

def carets (space : Workspace) : CaretSet :=
  space.window.carets

/-- The workspace with other carets. -/
def setCarets (space : Workspace) (carets : CaretSet) : Workspace :=
  { space with window := { space.window with carets } }

/-- The workspace with every caret changed. -/
def mapCarets (space : Workspace) (f : Caret → Caret) : Workspace :=
  space.setCarets (space.carets.map f)

/-- Moves a caret, which forgets its column. -/
def moveCaret (space : Workspace) (index offset : Nat) : Workspace :=
  space.setCarets (space.carets.modify index (·.moveTo offset))

/-- Takes the selection from every caret. -/
def clearAnchors (space : Workspace) : Workspace :=
  space.mapCarets Caret.clearAnchor

/-- Replaces the text between two offsets. The change is recorded, and carets and anchors go with
the text. -/
def replace (space : Workspace) (start stop : Nat) (inserted : List Char) : Workspace :=
  let shift := shiftOffset start stop inserted.length
  let (history, text) := space.history.replace space.text start stop inserted
  let carets := space.carets.map fun caret =>
    { caret with offset := shift caret.offset, anchor? := caret.anchor?.map shift }
  { space with history, window := { space.window with text, carets } }

/-- Inserts text at an offset. -/
def insert (space : Workspace) (offset : Nat) (inserted : List Char) : Workspace :=
  space.replace offset offset inserted

/-- Removes the text between two offsets. -/
def remove (space : Workspace) (start stop : Nat) : Workspace :=
  space.replace start stop []

/-- Opens a transaction, unless one is open. -/
def begin (space : Workspace) : Workspace :=
  if space.history.inTransaction then space
  else { space with history := space.history.begin space.window.caret }

/-- Ends the open transaction at the primary caret. -/
def commit (space : Workspace) : Workspace :=
  { space with history := space.history.commit space.window.caret }

/-- Takes in text for a register. -/
def record (space : Workspace) (name? : Option Char) (register : Register) (capture : Capture) :
    Workspace :=
  { space with registers := space.registers.record name? register capture }

/-- What scrolling takes from the options. -/
def scrollContext (space : Workspace) (pastEnd : Bool) : ScrollContext where
  scrolloff := space.options.count "scrolloff"
  sidescrolloff := space.options.count "sidescrolloff"
  sidescroll := space.options.count "sidescroll"
  startOfLine := space.options.flag "startofline"
  pastEnd := pastEnd

/-- The width of a tab stop for indents. -/
def tabStop (space : Workspace) : Nat :=
  max (space.options.count "tabstop") 1

/-- The columns of one step of an indent: those of the option, or a tab stop. -/
def shiftWidth (space : Workspace) : Nat :=
  let width := space.options.count "shiftwidth"
  if width = 0 then space.tabStop else width

/-- Runs an edit at each caret, the last in the text first. The edit gives the new place of the
caret, or nothing where it cannot be done. Whether it could be done anywhere is answered too. -/
def editAtCarets (space : Workspace) (edit : Workspace → Nat → Option (Workspace × Nat)) :
    Workspace × Bool :=
  space.carets.descending.foldl
    (fun (space, any) index =>
      match edit space (space.carets.offsetAt index) with
      | some (space, place) => (space.moveCaret index place, true)
      | none => (space, any))
    (space, false)

theorem text_setCarets (space : Workspace) (carets : CaretSet) :
    (space.setCarets carets).text = space.text := rfl

theorem text_replace (space : Workspace) (start stop : Nat) (inserted : List Char) :
    (space.replace start stop inserted).text = space.text.replace start stop inserted := rfl

theorem text_begin (space : Workspace) : space.begin.text = space.text := by
  simp only [begin]
  split <;> rfl

theorem text_commit (space : Workspace) : space.commit.text = space.text := rfl

end Workspace

end ModalEdit

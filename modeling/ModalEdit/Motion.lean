import ModalEdit.Caret
import ModalEdit.Document.Word

/-!
Motions: the ways to name a place relative to a caret, and what it means to reach one.
-/

set_option autoImplicit false

namespace ModalEdit

/-- The search for a character on a line: on it, or next to it. -/
structure Find where
  char : Char
  forward : Bool
  till : Bool
deriving DecidableEq, Inhabited

/-- The same search the other way. -/
def Find.reversed (find : Find) : Find :=
  { find with forward := !find.forward }

inductive Motion where
  | left
  | right
  | up
  | down
  | lineStart
  | firstNonBlank
  | lineEnd
  | wordStart (kind : WordKind)
  | wordBack (kind : WordKind)
  | wordEnd (kind : WordKind)
  | firstLine
  | lastLine
  | find (find : Find)
  /-- A search made again: it passes over a character right next to the caret. -/
  | repeatFind (find : Find)
  | paragraphForward
  | paragraphBackward
  | windowTop
  | windowMiddle
  | windowBottom
  | nextLine
  | previousLine
  | currentLine
  | column
deriving DecidableEq, Inhabited

/-- What an operator takes in between the caret and the target of a motion. -/
inductive Wise where
  /-- The text before the target. -/
  | exclusive
  /-- The target as well. -/
  | inclusive
  /-- Whole lines. -/
  | linewise
deriving DecidableEq, Inhabited

/-- Where a motion leads, and the column that the caret keeps from then on. -/
structure Landing where
  offset : Nat
  wise : Wise
  sticky? : Option StickyColumn := none
deriving DecidableEq, Inhabited

/-- What a motion depends on beside the text. -/
structure MotionContext where
  /-- Whether the caret may stand behind the last character of a line. -/
  pastEnd : Bool := false
  /-- Whether an operator acts on the text up to the target. -/
  operator : Bool := false
  scrolloff : Nat := 0
deriving DecidableEq, Inhabited

end ModalEdit

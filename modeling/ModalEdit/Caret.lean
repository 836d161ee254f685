/-!
Carets: where text is typed and where commands act.
-/

set_option autoImplicit false

namespace ModalEdit

/-- The screen column that moves from line to line try to keep. -/
inductive StickyColumn where
  | column (column : Nat)
  /-- The end of whatever line is reached. -/
  | lineEnd
deriving DecidableEq, Inhabited

/-- A caret, with the column that it keeps and the place where its selection began. -/
structure Caret where
  offset : Nat
  sticky? : Option StickyColumn := none
  anchor? : Option Nat := none
deriving DecidableEq, Inhabited

namespace Caret

/-- A caret without selection. -/
def ofOffset (offset : Nat) : Caret where
  offset

/-- The caret at another place. It forgets its column and keeps its anchor. -/
def moveTo (caret : Caret) (offset : Nat) : Caret :=
  { caret with offset, sticky? := none }

/-- The caret without its selection. -/
def clearAnchor (caret : Caret) : Caret :=
  { caret with anchor? := none }

/-- The lower and the upper end of the selection. -/
def bounds? (caret : Caret) : Option (Nat × Nat) :=
  caret.anchor?.map fun anchor => (min anchor caret.offset, max anchor caret.offset)

end Caret

end ModalEdit

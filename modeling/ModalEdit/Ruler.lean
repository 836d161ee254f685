import ModalEdit.Text.Width

/-!
Screen columns along a line: how far each character moves on, and which character covers a column.
-/

set_option autoImplicit false

namespace ModalEdit

/-- The width of characters on the screen. A tab goes on to the next multiple of `tab`. -/
structure Ruler where
  tab : Nat
  width : Char → Nat := fun c => (Text.cellWidth? c).getD 0

namespace Ruler

/-- The width of a character drawn at a column. -/
def widthAt (ruler : Ruler) (column : Nat) (c : Char) : Nat :=
  if c = '\t' then ruler.tab - column % ruler.tab else ruler.width c

/-- The column behind a character drawn at a column. -/
def advance (ruler : Ruler) (column : Nat) (c : Char) : Nat :=
  column + ruler.widthAt column c

/-- The column behind text drawn from a column on. -/
def columnAfter (ruler : Ruler) (column : Nat) (chars : List Char) : Nat :=
  chars.foldl ruler.advance column

/-- How many characters stand before the one that covers `target`, when the first is drawn at
`column`. All of them, when none covers it. -/
def countBefore (ruler : Ruler) (target : Nat) : (column : Nat) → List Char → Nat
  | _, [] => 0
  | column, c :: rest =>
    if target < ruler.advance column c then 0
    else 1 + ruler.countBefore target (ruler.advance column c) rest

/-- How many characters are drawn at columns before `target`, when the first is drawn at
`column`. -/
def countBelow (ruler : Ruler) (target : Nat) : (column : Nat) → List Char → Nat
  | _, [] => 0
  | column, c :: rest =>
    if target ≤ column then 0
    else 1 + ruler.countBelow target (ruler.advance column c) rest

theorem columnAfter_nil (ruler : Ruler) (column : Nat) : ruler.columnAfter column [] = column := rfl

theorem columnAfter_cons (ruler : Ruler) (column : Nat) (c : Char) (rest : List Char) :
    ruler.columnAfter column (c :: rest) = ruler.columnAfter (ruler.advance column c) rest := rfl

theorem columnAfter_append (ruler : Ruler) (column : Nat) (first rest : List Char) :
    ruler.columnAfter column (first ++ rest) =
      ruler.columnAfter (ruler.columnAfter column first) rest :=
  List.foldl_append

theorem countBefore_le (ruler : Ruler) (target column : Nat) (chars : List Char) :
    ruler.countBefore target column chars ≤ chars.length := by
  induction chars generalizing column with
  | nil => simp [countBefore]
  | cons c rest ih =>
    have next := ih (ruler.advance column c)
    simp only [countBefore, List.length_cons]
    split <;> omega

theorem countBelow_le (ruler : Ruler) (target column : Nat) (chars : List Char) :
    ruler.countBelow target column chars ≤ chars.length := by
  induction chars generalizing column with
  | nil => simp [countBelow]
  | cons c rest ih =>
    have next := ih (ruler.advance column c)
    simp only [countBelow, List.length_cons]
    split <;> omega

end Ruler

end ModalEdit

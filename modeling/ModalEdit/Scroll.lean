import ModalEdit.Motion.Resolve

/-!
Scrolling: moving the view over the text, and keeping the primary caret inside it.
-/

set_option autoImplicit false

namespace ModalEdit

/-- What came of a scroll command. -/
inductive Movement where
  | moved
  /-- Nothing moved, and the bell rings or not. -/
  | stayed (bell : Bool)
deriving DecidableEq, Inhabited

/-- The options that scrolling depends on. -/
structure ScrollContext where
  scrolloff : Nat := 0
  sidescrolloff : Nat := 0
  /-- The least number of columns to scroll sideways. -/
  sidescroll : Nat := 0
  /-- Whether pages put the caret on the first character that is not blank. -/
  startOfLine : Bool := true
  pastEnd : Bool := false
deriving DecidableEq, Inhabited

/-- Where in the window a line is put. -/
inductive ScreenPlace where
  | top
  | middle
  | bottom
deriving DecidableEq, Inhabited

/-- A distance to the edge of the window, at most half of the window. -/
def edgeDistance (distance span : Nat) : Nat :=
  min distance ((span - 1) / 2)

/-- The lines that half a page scrolls: the value of the option, or half the window. -/
def halfPageAmount (option height : Nat) : Nat :=
  max 1 (if option = 0 then height / 2 else option)

/-- The value between two bounds nearest to a given one. -/
def clampBetween (low high value : Nat) : Nat :=
  if value < low then low else if high < value then high else value

namespace Window

/-- The window with the primary caret at a place, keeping a column from then on. -/
def setPrimary (window : Window) (offset : Nat) (sticky? : Option StickyColumn) : Window :=
  { window with carets := window.carets.modifyPrimary ({ · with offset, sticky? }) }

/-- The window scrolled to a first line and column, if it is not there already. -/
def scrollView (window : Window) (top left : Nat) : Window :=
  if top = window.view.top ∧ left = window.view.left then window else window.scrollTo top left

/-- The window with the primary caret on a line: on its first character that is not blank, or in
the column that the caret keeps. -/
def placeOnLine (window : Window) (line : Nat) (firstNonBlank pastEnd : Bool) : Window :=
  let text := window.text
  let shown := min line text.lastLine
  let limit := text.lineLimit shown pastEnd
  if firstNonBlank then window.setPrimary (min (text.firstNonBlank shown) limit) none
  else
    let sticky := window.carets.primary.sticky?.getD (.column window.caretColumn)
    let place :=
      match sticky with
      | .lineEnd => limit
      | .column column => min (window.offsetAtColumn line column) limit
    window.setPrimary place (some sticky)

/-- The first line of a view that shows the caret line, as near to the old one as possible. -/
def topForCaret (window : Window) (context : ScrollContext) : Nat :=
  let off := edgeDistance context.scrolloff window.view.height
  let top := min window.view.top (window.caretLine - off)
  let needed := min (window.caretLine + off) window.text.lastLine
  if top + window.view.height - 1 < needed then needed - (window.view.height - 1) else top

/-- The first column of a view that shows the caret column, as near to the old one as the least
sideways step permits. -/
def leftForCaret (window : Window) (context : ScrollContext) : Nat :=
  let off := edgeDistance context.sidescrolloff window.view.width
  let left := window.view.left
  let leftNeeded := window.caretColumn - off
  let rightNeeded := window.caretColumn + off
  if leftNeeded < left then min leftNeeded (left - context.sidescroll)
  else if left + window.view.width - 1 < rightNeeded then
    max (rightNeeded - (window.view.width - 1)) (min (left + context.sidescroll) leftNeeded)
  else left

/-- Whether nothing of the text can be seen. -/
def isHidden (window : Window) : Bool :=
  window.view.height == 0 || window.view.width == 0

/-- Scrolls as little as shows the primary caret. -/
def scrollToCaret (window : Window) (context : ScrollContext) : Window :=
  if window.isHidden then window
  else window.scrollView (window.topForCaret context) (window.leftForCaret context)

/-- Moves the primary caret as little as puts it into the view. -/
def moveCaretIntoView (window : Window) (context : ScrollContext) : Window :=
  if window.isHidden then window
  else
    let view := window.view
    let last := window.text.lastLine
    let off := edgeDistance context.scrolloff view.height
    let maxLine := if last ≤ view.bottom then last else view.bottom - off
    let minLine := min (if view.top = 0 then 0 else view.top + off) maxLine
    let line := clampBetween minLine maxLine window.caretLine
    let sideOff := edgeDistance context.sidescrolloff view.width
    let minColumn := if view.left = 0 then 0 else view.left + sideOff
    let maxColumn := max (view.right - sideOff) minColumn
    let column := clampBetween minColumn maxColumn window.caretColumn
    if column ≠ window.caretColumn then
      let limit := window.text.lineLimit (min line last) context.pastEnd
      window.setPrimary (min (window.offsetAtColumn line column) limit) none
    else if line ≠ window.caretLine then window.placeOnLine line false context.pastEnd
    else window

/-- Scrolls by whole pages, each two lines shorter than the window. -/
def scrollPages (window : Window) (down : Bool) (count : Nat) (context : ScrollContext) :
    Window × Movement :=
  let view := window.view
  if view.height = 0 then (window, .stayed true)
  else
    let last := window.text.lastLine
    let off := edgeDistance context.scrolloff view.height
    let step := Number.wrapMul (max (view.height - 2) 1) (max count 1)
    let current := window.caretLine
    let (top, target) :=
      if down then
        let top := min (Number.wrapAdd view.top step) (max (last - 1) view.top)
        (top, max current (if top = 0 then 0 else min (top + off) last))
      else
        let top := view.top - step
        let bottom := top + view.height - 1
        (top, min current (if last ≤ bottom then last else bottom - off))
    let scrolled := window.scrollView top view.left
    if target ≠ current then
      (scrolled.placeOnLine target context.startOfLine context.pastEnd, .moved)
    else if top ≠ view.top then (scrolled, .moved)
    else (scrolled, .stayed (current + 1 < last))

/-- Scrolls by a number of lines, and moves the caret as far. -/
def scrollHalfPage (window : Window) (down : Bool) (amount : Nat) (context : ScrollContext) :
    Window × Movement :=
  let view := window.view
  let last := window.text.lastLine
  let current := window.caretLine
  if view.height = 0 ∨ !down ∧ current = 0 ∨ down ∧ last ≤ current then (window, .stayed true)
  else
    let off := edgeDistance context.scrolloff view.height
    let amount := clampBetween 1 view.height amount
    let (top, target) :=
      if down then
        let top := min (view.top + amount) (max (last - (view.height - 1)) view.top)
        let lower := if top = 0 then 0 else top + off
        let upper := min (top + view.height - 1) last
        (top, clampBetween (min lower upper) upper (current + amount))
      else
        let top := view.top - amount
        let bottom := top + view.height - 1
        let upper := if last ≤ bottom then last else bottom - off
        (top, clampBetween (min top upper) upper (current - amount))
    ((window.scrollView top view.left).placeOnLine target context.startOfLine context.pastEnd,
      .moved)

/-- Scrolls by lines. The caret moves only if it would be out of the view. -/
def scrollLines (window : Window) (down : Bool) (count : Nat) (context : ScrollContext) :
    Window × Movement :=
  let view := window.view
  let count := max count 1
  let top :=
    if down then min (Number.wrapAdd view.top count) window.text.lastLine else view.top - count
  if top = view.top then (window, .stayed false)
  else ((window.scrollView top view.left).moveCaretIntoView context, .moved)

/-- Puts the caret line, or the line of a count, at a place in the window. -/
def scrollLineTo (window : Window) (place : ScreenPlace) (count? : Option Nat)
    (firstNonBlank : Bool) (context : ScrollContext) : Window :=
  let view := window.view
  let last := window.text.lastLine
  let off := edgeDistance context.scrolloff view.height
  let current := window.caretLine
  let line := (count?.map fun count => min (max count 1 - 1) last).getD current
  let top :=
    match place with
    | .top => line - off
    | .middle => line - (view.height - 1) / 2
    | .bottom => min (line + off) last - (view.height - 1)
  let scrolled := window.scrollView top view.left
  if line ≠ current ∨ firstNonBlank then scrolled.placeOnLine line firstNonBlank context.pastEnd
  else scrolled

/-- Scrolls by columns. A view to the right does not begin right behind an inlay that belongs to
the text behind it. -/
def scrollColumns (window : Window) (right : Bool) (count : Nat) (context : ScrollContext) :
    Window × Movement :=
  let view := window.view
  let count := max count 1
  let line := window.caretLine
  let left :=
    if right then
      let widest := window.lineWidth line - 1
      let column := max (min (Number.wrapAdd view.left count) widest) view.left
      let isCut := (window.inlayAt? line (column - 1)).any (!·.withPreceding)
      if 0 < column ∧ isCut then column + 1 else column
    else view.left - count
  if left = view.left then (window, .stayed false)
  else ((window.scrollView view.top left).moveCaretIntoView context, .moved)

/-- Scrolls sideways until the caret is at the left or at the right edge. -/
def scrollColumnToEdge (window : Window) (leftEdge : Bool) (context : ScrollContext) : Window :=
  let view := window.view
  let column := window.caretColumn
  let off := edgeDistance context.sidescrolloff view.width
  let left :=
    if leftEdge then column - off
    else
      let widest := max (window.lineWidth window.caretLine - 1) column
      min (column + off) widest - (view.width - 1)
  window.scrollView view.top left

end Window

end ModalEdit

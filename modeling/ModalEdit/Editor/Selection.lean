import ModalEdit.Editor.Scrolling

/-!
Selections: beginning them, changing their kind, and extending them with the cursor keys.
-/

set_option autoImplicit false

namespace ModalEdit

namespace Editor

/-- Begins a selection at every caret. -/
def enterVisual (editor : Editor) (kind : SelectionKind) (target : ReturnMode) : Editor :=
  { editor.update (·.mapCarets fun caret => { caret with anchor? := some caret.offset }) with
    mode := .visual kind target }

/-- The place behind the character at an offset, on the same line. -/
def behind (editor : Editor) (offset : Nat) : Nat :=
  min (offset + 1) (editor.text.lineEnd (editor.text.lineOf offset))

/-- Begins a selection that typed text replaces. It takes in the character of the caret, or
nothing. -/
def enterSelect (editor : Editor) (kind : SelectionKind) (target : ReturnMode)
    (withCharacter : Bool) : Editor :=
  let begin (caret : Caret) : Caret :=
    { caret with
      anchor? := some caret.offset
      offset :=
        if withCharacter ∧ kind ≠ .line then editor.behind caret.offset else caret.offset }
  { editor.update (·.mapCarets begin) with mode := .select kind target }

/-- Selects again what was selected last. -/
def selectAgain (editor : Editor) : Outcome :=
  let editor := editor.clearPending
  match editor.lastSelection? with
  | none => editor.reject
  | some last =>
    let length := editor.text.length
    let place (caret : Caret) : Caret :=
      { caret.moveTo (min last.caret length) with anchor? := some (min last.anchor length) }
    { editor.update fun space => space.setCarets (space.carets.retainPrimary.modifyPrimary place) with
      mode := .visual last.kind .normal }.done

/-- Turns a selection into one that typed text replaces. The caret goes behind the last character
of it. -/
def visualToSelect (editor : Editor) (kind : SelectionKind) (target : ReturnMode) : Outcome :=
  let move (caret : Caret) : Caret :=
    if caret.anchor?.any (· ≤ caret.offset) then
      { caret with offset := editor.behind caret.offset }
    else caret
  let moved := if kind = .line then editor else editor.update (·.mapCarets move)
  { moved with mode := .select kind target }.done

/-- Turns a selection back into one for commands. The caret goes onto the last character of it. -/
def selectToVisual (editor : Editor) (kind : SelectionKind) (target : ReturnMode) : Outcome :=
  let move (caret : Caret) : Caret :=
    if caret.anchor?.any (· < caret.offset) then { caret with offset := caret.offset - 1 }
    else caret
  let moved := if kind = .line then editor else editor.update (·.mapCarets move)
  { moved with mode := .visual kind target }.done

/-- Changes the kind of a selection. The same kind again ends it. -/
def switchSelection (editor : Editor) (wanted kind : SelectionKind) (target : ReturnMode) :
    Outcome :=
  let editor := editor.clearPending
  if wanted = kind then (editor.endSelection target).done
  else { editor with mode := .visual wanted target }.done

/-- Moves the carets by a cursor key, and leaves the anchors where they are. -/
def extendBy (editor : Editor) (key : Key) : Outcome :=
  match key.code with
  | .pageUp => editor.scrollByPages false
  | .pageDown => editor.scrollByPages true
  | _ => key.motion?.elim editor.reject editor.moveBy

/-- What a cursor key does with shift where it begins no selection: words and pages. -/
def moveShifted (editor : Editor) (key : Key) : Outcome :=
  match key.code with
  | .left => editor.moveBy (.wordBack .small)
  | .right => editor.moveBy (.wordStart .small)
  | .up | .pageUp => editor.scrollByPages false
  | .down | .pageDown => editor.scrollByPages true
  | _ => key.unshifted.motion?.elim editor.reject editor.moveBy

/-- What a named key does with shift outside a selection: the options say whether it begins one,
and of which sort. -/
def shiftedKey (editor : Editor) (key : Key) (target : ReturnMode) : Outcome :=
  if editor.options.hasToken "keymodel" "startsel" then
    let begun :=
      if editor.options.hasToken "selectmode" "key" then
        editor.enterSelect .character target false
      else editor.enterVisual .character target
    begun.extendBy key.unshifted
  else editor.moveShifted key

/-- The screen columns of a block between two places: the left one, and the one behind the right
one if it does not go to the end of each line. -/
def blockColumns (window : Window) (anchor : Nat) (caret : Caret) (exclusive : Bool) :
    Nat × Option Nat :=
  let anchorColumn := window.displayColumn anchor
  let caretColumn := window.displayColumn caret.offset
  let left := min anchorColumn caretColumn
  if caret.sticky? = some .lineEnd then (left, none)
  else
    let (offset, column) :=
      if caretColumn ≤ anchorColumn then (anchor, anchorColumn) else (caret.offset, caretColumn)
    if exclusive then (left, some (max column (left + 1)))
    else
      let width := (window.text[offset]?.map (window.ruler.widthAt column)).getD 1
      (left, some (column + max width 1))

/-- What the selection of a caret takes in. A block may go to the end of each line. -/
def selectionSpan? (window : Window) (caret : Caret) (kind : SelectionKind)
    (exclusive toLineEnd : Bool) : Option Span :=
  caret.anchor?.bind fun anchor =>
    let text := window.text
    let low := min anchor caret.offset
    let high := max anchor caret.offset
    match kind with
    | .character =>
      let stop := if exclusive then high else min (high + 1) text.length
      if stop ≤ low then none else some (.chars low stop)
    | .line => some (.lines (text.lineOf low) (text.lineOf high))
    | .block =>
      let (left, right?) := blockColumns window anchor caret exclusive
      some (.block (text.lineOf low) (text.lineOf high) left (if toLineEnd then none else right?))

/-- The selection of a caret in this editor. -/
def spanOf? (editor : Editor) (caret : Caret) (kind : SelectionKind) (toLineEnd : Bool) :
    Option Span :=
  selectionSpan? editor.window caret kind editor.selectsExclusively toLineEnd

/-- Puts a caret at each place, the primary one at the first. -/
def placeCarets (editor : Editor) : List Nat → Editor
  | [] => editor
  | first :: rest =>
    let place (caret : Caret) : Caret := (caret.moveTo first).clearAnchor
    editor.update fun space =>
      space.setCarets
        (rest.foldl (fun carets offset => carets.add (.ofOffset offset))
          (space.carets.retainPrimary.modifyPrimary place))

end Editor

end ModalEdit

import ModalEdit.Editor.Normal

/-!
Visual mode: commands on selections.
-/

set_option autoImplicit false

namespace ModalEdit

namespace Editor

/-- Applies an operator to what the caret of a number has selected. -/
def operateOnCaret (operator : Operator) (kind : SelectionKind) (register? : Option Char)
    (steps : Nat) (toLineEnd : Bool) (state : Editor × List Nat) (index : Nat) :
    Editor × List Nat :=
  let (editor, places) := state
  match editor.carets.get? index with
  | none => (editor, places)
  | some caret =>
    match editor.spanOf? caret kind toLineEnd with
    | some span =>
      let (editor, more) := editor.applyAt index operator span register? steps
      (editor, places ++ more)
    | none =>
      match caret.anchor? with
      | some anchor => (editor.update (·.moveCaret index (min anchor caret.offset)), places)
      | none => (editor, places)

/-- Applies an operator to every selection, and ends them. A change goes on typing. -/
def operateOnSelections (editor : Editor) (operator : Operator) (kind : SelectionKind)
    (target : ReturnMode) (register? : Option Char) (steps : Nat) (toLineEnd : Bool) : Outcome :=
  let remembered := (editor.mode.selectionKind?.map editor.rememberSelection).getD editor
  let begun := remembered.update (·.begin)
  let (applied, places) := begun.carets.descending.foldl
    (operateOnCaret operator kind register? steps toLineEnd) (begun, [])
  let cleared := applied.update (·.clearAnchors)
  if operator = .change then
    if 1 < places.length then
      let typing := (cleared.placeCarets places).startTyping .insert 1 false
      { typing with typing := { typing.typing with block := true } }.done
    else (cleared.startTyping .insert 1 false).done
  else ((cleared.update (·.commit)).enterAgain target.mode).done

/-- Joins the lines of the primary selection. -/
def joinSelection (editor : Editor) (kind : SelectionKind) (target : ReturnMode) (spaces : Bool) :
    Outcome :=
  let remembered := editor.rememberSelection kind
  match remembered.spanOf? remembered.carets.primary kind false with
  | none => remembered.reject
  | some span =>
    let (first, last) := span.lineBounds remembered.text
    let begun := (remembered.endSelection target).update (·.begin)
    match begun.joinLines first (last - first + 1) spaces with
    | none => (begun.update (·.commit)).reject
    | some (space, place) =>
      { begun with
        toWorkspace := (space.moveCaret space.carets.primaryIndex place).commit }.done

/-- Puts a register in the place of the selection of a caret. -/
def putOnCaret (kind : SelectionKind) (register? : Option Char) (state : Editor × Bool)
    (index : Nat) : Editor × Bool :=
  let (editor, any) := state
  let span? := (editor.carets.get? index).bind fun caret => editor.spanOf? caret kind false
  match span?.bind fun span => editor.replaceWithRegister span register? with
  | some (space, place) => ({ editor with toWorkspace := space.moveCaret index place }, true)
  | none => (editor, any)

/-- Puts a register in the place of every selection. -/
def putOnSelections (editor : Editor) (kind : SelectionKind) (target : ReturnMode)
    (register? : Option Char) : Outcome :=
  let begun := (editor.rememberSelection kind).update (·.begin)
  let (put, any) := begun.carets.descending.foldl (putOnCaret kind register?) (begun, false)
  { put.update (fun space => space.clearAnchors.commit) with mode := target.mode }.doneIf any

/-- Replaces what the caret of a number has selected by a character. -/
def fillAtCaret (kind : SelectionKind) (c : Char) (editor : Editor) (index : Nat) : Editor :=
  let span? := (editor.carets.get? index).bind fun caret => editor.spanOf? caret kind false
  match span? with
  | some span =>
    let (space, place) := editor.fillSpan span c
    { editor with toWorkspace := space.moveCaret index place }
  | none => editor

/-- Takes a key for the character that every selected one becomes. -/
def fillKey (editor : Editor) (kind : SelectionKind) (target : ReturnMode) (key : Key) :
    Outcome :=
  let editor := editor.clearPending
  if key = .escape then editor.done
  else
    match key.target?.filter (· != '\n') with
    | none => editor.reject
    | some c =>
      let begun := (editor.rememberSelection kind).update (·.begin)
      let filled := begun.carets.descending.foldl (fillAtCaret kind c) begun
      { filled.update (fun space => space.clearAnchors.commit) with mode := target.mode }.done

/-- Where text for a block is typed: on each of its lines, before it or behind it. -/
def blockPlaces (window : Window) (first last left : Nat) (right? : Option Nat) (append : Bool) :
    List Nat :=
  let lines := List.range' first (last + 1 - first)
  if append then
    lines.map fun line =>
      (right?.map (window.blockColumn line)).getD (window.text.lineEnd line)
  else (lines.filter (left ≤ window.lineWidth ·)).map (window.blockColumn · left)

/-- Types text before or behind a block, on each of its lines. -/
def insertAtBlock (editor : Editor) (append : Bool) : Outcome :=
  let remembered := editor.rememberSelection .block
  match remembered.spanOf? remembered.carets.primary .block false with
  | some (.block first last left right?) =>
    let places := blockPlaces remembered.window first last left right? append
    if places.isEmpty then remembered.reject
    else
      let typing :=
        ((remembered.placeCarets places).update (·.begin)).startTyping .insert 1 false
      { typing with typing := { typing.typing with block := 1 < places.length } }.done
  | _ => remembered.reject

/-- Moves each caret to the other end of its selection. -/
def swapEnds (editor : Editor) : Outcome :=
  let swap (caret : Caret) : Caret :=
    match caret.anchor? with
    | some anchor => { caret.moveTo anchor with anchor? := some caret.offset }
    | none => caret
  (editor.update (·.mapCarets swap)).done

/-- The commands of a character on selections. Some take whole lines, or a block up to the end of
its lines. -/
def selectionCommandOfChar (editor : Editor) (kind : SelectionKind) (target : ReturnMode) (c : Char)
    (count : Nat) (register? : Option Char) : Outcome :=
  let onKind (operator : Operator) (steps : Nat) : Outcome :=
    editor.operateOnSelections operator kind target register? steps false
  let onLines (operator : Operator) : Outcome :=
    editor.operateOnSelections operator .line target register? 1 false
  let toLineEnd (operator : Operator) : Outcome :=
    if kind = .block then editor.operateOnSelections operator kind target register? 1 true
    else onLines operator
  match c with
  | 'v' => editor.switchSelection .character kind target
  | 'V' => editor.switchSelection .line kind target
  | 'o' | 'O' => editor.swapEnds
  | ':' => ((editor.endSelection .normal).openPrompt "'<,'>".toList).done
  | 'd' | 'x' => onKind .delete 1
  | 'D' => toLineEnd .delete
  | 'X' => onLines .delete
  | 'y' => onKind .yank 1
  | 'Y' => onLines .yank
  | 'c' | 's' => onKind .change 1
  | 'C' => toLineEnd .change
  | 'S' | 'R' => onLines .change
  | '>' => onKind .shiftRight count
  | '<' => onKind .shiftLeft count
  | '~' => onKind .toggleCase 1
  | 'u' => onKind .lowercase 1
  | 'U' => onKind .uppercase 1
  | 'J' => editor.joinSelection kind target true
  | 'p' | 'P' => editor.putOnSelections kind target register?
  | 'I' => if kind = .block then editor.insertAtBlock false else editor.reject
  | 'A' => if kind = .block then editor.insertAtBlock true else editor.reject
  | _ => editor.reject

/-- The commands of a single key on selections. -/
def selectionCommand (editor : Editor) (kind : SelectionKind) (target : ReturnMode) (key : Key) :
    Outcome :=
  let (editor, count?, register?) := editor.takePending
  if key.isPlain && key.code == .delete then
    editor.operateOnSelections .delete kind target register? 1 false
  else
    key.printable?.elim editor.reject fun c =>
      editor.selectionCommandOfChar kind target c (max (count?.getD 1) 1) register?

/-- The keys behind `g` in visual mode. -/
def visualAfterG (editor : Editor) (kind : SelectionKind) (target : ReturnMode) (key : Key) :
    Outcome :=
  match key.printable? with
  | some 'g' => editor.moveBy .firstLine
  | some 'J' => editor.clearPending.joinSelection kind target false
  | some 'v' => editor.selectAgain
  | _ => editor.reject

/-- Takes a key again in the mode that a selection came from. -/
def pressAgain (editor : Editor) (key : Key) : Outcome :=
  if editor.mode.isTyping then editor.pressTyping key else editor.pressNormal key

/-- What a cursor key does in visual mode: with shift or without, the options say whether the
selection goes on. -/
def visualCursorKey? (editor : Editor) (target : ReturnMode) (key : Key) : Option Outcome :=
  let has (token : String) : Bool := editor.options.hasToken "keymodel" token
  if key.isShiftedNamed then
    some (if has "continuevisual" then editor.extendBy key.unshifted else editor.moveShifted key)
  else if key.isCursorKey then
    some (if has "stopvisual" || has "stopsel" then (editor.endSelection target).pressAgain key
      else editor.extendBy key)
  else none

/-- Takes a key in visual mode that begins a command or is one. -/
def visualKey (editor : Editor) (kind : SelectionKind) (target : ReturnMode) (key : Key) :
    Outcome :=
  if key = .escape ∨ key.isCtrl 'c' then (editor.clearPending.endSelection target).done
  else
    (editor.countKey? key).getD <|
      if key.isCtrl 'v' then editor.switchSelection .block kind target
      else if key.isCtrl 'g' then editor.visualToSelect kind target
      else
        (editor.visualCursorKey? target key <|> editor.motionStart? key none
            <|> editor.commandStart? key <|> editor.scrollKey? key
            <|> key.motion?.map editor.moveBy).getD <|
          editor.selectionCommand kind target key

/-- Takes a key in visual mode. -/
def pressVisual (editor : Editor) (kind : SelectionKind) (target : ReturnMode) (key : Key) :
    Outcome :=
  let rest := editor.stopWaiting
  match editor.pending.awaited with
  | .afterG => rest.visualAfterG kind target key
  | .afterZ => rest.scrollAfterZ key
  | .registerName => rest.registerKey key
  | .findTarget forward till => rest.findKey key forward till none
  | .replacement => rest.fillKey kind target key
  | .markToReach linewise => rest.markKey key linewise none
  | _ => rest.visualKey kind target key

/-- What a cursor key does to a selection that typed text replaces. -/
def selectCursorKey? (editor : Editor) (target : ReturnMode) (key : Key) : Option Outcome :=
  let has (token : String) : Bool := editor.options.hasToken "keymodel" token
  if key.isShiftedNamed then
    some (if has "continueselect" || has "startsel" then editor.extendBy key.unshifted
      else editor.moveShifted key)
  else if key.isCursorKey then
    some (if has "stopselect" || has "stopsel" then (editor.endSelection target).pressAgain key
      else editor.extendBy key)
  else none

/-- Takes a key in select mode. Typed text takes the place of the selection. Places of a block that
were found before an earlier block went are not moved along, so they may be behind the end of the
text. -/
def pressSelect (editor : Editor) (kind : SelectionKind) (target : ReturnMode) (key : Key) :
    Outcome :=
  let onSelections (operator : Operator) : Outcome :=
    editor.operateOnSelections operator kind target none 1 false
  if key = .escape ∨ key.isCtrl 'c' then (editor.endSelection target).done
  else if key.isCtrl 'g' then editor.selectToVisual kind target
  else
    (editor.selectCursorKey? target key).getD <|
      if key.isCtrl 'h' ∨ key.code = .backspace ∨ key.code = .delete then onSelections .delete
      else if key.printable?.isSome ∨ key.code = .enter ∨ key.code = .tab then
        (onSelections .change).1.countStrays.pressTyping key
      else editor.reject

end Editor

end ModalEdit

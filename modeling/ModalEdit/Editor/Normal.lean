import ModalEdit.Edit.Line
import ModalEdit.Edit.Put
import ModalEdit.Editor.Typing

/-!
Normal mode, and the keys behind an operator.
-/

set_option autoImplicit false

namespace ModalEdit

/-- Where text is typed first, relative to a caret. -/
inductive InsertPlace where
  | here
  | behind
  | firstNonBlank
  | lineStart
  | lineEnd
deriving DecidableEq, Inhabited

/-- The offset of a place for a caret at an offset. -/
def InsertPlace.resolve (text : Document) (offset : Nat) : InsertPlace → Nat
  | here => offset
  | behind =>
    let line := text.lineOf offset
    if 0 < text.lineLength line then min (offset + 1) (text.lineEnd line) else offset
  | firstNonBlank => text.firstNonBlank (text.lineOf offset)
  | lineStart => text.lineStart (text.lineOf offset)
  | lineEnd => text.lineEnd (text.lineOf offset)

namespace Editor

/-- Begins to insert text at a place, to be typed `times` times. -/
def startInsert (editor : Editor) (place : InsertPlace) (times : Nat) : Outcome :=
  let text := editor.text
  let move (caret : Caret) : Caret := caret.moveTo (place.resolve text caret.offset)
  ((editor.update fun space => (space.mapCarets move).begin).startTyping .insert times false).done

/-- Opens a line below or above each caret to insert text. -/
def openLine (editor : Editor) (below : Bool) (times : Nat) : Outcome :=
  let openAt (space : Workspace) (index : Nat) : Workspace :=
    let line := space.text.lineOf (space.carets.offsetAt index)
    if below then
      let stop := space.text.lineEnd line
      (space.insert stop ['\n']).moveCaret index (stop + 1)
    else
      let start := space.text.lineStart line
      (space.insert start ['\n']).moveCaret index start
  let begun := editor.update (·.begin)
  ((begun.update fun space => space.carets.descending.foldl openAt space).startTyping .insert times
    true).done

/-- Runs an edit at every caret as one transaction. -/
def editCarets (editor : Editor) (edit : Workspace → Nat → Option (Workspace × Nat)) : Outcome :=
  let (space, any) := editor.begin.editAtCarets edit
  { editor with toWorkspace := space.commit }.doneIf any

/-- Puts a register at every caret. -/
def putRegister (editor : Editor) (register? : Option Char) (after : Bool) (count : Nat) :
    Outcome :=
  editor.editCarets fun space offset => space.paste register? after count offset

/-- Joins lines at a caret, unless its line has been joined already. -/
def joinAt (count : Nat) (spaces : Bool) (state : Workspace × Bool × List Nat) (index : Nat) :
    Workspace × Bool × List Nat :=
  let (space, any, finished) := state
  let line := space.text.lineOf (space.carets.offsetAt index)
  if finished.contains line then (space, any, finished)
  else
    match space.joinLines line count spaces with
    | some (joined, place) => (joined.moveCaret index place, true, line :: finished)
    | none => (space, any, line :: finished)

/-- Joins lines at every caret. -/
def joinAtCarets (editor : Editor) (count : Nat) (spaces : Bool) : Outcome :=
  let begun := editor.begin
  let (space, any, _) := begun.carets.descending.foldl (joinAt count spaces) (begun, false, [])
  { editor with toWorkspace := space.commit }.doneIf any

/-- Takes back or makes again up to `count` transactions, and answers the last caret place. -/
def runHistory (redo : Bool) : (count : Nat) → (caret? : Option Nat) → Workspace →
    Workspace × Option Nat
  | 0, caret?, space => (space, caret?)
  | count + 1, caret?, space =>
    let (history, text, place?) :=
      if redo then space.history.redo space.text else space.history.undo space.text
    let moved := { space with history, window := { space.window with text } }
    match place? with
    | some place => runHistory redo count (some place) moved
    | none => (moved, caret?)

/-- Takes back or makes again `count` transactions, or as many as there are. The primary caret is
left, where the last of them began or ended. -/
def undo (editor : Editor) (count : Nat) (redo : Bool) : Outcome :=
  let (space, caret?) := runHistory redo (max count 1) none editor.commit
  let changed := { editor with toWorkspace := space }
  match caret? with
  | none =>
    (changed.report (if redo then "Already at newest change" else "Already at oldest change")).reject
  | some place =>
    (changed.update fun space =>
      space.setCarets (space.carets.retainPrimary.modifyPrimary (·.moveTo place))).done

/-- Waits for what the operator acts on. -/
def startOperator (editor : Editor) (operator : Operator) : Outcome :=
  ({ editor with
    pending := editor.pending.countBeforeOperator
    mode := .operatorPending operator .normal }, .pending)

/-- The text that a count puts at the prompt: a range of lines from this one on. -/
def rangeText : Option Nat → String
  | none => ""
  | some 1 => "."
  | some count => s!".,.+{count - 1}"

/-- The commands of a character. -/
def commandOfChar (editor : Editor) (c : Char) (count? : Option Nat) (register? : Option Char) :
    Outcome :=
  let count := max (count?.getD 1) 1
  let operate (operator : Operator) (motion : Motion) : Outcome :=
    editor.operate operator (.motion motion) (some count) register?
  match c with
  | ':' => (editor.openPrompt (rangeText count?).toList).done
  | 'i' => editor.startInsert .here count
  | 'a' => editor.startInsert .behind count
  | 'I' => editor.startInsert .firstNonBlank count
  | 'A' => editor.startInsert .lineEnd count
  | 'o' => editor.openLine true count
  | 'O' => editor.openLine false count
  | 'R' => ((editor.update (·.begin)).startTyping .replace count false).done
  | 'x' => operate .delete .right
  | 'X' => operate .delete .left
  | 'D' => operate .delete .lineEnd
  | 'C' => operate .change .lineEnd
  | 's' =>
    if editor.text.lineLength (editor.text.lineOf editor.window.caret) = 0 then
      editor.startInsert .here 1
    else operate .change .right
  | 'S' => editor.operateLines .change count register?
  | 'Y' => editor.operateLines .yank count register?
  | 'p' => editor.putRegister register? true count
  | 'P' => editor.putRegister register? false count
  | '~' => editor.editCarets fun space offset => space.toggleCase count offset
  | 'J' => editor.joinAtCarets count true
  | 'u' => editor.undo count false
  | 'v' => (editor.enterVisual .character .normal).done
  | 'V' => (editor.enterVisual .line .normal).done
  | _ => editor.reject

/-- The commands of a single key. -/
def normalCommand (editor : Editor) (key : Key) : Outcome :=
  let (editor, count?, register?) := editor.takePending
  let count := max (count?.getD 1) 1
  if key.isCtrl 'r' then editor.undo count true
  else if key.isCtrl 'v' then (editor.enterVisual .block .normal).done
  else if key.isPlain && key.code == .delete then
    editor.operate .delete (.motion .right) (some count) register?
  else if key.isPlain && key.code == .insert then editor.startInsert .here count
  else key.printable?.elim editor.reject fun c => editor.commandOfChar c count? register?

/-- The keys behind `g` in normal mode. -/
def normalAfterG (editor : Editor) (key : Key) : Outcome :=
  let (taken, count?, _) := editor.takePending
  if key.isCtrl 'h' then (editor.enterSelect .block .normal true).done
  else
    match key.printable? with
    | some 'g' => editor.moveBy .firstLine
    | some '~' => editor.startOperator .toggleCase
    | some 'u' => editor.startOperator .lowercase
    | some 'U' => editor.startOperator .uppercase
    | some 'h' => (editor.enterSelect .character .normal true).done
    | some 'H' => (editor.enterSelect .line .normal true).done
    | some 'v' => editor.selectAgain
    | some 'J' => taken.joinAtCarets (count?.getD 1) false
    | some 'I' => taken.startInsert .lineStart (count?.getD 1)
    | _ => editor.reject

/-- Takes a key for the character that replaces others. -/
def replacementKey (editor : Editor) (key : Key) : Outcome :=
  if key = .escape then editor.clearPending.done
  else
    match key.target? with
    | none => editor.reject
    | some c =>
      let (editor, count?, _) := editor.takePending
      editor.editCarets fun space offset => space.replaceChars c (count?.getD 1) offset

/-- Takes a key for the mark to set. -/
def markToSetKey (editor : Editor) (key : Key) : Outcome :=
  let editor := editor.clearPending
  match key.printable? with
  | none => editor.reject
  | some name =>
    if name.isLower then
      let place := editor.window.caret
      { editor with
        marks := fun other => if other = name then some place else editor.marks other }.done
    else editor.reject

/-- The keys that wait for another one, other than for a motion. -/
def commandStart? (editor : Editor) (key : Key) : Option Outcome :=
  match key.printable? with
  | some '"' => some (editor.await .registerName)
  | some 'z' => some (editor.await .afterZ)
  | some 'r' => some (editor.await .replacement)
  | _ => none

/-- Takes a key in normal mode that begins a command or is one. -/
def normalKey (editor : Editor) (key : Key) : Outcome :=
  if key = .escape then editor.clearPending.doneIf (!editor.pending.isEmpty)
  else
    (editor.countKey? key <|> editor.motionStart? key none
        <|> key.operator?.map editor.startOperator <|> editor.commandStart? key
        <|> (if key.printable? = some 'm' then some (editor.await .markToSet) else none)
        <|> editor.scrollKey? key).getD <|
      if key.isShiftedNamed then editor.shiftedKey key .normal
      else (key.motion?.map editor.moveBy).getD (editor.normalCommand key)

/-- Takes a key in normal mode. -/
def pressNormal (editor : Editor) (key : Key) : Outcome :=
  let rest := editor.stopWaiting
  match editor.pending.awaited with
  | .afterG => rest.normalAfterG key
  | .afterZ => rest.scrollAfterZ key
  | .registerName => rest.registerKey key
  | .findTarget forward till => rest.findKey key forward till none
  | .replacement => rest.replacementKey key
  | .markToSet => rest.markToSetKey key
  | .markToReach linewise => rest.markKey key linewise none
  | _ => rest.normalKey key

/-- The keys behind `g` for an operator. An operator that is typed with it is doubled with it. -/
def operatorAfterG (editor : Editor) (operator : Operator) (key : Key) : Outcome :=
  let isCase := operator matches .toggleCase | .lowercase | .uppercase
  match key.printable? with
  | some 'g' => editor.go (.motion .firstLine) (some operator)
  | some c =>
    if c = operator.doublingKey ∧ isCase then
      let (editor, count?, register?) := editor.takePending
      editor.operateLines operator (count?.getD 1) register?
    else editor.reject
  | none => editor.reject

/-- Takes a key for what an operator acts on: a motion, or the operator again for whole lines. -/
def operatorKey (editor : Editor) (operator : Operator) (key : Key) : Outcome :=
  if key = .escape then ({ editor with mode := .normal }.clearPending).done
  else
    (editor.countKey? key).getD <|
      if key.printable? = some operator.doublingKey then
        let (editor, count?, register?) := editor.takePending
        editor.operateLines operator (count?.getD 1) register?
      else
        (editor.motionStart? key (some operator)).getD <|
          key.motion?.elim editor.reject fun motion => editor.go (.motion motion) (some operator)

/-- Takes a key behind an operator. -/
def pressOperator (editor : Editor) (operator : Operator) (key : Key) : Outcome :=
  let rest := editor.stopWaiting
  match editor.pending.awaited with
  | .afterG => rest.operatorAfterG operator key
  | .findTarget forward till => rest.findKey key forward till (some operator)
  | .markToReach linewise => rest.markKey key linewise (some operator)
  | _ => rest.operatorKey operator key

end Editor

end ModalEdit

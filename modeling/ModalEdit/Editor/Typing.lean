import ModalEdit.Editor.Selection

/-!
Typing text: in insert mode, over other text in replace mode, and at the prompt.
-/

set_option autoImplicit false

namespace ModalEdit

namespace Editor

/-- The stack of characters typed over by a caret with one more. -/
def pushReplaced (typing : Typing) (index : Nat) (old? : Option Char) : Typing :=
  { typing with replaced := typing.replaced.modify index (old? :: ·) }

/-- Types a character over the one at a place. A line break goes in between, and line breaks are
not typed over. -/
def typeOver (index : Nat) (state : Editor × Nat) (c : Char) : Editor × Nat :=
  let (editor, place) := state
  let old? := (editor.text[place]?).filter fun old => old != '\n' && c != '\n'
  let stop := if old?.isSome then place + 1 else place
  ({ editor.update (·.replace place stop [c]) with
      typing := pushReplaced editor.typing index old? },
    place + 1)

/-- Types text at a caret, over other text in replace mode. -/
def typeAt (chars : List Char) (editor : Editor) (index : Nat) : Editor :=
  let offset := editor.carets.offsetAt index
  let typed :=
    if editor.mode = .replace then (chars.foldl (typeOver index) (editor, offset)).1
    else editor.update (·.insert offset chars)
  typed.update (·.moveCaret index (offset + chars.length))

/-- Types text at every caret. -/
def insertText (editor : Editor) (chars : List Char) : Editor :=
  let begun := editor.update (·.begin)
  let missing := begun.carets.size - begun.typing.replaced.length
  let ready :=
    { begun with
      typing := { begun.typing with
        replaced := begun.typing.replaced ++ List.replicate missing [] } }
  let typed := ready.carets.descending.foldl (typeAt chars) ready
  { typed with typing := { typed.typing with typed := typed.typing.typed ++ chars } }

/-- Types text into the window or at the prompt. -/
def typeText (editor : Editor) (chars : List Char) : Outcome :=
  if editor.mode = .commandLine then { editor with prompt := editor.prompt.insert chars }.done
  else (editor.insertText chars).done

/-- Takes one character back before a caret: it is deleted, or what was typed over comes back. In
replace mode the caret stops where the line begins. -/
def backspaceAt (state : Editor × Bool) (index : Nat) : Editor × Bool :=
  let (editor, any) := state
  let offset := editor.carets.offsetAt index
  if offset = 0 then (editor, any)
  else
    let back (editor : Editor) : Editor × Bool :=
      (editor.update (·.moveCaret index (offset - 1)), true)
    if editor.mode = .replace then
      let popped :=
        { editor with
          typing := { editor.typing with
            replaced := editor.typing.replaced.modify index List.tail } }
      match (editor.typing.replaced[index]?).bind List.head? with
      | some (some c) => back (popped.update (·.replace (offset - 1) offset [c]))
      | some none => back (popped.update (·.remove (offset - 1) offset))
      | none =>
        if offset = editor.text.lineStart (editor.text.lineOf offset) then (editor, any)
        else back editor
    else back (editor.update (·.remove (offset - 1) offset))

/-- Takes one character back before every caret. -/
def backspace (editor : Editor) : Outcome :=
  let begun := editor.update (·.begin)
  let (editor, any) := begun.carets.descending.foldl backspaceAt (begun, false)
  { editor with
    typing := { editor.typing with typed := editor.typing.typed.dropLast } }.doneIf any

/-- Deletes the character at every caret. -/
def deleteUnder (editor : Editor) : Outcome :=
  let begun := editor.update (·.begin)
  let length := begun.text.length
  let (editor, any) := begun.carets.descending.foldl
    (fun (editor, any) index =>
      let offset := editor.carets.offsetAt index
      if offset < length then (editor.update (·.remove offset (offset + 1)), true)
      else (editor, any))
    (begun, false)
  editor.doneIf any

/-- Where deleting back from an offset stops: at the line break before, at the start of the word,
or at the end of the indent and then at the start of the line. -/
def deletionStart (text : Document) (word : Bool) (offset : Nat) : Nat :=
  let line := text.lineOf offset
  let lineStart := text.lineStart line
  if offset = lineStart then offset - 1
  else if word then max (WordKind.small.prevStart text offset) lineStart
  else if text.firstNonBlank line < offset then text.firstNonBlank line
  else lineStart

/-- Deletes back from every caret, a word or the line before it. -/
def deleteBack (editor : Editor) (word : Bool) : Outcome :=
  let begun := editor.update (·.begin)
  let (space, any) := begun.toWorkspace.editAtCarets fun space offset =>
    let start := deletionStart space.text word offset
    if start < offset then some (space.remove start offset, start) else none
  { begun with
    toWorkspace := space
    typing := { begun.typing with typed := [] } }.doneIf any

/-- The list without an entry that equals the one before it. -/
def dropRepeats : List Nat → List Nat
  | [] => []
  | [line] => [line]
  | line :: next :: rest =>
    if line = next then dropRepeats (next :: rest) else line :: dropRepeats (next :: rest)

/-- Shifts the lines of the carets by one step. -/
def shiftCaretLines (editor : Editor) (right : Bool) : Outcome :=
  let begun := editor.update (·.begin)
  let lines := dropRepeats (begun.carets.toList.map fun caret => begun.text.lineOf caret.offset)
  (begun.update fun space =>
    lines.foldl (fun space line => space.shiftLines line line right 1) space).done

/-- Begins a new transaction while text is typed, and forgets what has been typed. -/
def breakTyping (editor : Editor) : Editor :=
  (editor.update fun space => space.commit.begin).startTyping editor.mode 1 false

/-- The text that the tab key types. -/
def tabText (editor : Editor) : List Char :=
  if editor.options.flag "expandtab" then
    let column := editor.window.displayColumn editor.window.caret
    List.replicate (editor.tabStop - column % editor.tabStop) ' '
  else ['\t']

/-- Moves every caret back by one on its line. -/
def stepBack (editor : Editor) : Editor :=
  let text := editor.text
  editor.update (·.mapCarets fun caret =>
    let start := text.lineStart (text.lineOf caret.offset)
    caret.moveTo (if start < caret.offset then caret.offset - 1 else caret.offset))

/-- Ends typing: the text is typed again as often as the count says, the transaction ends, the
carets of a block go, and the others step back. -/
def finishTyping (editor : Editor) : Editor :=
  let session := editor.typing
  let cleared := { editor with typing := {} }
  let again :=
    if 1 < session.times ∧ session.typed ≠ [] then
      let unit := if session.newLine then '\n' :: session.typed else session.typed
      let text := (List.replicate (session.times - 1) unit).flatten
      { cleared.insertText text with typing := {} }
    else cleared
  let committed := again.update (·.commit)
  let alone :=
    if session.block then
      committed.update fun space => space.setCarets space.carets.retainPrimary
    else committed
  { alone.stepBack with mode := .normal }

/-- Takes the key behind one that types something special. -/
def specialKey (editor : Editor) (awaited : Awaited) (key : Key) : Outcome :=
  if key = .escape then editor.done
  else
    match awaited, key.printable? with
    | .digraphFirst, some first => editor.await (.digraphSecond first)
    | .digraphSecond first, some second =>
      match editor.digraphs.lookup first second with
      | .ok c => editor.typeText [c]
      | .error _ => editor.typeText [second]
    | .registerToType, some name =>
      if isRegisterName name then editor.typeText (editor.registers.get (some name)).content
      else editor.reject
    | .literal, _ => key.literal?.elim editor.reject fun c => editor.typeText [c]
    | _, _ => editor.reject

/-- The keys that wait for another one while text is typed. -/
def specialStart? (editor : Editor) (key : Key) : Option Outcome :=
  if key.isCtrl 'k' then some (editor.await .digraphFirst)
  else if key.isCtrl 'r' then some (editor.await .registerToType)
  else if key.isCtrl 'v' || key.isCtrl 'q' then some (editor.await .literal)
  else none

/-- The control keys while text is typed. -/
def typingControl? (editor : Editor) (key : Key) : Option Outcome :=
  if key.isCtrl 'w' then some (editor.deleteBack true)
  else if key.isCtrl 'u' then some (editor.deleteBack false)
  else if key.isCtrl 'h' then some editor.backspace
  else if key.isCtrl 'j' || key.isCtrl 'm' then some (editor.typeText ['\n'])
  else if key.isCtrl 't' || key.isCtrl 'd' then some (editor.shiftCaretLines (key.isCtrl 't'))
  else none

/-- Changes between insert and replace mode. -/
def toggleReplace (editor : Editor) : Outcome :=
  let mode : Mode := if editor.mode = .insert then .replace else .insert
  { editor with mode, typing := { editor.typing with replaced := [] } }.done

/-- The named keys and the characters while text is typed. -/
def typedKey (editor : Editor) (key : Key) : Outcome :=
  match key.code with
  | .enter => editor.typeText ['\n']
  | .tab => editor.typeText editor.tabText
  | .backspace => editor.backspace
  | .delete => editor.deleteUnder
  | .insert => editor.toggleReplace
  | _ => key.printable?.elim editor.reject fun c => editor.typeText [c]

/-- Takes a key while text is typed. -/
def pressTyping (editor : Editor) (key : Key) : Outcome :=
  let awaited := editor.pending.awaited
  let editor := editor.stopWaiting
  if awaited ≠ .command then editor.specialKey awaited key
  else if key = .escape ∨ key.isCtrl 'c' ∨ key.isCtrl '[' then editor.finishTyping.done
  else
    (editor.specialStart? key <|> editor.typingControl? key).getD <|
      if key.isShiftedNamed then
        (editor.breakTyping.update (·.commit)).shiftedKey key editor.mode.returnTo
      else if key.isCursorKey then editor.breakTyping.extendBy key
      else editor.typedKey key

end Editor

end ModalEdit

import ModalEdit.Editor.Pending
import ModalEdit.Mapping
import ModalEdit.Prompt
import ModalEdit.Workspace

/-!
The modal editor: its mode, the command being typed and what it remembers, over a workspace. Each
key takes it a step further.
-/

set_option autoImplicit false

namespace ModalEdit

/-- What came of a key. -/
inductive Step where
  /-- A command was completed or given up. -/
  | done
  /-- More keys are needed. -/
  | pending
  /-- The key cannot be used here. -/
  | rejected
  /-- A line of the prompt is to be executed. -/
  | execute (line : List Char)
deriving DecidableEq, Inhabited

/-- The selection made last. -/
structure LastSelection where
  anchor : Nat
  caret : Nat
  kind : SelectionKind
deriving DecidableEq, Inhabited

/-- What has been typed since the editor began to take text. -/
structure Typing where
  typed : List Char := []
  /-- How often the text is typed in all. -/
  times : Nat := 0
  /-- Whether it goes on a line of its own each time. -/
  newLine : Bool := false
  /-- Whether carets were added for a block. -/
  block : Bool := false
  /-- For each caret, the characters typed over, the latest first; nothing where the text went
  on. -/
  replaced : List (List (Option Char)) := []
deriving DecidableEq, Inhabited

structure Editor extends Workspace where
  mode : Mode := .normal
  pending : Pending := {}
  prompt : Prompt := {}
  lastFind? : Option Find := none
  marks : Char → Option Nat := fun _ => none
  lastSelection? : Option LastSelection := none
  typing : Typing := {}
  message? : Option String := none
  /-- How many carets have stood behind the end of the text when text was typed over selections. -/
  strays : Nat := 0

/-- The editor after a key, and what came of it. -/
abbrev Outcome := Editor × Step

namespace Editor

/-- The editor with its workspace changed. -/
def update (editor : Editor) (f : Workspace → Workspace) : Editor :=
  { editor with toWorkspace := f editor.toWorkspace }

def done (editor : Editor) : Outcome :=
  (editor, .done)

def reject (editor : Editor) : Outcome :=
  (editor, .rejected)

/-- Done where something could be done, and rejected otherwise. -/
def doneIf (editor : Editor) (any : Bool) : Outcome :=
  (editor, if any then .done else .rejected)

/-- Waits for a key of a kind. -/
def await (editor : Editor) (awaited : Awaited) : Outcome :=
  ({ editor with pending := { editor.pending with awaited } }, .pending)

/-- Forgets what kind of key was awaited. -/
def stopWaiting (editor : Editor) : Editor :=
  { editor with pending := { editor.pending with awaited := .command } }

/-- Forgets the command being typed. -/
def clearPending (editor : Editor) : Editor :=
  { editor with pending := {} }

def report (editor : Editor) (message : String) : Editor :=
  { editor with message? := some message }

/-- The prompt, while a command line is typed. -/
def openPrompt? (editor : Editor) : Option Prompt :=
  if editor.mode = .commandLine then some editor.prompt else none

/-- The mapping modes that count for the next key. -/
def mapModes (editor : Editor) : MapModes :=
  if editor.pending.awaited.isLiteral then .none else .ofMode editor.mode

/-- The place of a mark: a letter, or an end of the last selection. -/
def mark? (editor : Editor) (name : Char) : Option Nat :=
  if name = '<' then editor.lastSelection?.map fun last => min last.anchor last.caret
  else if name = '>' then editor.lastSelection?.map fun last => max last.anchor last.caret
  else if name.isLower then editor.marks name
  else none

/-- Counts the carets behind the end of the text. -/
def countStrays (editor : Editor) : Editor :=
  let behind := editor.carets.toList.countP fun caret => editor.text.length < caret.offset
  { editor with strays := editor.strays + behind }

/-- Whether a selection leaves out the character of its upper end. -/
def selectsExclusively (editor : Editor) : Bool :=
  editor.mode.isSelect || editor.options.text "selection" == "exclusive"

/-- Puts every caret where the mode lets it stand. -/
def clampCarets (editor : Editor) : Editor :=
  let text := editor.text
  let clamp (caret : Caret) : Caret :=
    { caret with
      offset := text.clampCaret (min caret.offset text.length) editor.mode.caretPastEnd
      anchor? := caret.anchor?.map (min · text.length) }
  editor.update fun space => space.setCarets (space.carets.map clamp).merge

/-- Puts every caret where the mode lets it stand, and shows the primary one. -/
def settle (editor : Editor) : Editor :=
  editor.clampCarets.update fun space =>
    { space with
      window := space.window.scrollToCaret (space.scrollContext editor.mode.caretPastEnd) }

/-- Begins to take text in a mode. -/
def startTyping (editor : Editor) (mode : Mode) (times : Nat) (newLine : Bool) : Editor :=
  { editor with mode, typing := { times, newLine } }

/-- Goes to a mode. In one that takes text a new transaction begins. -/
def enterAgain (editor : Editor) (mode : Mode) : Editor :=
  if mode.isTyping then (editor.update (·.begin)).startTyping mode 1 false
  else { editor with mode }

/-- Opens the prompt with a text. -/
def openPrompt (editor : Editor) (input : List Char) : Editor :=
  { editor with prompt := .ofChars input, mode := .commandLine }

/-- Remembers the selection of the primary caret. -/
def rememberSelection (editor : Editor) (kind : SelectionKind) : Editor :=
  let caret := editor.carets.primary
  match caret.anchor? with
  | some anchor => { editor with lastSelection? := some ⟨anchor, caret.offset, kind⟩ }
  | none => editor

/-- Ends the selection and goes where it came from. -/
def endSelection (editor : Editor) (target : ReturnMode) : Editor :=
  let remembered := (editor.mode.selectionKind?.map editor.rememberSelection).getD editor
  ((remembered.update (·.clearAnchors)).enterAgain target.mode).clampCarets

/-- Drops everything being typed and goes to normal mode, as after an error. -/
def reset (editor : Editor) : Editor :=
  let cleared := editor.update fun space => space.clearAnchors.commit
  { cleared with pending := {}, prompt := {}, typing := {}, mode := .normal }.clampCarets

end Editor

end ModalEdit

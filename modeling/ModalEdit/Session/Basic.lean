import ModalEdit.Command.Basic
import ModalEdit.Editor.Press
import ModalEdit.Session.Error

/-!
A session: the editor together with mappings, script variables, the commands that it knows, and
what it has to say to the user.
-/

set_option autoImplicit false

namespace ModalEdit

open Command (CommandId)

/-- What runs a command. -/
inductive Handler where
  | call
  | delete
  | digraphs
  | echo
  | execute
  | goto
  | assignment
  | map
  | normal
  | redo
  | set
  | undo
  | unlet
  | yank
deriving DecidableEq, Inhabited

/-- What runs a command in a fresh session. -/
def Handler.ofId : CommandId → Handler
  | .call => call
  | .delete => delete
  | .digraphs => digraphs
  | .echo => echo
  | .execute => execute
  | .goto => goto
  | .let => assignment
  | .map .. => map
  | .normal => normal
  | .redo => redo
  | .set | .setGlobal | .setLocal => set
  | .undo => undo
  | .unlet => unlet
  | .yank => yank

/-- What came of a key. -/
inductive KeyResult where
  | consumed
  /-- More keys are needed, for a command or a mapping. -/
  | pending
  /-- The key cannot be used here. -/
  | rejected
  /-- The key ended a command line that failed, or a mapping that never ends. Keys that wait are
  dropped. -/
  | failed
deriving DecidableEq, Inhabited

structure Session where
  editor : Editor
  mappings : MappingTable := {}
  vars : Script.Variables := {}
  /-- What runs each command; one without is not known. -/
  handlers : CommandId → Option Handler := fun id => some (.ofId id)
  /-- Keys that may be the start of a mapping. -/
  typeahead : List Key := []
  lastError? : Option SessionError := none
  /-- What is to be shown to the user, in order. -/
  messages : List String := []

/-- What a command line shows, if it does not fail. -/
abbrev LineResult := Except SessionError (Option String)

/-- The options with a subscriber for one of them. -/
def Options.watch (options : Options) (name : String) : Options :=
  match options.subscribe (some name) with
  | .ok (_, watched) => watched
  | .error _ => options

namespace Session

/-- A fresh session on a window. The window takes its tab stops from the options, and the history
its limit. -/
def ofWindow (window : Window) : Session :=
  let options := (Options.watch {} "tabstop").watch "undolevels"
  { editor := {
      window := window.setTabWidth (options.count "tabstop")
      options
      history := { limit := options.count "undolevels" } } }

def text (session : Session) : Document :=
  session.editor.text

/-- The session with its editor changed. -/
def update (session : Session) (f : Editor → Editor) : Session :=
  { session with editor := f session.editor }

/-- The session with other carets. -/
def setCarets (session : Session) (carets : CaretSet) : Session :=
  session.update fun editor => editor.update (·.setCarets carets)

/-- The session with a command run by a handler, or by none. -/
def setHandler (session : Session) (id : CommandId) (handler? : Option Handler) : Session :=
  { session with
    handlers := fun other => if other = id then handler? else session.handlers other }

/-- Shows a message. -/
def say (session : Session) (message : String) : Session :=
  { session with messages := session.messages ++ [message] }

/-- Forgets the messages and the error of the commands before. -/
def clearStatus (session : Session) : Session :=
  { session with lastError? := none, messages := [] }

/-- Shows what the editor reports. -/
def collectReport (session : Session) : Session :=
  match session.editor.message? with
  | some message => (session.update ({ · with message? := none })).say message
  | none => session

/-- Shows an error, and drops what is being typed. -/
def fail (session : Session) (error : SessionError) : Session :=
  { (session.say error.message).update Editor.reset with lastError? := some error }

/-- The number that an option has been changed to last. -/
def changedCount? (notices : List OptionNotice) (name : String) : Option Nat :=
  match (notices.filter (·.change.name = name)).getLast? with
  | some notice =>
    match notice.change.new with
    | .number value => some value.toNatClampNeg
    | _ => none
  | none => none

/-- Gives changed options on to the window and the history. -/
def syncOptions (session : Session) : Session :=
  let (notices, options) := session.editor.options.takeNotices
  session.update fun editor =>
    { editor with
      options
      window := (changedCount? notices "tabstop").elim editor.window editor.window.setTabWidth
      history :=
        (changedCount? notices "undolevels").elim editor.history editor.history.setLimit }

/-- What scripts can name. -/
def environment (session : Session) : Script.Environment where
  vars := session.vars
  options := session.editor.options
  registers := session.editor.registers

/-- The session with what scripts can name changed. -/
def setEnvironment (session : Session) (environment : Script.Environment) : Session :=
  { session with
    vars := environment.vars
    editor := { session.editor with
      options := environment.options, registers := environment.registers } }

/-- Whether a key now begins a command. -/
def atCommandStart (session : Session) : Bool :=
  session.editor.pending.isEmpty &&
    match session.editor.mode with
    | .normal | .visual .. | .select .. => true
    | _ => false

/-- How the cursor looks. -/
def cursorLook (session : Session) : CursorLook × Session :=
  let options := session.editor.options
  let mode := CursorMode.ofMode (options.text "selection" == "exclusive") session.editor.mode
  let (look, options) := options.cursorLook mode
  (look, session.update ({ · with options }))

end Session

end ModalEdit

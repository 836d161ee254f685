import ModalEdit.Command.DigraphArguments
import ModalEdit.Session.Basic

/-!
The commands that run no other command line.
-/

set_option autoImplicit false

namespace ModalEdit

open Command (Arguments CommandId MapAction)

/-- The plain arguments of a command; nothing where it has others. -/
def Command.rawText (command : Command) : String :=
  match command.arguments with
  | .raw text => text
  | _ => ""

namespace Session

/-- The lines of a range, and the line of the caret without one. -/
def linesOf (session : Session) (range? : Option Command.Range) :
    Except SessionError (Nat × Nat) :=
  let text := session.text
  let current := text.lineOf session.editor.window.caret
  let mark (name : Char) : Option Nat :=
    (session.editor.mark? name).map fun offset => text.lineOf (min offset text.length)
  match range? with
  | none => .ok (current, current)
  | some range => (range.resolve current text.lastLine mark).mapError .script

/-- Lists the digraphs, or defines some. -/
def runDigraphs (session : Session) (command : Command) : Session × LineResult :=
  let arguments := command.rawText
  if arguments.isEmpty then
    (session, .ok (some (session.editor.digraphs.listing command.bang)))
  else
    let (defined, error?) := Command.readDigraphs arguments.toList
    let changed := session.update fun editor =>
      { editor with digraphs := defined.foldl Digraphs.define editor.digraphs }
    (changed, error?.elim (.ok none) fun error => .error (.script error))

/-- The scope that a command to set options works in. -/
def scopeOfSet : CommandId → Scope
  | .setLocal => .local
  | .setGlobal => .global
  | _ => .both

/-- Sets or shows options. -/
def runSet (session : Session) (command : Command) : Session × LineResult :=
  let (options, result) :=
    session.editor.options.execute (scopeOfSet command.id) command.rawText
  (session.update ({ · with options }), result.mapError .editor)

/-- The keys that a map command is for, and what it maps them to. -/
def splitMapping (text : List Char) : List Char × List Char :=
  (text.takeWhile (!Text.isBlank ·), Text.trimStart (text.dropWhile (!Text.isBlank ·)))

/-- The session with other mappings, unless they are wrong. -/
def setMappings (session : Session) (mappings : Except EditorError MappingTable) :
    Session × LineResult :=
  match mappings with
  | .ok mappings => ({ session with mappings }, .ok none)
  | .error error => (session, .error (.editor error))

/-- Defines, removes or lists mappings in some modes. -/
def runMapIn (session : Session) (modes : MapModes) (action : MapAction) (text : List Char) :
    Session × LineResult :=
  let (lhs, rhs) := splitMapping text
  let keys := Key.readAll lhs
  match action with
  | .unmap =>
    if lhs = [] then (session, .error (.script .argumentRequired))
    else session.setMappings (session.mappings.remove modes keys)
  | _ =>
    if rhs = [] then (session, .ok (some (session.mappings.listing modes keys)))
    else
      session.setMappings
        (session.mappings.define ⟨modes, keys, Key.readAll rhs, action = .noremap⟩)

/-- Defines, removes or lists mappings. -/
def runMap (session : Session) (command : Command) : Session × LineResult :=
  match command.id with
  | .map action letter =>
    match if command.bang then some (MapModes.single .insert) else MapModes.ofLetter? letter with
    | some modes => session.runMapIn modes action command.rawText.toList
    | none => (session, .error (.editor (.invalidArgument letter)))
  | _ => (session, .error (.unknownCommand command.name))

/-- Shows the values of expressions. -/
def runEcho (session : Session) (command : Command) : Session × LineResult :=
  match command.arguments with
  | .exprs exprs =>
    match exprs.mapM (Script.Expr.eval session.environment) with
    | .ok values => (session, .ok (some (" ".intercalate (values.map Script.Value.shown))))
    | .error error => (session, .error (.script error))
  | _ => (session, .ok none)

/-- Assigns a variable, or shows some. -/
def runAssignment (session : Session) (command : Command) : Session × LineResult :=
  match command.arguments with
  | .assignment target operator value =>
    let (environment, result) := session.environment.assign target operator value
    (session.setEnvironment environment, (result.mapError .script).map fun _ => none)
  | .vars names =>
    match names.find? fun name => (session.vars.get? name).isNone with
    | some missing => (session, .error (.script (.undefinedVariable missing)))
    | none =>
      let listing := session.vars.listing names
      (session, .ok (if listing.isEmpty then none else some listing))
  | _ => (session, .ok none)

/-- Removes variables. -/
def runUnlet (session : Session) (command : Command) : Session × LineResult :=
  match command.arguments with
  | .vars names =>
    let (vars, result) := Script.Variables.unlet command.bang names session.vars
    ({ session with vars }, (result.mapError .script).map fun _ => none)
  | _ => (session, .ok none)

/-- Evaluates an expression and drops its value. -/
def runCall (session : Session) (command : Command) : Session × LineResult :=
  match command.arguments with
  | .call expr =>
    (session, ((expr.eval session.environment).mapError .script).map fun _ => none)
  | _ => (session, .ok none)

/-- Takes a transaction back, or makes it again. -/
def runUndo (session : Session) (redo : Bool) : Session × LineResult :=
  (session.update fun editor => (editor.undoOnce redo).1, .ok none)

/-- The lines that a command works on: those of its range, or as many as a count from the last of
them on. -/
def countedLines (session : Session) (command : Command) (count? : Option Nat) :
    Except SessionError (Nat × Nat) := do
  let (first, last) ← session.linesOf command.range?
  match count? with
  | none => return (first, last)
  | some count =>
    return (last, min (Number.wrapAdd last (count - 1)) session.text.lastLine)

/-- Applies an operator to lines as one transaction. -/
def applyToLines (editor : Editor) (operator : Operator) (first last : Nat)
    (register? : Option Char) : Editor × Applied :=
  let (space, applied) := editor.begin.applyOperator operator (.lines first last) register? 0
  let moved :=
    if operator = .delete then space.moveCaret space.carets.primaryIndex applied.caret else space
  ({ editor with toWorkspace := moved.commit }.settle, applied)

/-- Deletes or copies lines. -/
def runOnLines (session : Session) (operator : Operator) (command : Command) :
    Session × LineResult :=
  let (register?, count?) :=
    match command.arguments with
    | .registerCount register? count? => (register?, count?)
    | _ => (none, none)
  match session.countedLines command count? with
  | .error error => (session, .error error)
  | .ok (first, last) =>
    let (editor, applied) := applyToLines session.editor operator first last register?
    let report? :=
      Editor.reportOf? operator (.lines first last) (last - first + 1) applied
    let changed := { session with editor }
    (report?.elim changed changed.say, .ok none)

/-- Goes to the last line of a range. -/
def runGoto (session : Session) (command : Command) : Session × LineResult :=
  if command.range?.isNone then (session, .ok none)
  else
    match session.linesOf command.range? with
    | .error error => (session, .error error)
    | .ok (_, line) =>
      let place := session.text.firstNonBlank line
      (session.update fun editor =>
        (editor.update fun space => space.moveCaret space.carets.primaryIndex place).settle,
        .ok none)

end Session

end ModalEdit

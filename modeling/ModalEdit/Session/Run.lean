import ModalEdit.Session.Handlers
import ModalEdit.Session.Keys

/-!
Running a session: command lines, which may run others, and keys. Lines may be nested as deeply
as `nesting` says; beyond that there is no answer.
-/

set_option autoImplicit false

namespace ModalEdit

namespace Session

/-- Runs the line that expressions make up. -/
def runExecute (run : LineRunner) (session : Session) (command : Command) :
    Option (Session × LineResult) :=
  match command.arguments with
  | .exprs exprs =>
    match exprs.mapM fun expr => (expr.eval session.environment).bind Script.Value.toText with
    | .ok texts => run session (" ".intercalate texts).toList
    | .error error => some (session, .error (.script error))
  | _ => some (session, .ok none)

/-- Takes keys as if they were typed. Without a bang mappings are looked up. -/
def runNormal (run : LineRunner) (session : Session) (command : Command) :
    Option (Session × LineResult) :=
  let keys := command.rawText.toList.map Key.ofControlChar
  if keys = [] then some (session, .error (.script .argumentRequired))
  else
    (session.runKeys (pressKey run) keys (!command.bang)).map fun session => (session, .ok none)

/-- Runs a command by its handler. -/
def runHandler (run : LineRunner) (session : Session) (command : Command) :
    Handler → Option (Session × LineResult)
  | .call => some (session.runCall command)
  | .delete => some (session.runOnLines .delete command)
  | .digraphs => some (session.runDigraphs command)
  | .echo => some (session.runEcho command)
  | .execute => session.runExecute run command
  | .goto => some (session.runGoto command)
  | .assignment => some (session.runAssignment command)
  | .map => some (session.runMap command)
  | .normal => session.runNormal run command
  | .redo => some (session.runUndo true)
  | .set => some (session.runSet command)
  | .undo => some (session.runUndo false)
  | .unlet => some (session.runUnlet command)
  | .yank => some (session.runOnLines .yank command)

/-- What a command has that it does not take, a bang or a range. -/
def refusal? (command : Command) : Option SessionError :=
  (Command.Definition.ofId? command.id).bind fun definition =>
    if command.bang ∧ !definition.takesBang then some .bangNotAllowed
    else if command.range?.isSome ∧ !definition.takesRange then some .rangeNotAllowed
    else none

/-- Runs a command. -/
def runCommand (run : LineRunner) (session : Session) (command : Command) :
    Option (Session × LineResult) :=
  match refusal? command with
  | some error => some (session, .error error)
  | none =>
    match session.handlers command.id with
    | some handler => session.runHandler run command handler
    | none => some (session, .error (.unknownCommand command.name))

/-- Runs a command line. Changed options then take effect, and reports are shown. -/
def runLine : (nesting : Nat) → LineRunner
  | 0, _, _ => none
  | nesting + 1, session, line =>
    let outcome? : Option (Session × LineResult) :=
      match Command.parse line with
      | .error error => some (session, .error (.script error))
      | .ok command => session.runCommand (runLine nesting) command
    outcome?.map fun (session, result) => (session.syncOptions.collectReport, result)

/-- Runs a command line for the user, and shows its text or its error. -/
def execute (nesting : Nat) (session : Session) (line : List Char) :
    Option (Session × LineResult) :=
  (runLine nesting session.clearStatus line).map fun (session, result) =>
    let (session, ended) := session.afterLine result
    ({ session with typeahead := if ended = .failed then [] else session.typeahead }, result)

/-- Takes a key that the user typed, without looking at mappings. A line that it hands over begins
with a clear status. -/
def pressTyped (nesting : Nat) : KeyRunner :=
  pressKey fun session line => runLine nesting session.clearStatus line

/-- Uses the keys that wait. -/
def drainTyped (nesting : Nat) (session : Session) (keys : List Key) (flush : Bool) :
    Option (Session × KeyResult) :=
  (drain (pressTyped nesting) flush maxExpansions keys session .consumed).map
    fun (session, typeahead, result) => ({ session with typeahead }, result)

/-- Takes a key that the user typed. At the start of a command the status is cleared. -/
def feed (nesting : Nat) (session : Session) (key : Key) : Option (Session × KeyResult) :=
  let ready :=
    if session.typeahead = [] ∧ session.atCommandStart then session.clearStatus else session
  ready.drainTyped nesting (session.typeahead ++ [key]) false

/-- Takes keys that the user typed, and answers what came of each. -/
def feedAll (nesting : Nat) (session : Session) : List Key → Option (Session × List KeyResult)
  | [] => some (session, [])
  | key :: rest => do
    let (fed, result) ← session.feed nesting key
    let (session, results) ← fed.feedAll nesting rest
    some (session, result :: results)

/-- Uses the keys that wait for more, because no more come in time. -/
def flush (nesting : Nat) (session : Session) : Option (Session × KeyResult) :=
  session.drainTyped nesting session.typeahead true

end Session

end ModalEdit

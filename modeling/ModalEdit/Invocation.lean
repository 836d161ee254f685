import ModalEdit.Session.Run

/-!
What the program is asked to do when it is started: a file, command lines and keys to run in
order, and whether the text is printed in the end.
-/

set_option autoImplicit false

namespace ModalEdit

/-- A step that the user asks for. -/
inductive Action where
  | line (line : String)
  /-- Keys, spelled out. -/
  | keys (keys : String)
deriving DecidableEq, Inhabited

structure Invocation where
  file? : Option String := none
  actions : List Action := []
  print : Bool := false
deriving DecidableEq, Inhabited

namespace Invocation

def usage : String :=
  "usage: n-vim [FILE] [-c EX-COMMAND]... [-k KEYS]... [-p]"

/-- Reads the arguments that are left, on top of those read before. -/
def readMore (read : Invocation) : List String → Except String Invocation
  | [] => .ok read
  | "-c" :: line :: rest =>
    readMore { read with actions := read.actions ++ [.line line] } rest
  | "-k" :: keys :: rest =>
    readMore { read with actions := read.actions ++ [.keys keys] } rest
  | argument :: rest =>
    if argument = "-c" ∨ argument = "-k" then .error s!"{argument} needs an argument"
    else if argument = "-p" ∨ argument = "--print" then readMore { read with print := true } rest
    else if argument = "-h" ∨ argument = "--help" then .error usage
    else if argument.startsWith "-" ∧ argument ≠ "-" then
      .error s!"unknown flag: {argument}\n{usage}"
    else if read.file?.isSome then .error s!"only one file allowed\n{usage}"
    else readMore { read with file? := some argument } rest

/-- Reads the arguments of the program. -/
def parse (arguments : List String) : Except String Invocation :=
  readMore {} arguments

end Invocation

/-- A line of output, and whether it is an error. -/
structure OutputLine where
  text : String
  isError : Bool
deriving DecidableEq, Inhabited

/-- A session that runs actions, and whether any of them failed. -/
structure Batch where
  session : Session
  failed : Bool := false

namespace Batch

/-- A batch on a text. -/
def ofText (text : Document) : Batch where
  session := .ofWindow { text }

/-- The messages of the session as output. The text of the last error is one. -/
def takeOutput (session : Session) : Session × List OutputLine :=
  let error? := session.lastError?.map SessionError.message
  ({ session with messages := [] },
    session.messages.map fun text => ⟨text, error? = some text⟩)

/-- The batch after a session has gone on, with its output. -/
def goOn (batch : Batch) (session : Session) (failed : Bool) : Batch × List OutputLine :=
  let (session, output) := takeOutput session
  (⟨session, batch.failed || failed⟩, output)

/-- Runs keys one by one. -/
def runKeys (nesting : Nat) : List Key → Batch → Option (Batch × List OutputLine)
  | [], batch => do
    let (session, _) ← batch.session.flush nesting
    some (batch.goOn session session.lastError?.isSome)
  | key :: rest, batch => do
    let (session, _) ← batch.session.feed nesting key
    let (batch, output) := batch.goOn session session.lastError?.isSome
    let (batch, more) ← runKeys nesting rest batch
    some (batch, output ++ more)

/-- Runs an action. A line may begin with a colon. -/
def run (nesting : Nat) (batch : Batch) : Action → Option (Batch × List OutputLine)
  | .line line => do
    let chars := (Text.strip? [':'] line.toList).getD line.toList
    let (session, result) ← batch.session.execute nesting chars
    some (batch.goOn session (result matches .error _))
  | .keys keys => runKeys nesting (Key.ofString keys) batch

end Batch

end ModalEdit

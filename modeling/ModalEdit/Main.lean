import ModalEdit.Document
import ModalEdit.Invocation

/-!
The command line: runs the actions it is given, or the command lines on standard input, on a file
or an empty text.
-/

set_option autoImplicit false

namespace ModalEdit.Main

/-- How deeply command lines may be nested. -/
def nesting : Nat := 1000

/-- The text of a file; an empty one where there is none. -/
def load (file? : Option String) : IO Document := do
  match file? with
  | none => return []
  | some file =>
    try return Document.ofChars (← IO.FS.readFile file).toList
    catch
      | .noFileOrDirectory .. => return []
      | error => throw error

/-- Prints a line of output where it belongs. -/
def print (line : OutputLine) : IO Unit := do
  if line.isError then IO.eprintln line.text else IO.println line.text

/-- Runs an action and prints its output. -/
def runAction (batch : Batch) (action : Action) : IO Batch := do
  match batch.run nesting action with
  | some (batch, output) =>
    output.forM print
    return batch
  | none => throw (IO.userError "command lines nested too deeply")

/-- Runs the command lines on standard input that are not blank. -/
partial def runInput (input : IO.FS.Stream) (batch : Batch) : IO Batch := do
  let line ← input.getLine
  if line.isEmpty then return batch
  if line.toList.all Text.isBlank then runInput input batch
  else
    let kept :=
      match Text.stripLast? '\n' line.toList with
      | some content => (Text.stripLast? '\r' content).getD content
      | none => line.toList
    runInput input (← runAction batch (.line (String.ofList kept)))

/-- Runs an invocation, and answers the exit code. -/
def runInvocation (invocation : Invocation) (text : Document) : IO UInt32 := do
  let batch := Batch.ofText text
  let batch ←
    if invocation.actions.isEmpty then runInput (← IO.getStdin) batch
    else invocation.actions.foldlM runAction batch
  if invocation.print then IO.print (String.ofList batch.session.text)
  return if batch.failed then 1 else 0

end ModalEdit.Main

open ModalEdit in
def main (arguments : List String) : IO UInt32 := do
  match Invocation.parse arguments with
  | .error message =>
    IO.eprintln s!"n-vim: {message}"
    return 2
  | .ok invocation =>
    try
      let text ← Main.load invocation.file?
      Main.runInvocation invocation text
    catch error =>
      IO.eprintln s!"n-vim: {error}"
      return 1

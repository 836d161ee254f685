import ModalEdit.Digraph
import ModalEdit.Number.Counting
import ModalEdit.Script.Error
import ModalEdit.Text.Blank

/-!
Definitions of digraphs as a command line gives them: two characters and the number of a third.
-/

set_option autoImplicit false

namespace ModalEdit.Command

/-- The digraph of a word and the number behind it. -/
def readDigraph (word : List Char) (number? : Option (List Char)) : Except ScriptError Digraph :=
  match word with
  | first :: second :: _ =>
    match number? with
    | some number =>
      if number.head?.any Char.isDigit then
        match Text.charOfCode? (Number.leadingCount number).1 with
        | some char => .ok ⟨first, second, char⟩
        | none => .error .invalidArgument
      else .error .numberExpected
    | none => .error .numberExpected
  | _ => .error (.digraphTwoChars (String.ofList word))

/-- The digraphs of words, up to the first error, which is kept. -/
def digraphsOfWords : List (List Char) → List Digraph × Option ScriptError
  | [] => ([], none)
  | [word] =>
    match readDigraph word none with
    | .ok digraph => ([digraph], none)
    | .error error => ([], some error)
  | word :: number :: rest =>
    match readDigraph word (some number) with
    | .ok digraph =>
      let (digraphs, error?) := digraphsOfWords rest
      (digraph :: digraphs, error?)
    | .error error => ([], some error)

/-- The digraphs that arguments define, up to the first error, which is kept. -/
def readDigraphs (text : List Char) : List Digraph × Option ScriptError :=
  digraphsOfWords (Text.words text)

end ModalEdit.Command

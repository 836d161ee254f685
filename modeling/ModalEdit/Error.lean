/-!
What can go wrong with options, digraphs and mappings.
-/

set_option autoImplicit false

namespace ModalEdit

/-- A failed operation on an option, a digraph or a mapping. -/
inductive EditorError where
  | unknownOption (name : String)
  | invalidArgument (text : String)
  | numberRequired (text : String)
  | missingColon (text : String)
  | illegalMode (text : String)
  | digitExpected (text : String)
  | illegalPercentage (text : String)
  /-- Neither order of the pair has a digraph. -/
  | digraphNotFound (first second : Char)
  /-- A number that is no character. -/
  | invalidCodePoint (code : Nat)
  | recursiveMapping
  | noSuchMapping
deriving DecidableEq, Inhabited

namespace EditorError

/-- The number of the error, when it has one. -/
def code? : EditorError → Option String
  | unknownOption _ => some "E518"
  | invalidArgument _ => some "E474"
  | numberRequired _ => some "E521"
  | missingColon _ => some "E545"
  | illegalMode _ => some "E546"
  | digitExpected _ => some "E548"
  | illegalPercentage _ => some "E549"
  | digraphNotFound .. => none
  | invalidCodePoint _ => some "E474"
  | recursiveMapping => some "E223"
  | noSuchMapping => some "E31"

/-- What the error says after its number. -/
def detail : EditorError → String
  | unknownOption name => s!"Unknown option: {name}"
  | invalidArgument text => s!"Invalid argument: {text}"
  | numberRequired text => s!"Number required after =: {text}"
  | missingColon text => s!"Missing colon: {text}"
  | illegalMode text => s!"Illegal mode: {text}"
  | digitExpected text => s!"Digit expected: {text}"
  | illegalPercentage text => s!"Illegal percentage: {text}"
  | digraphNotFound first second => s!"Digraph not found: {first}{second}"
  | invalidCodePoint code => s!"Invalid argument: {code}"
  | recursiveMapping => "recursive mapping"
  | noSuchMapping => "No such mapping"

/-- The whole message, number first. -/
def message (error : EditorError) : String :=
  match error.code? with
  | some code => s!"{code}: {error.detail}"
  | none => error.detail

end EditorError

end ModalEdit

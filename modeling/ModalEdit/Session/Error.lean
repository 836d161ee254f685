import ModalEdit.Script.Error

/-!
Why a command line failed.
-/

set_option autoImplicit false

namespace ModalEdit

/-- A failed command line. What fails while it is read or evaluated keeps its own message. -/
inductive SessionError where
  | unknownCommand (name : String)
  | bangNotAllowed
  | rangeNotAllowed
  | recursiveMapping
  | script (error : ScriptError)
  | editor (error : EditorError)
deriving DecidableEq, Inhabited

namespace SessionError

/-- The number of the error, when it has one. -/
def code? : SessionError → Option String
  | unknownCommand _ => some "E492"
  | bangNotAllowed => some "E477"
  | rangeNotAllowed => some "E481"
  | recursiveMapping => some "E223"
  | script error => error.code?
  | editor error => error.code?

/-- The whole message, number first. -/
def message : SessionError → String
  | unknownCommand name => s!"E492: Not an editor command: {name}"
  | bangNotAllowed => "E477: No ! allowed"
  | rangeNotAllowed => "E481: No range allowed"
  | recursiveMapping => "E223: recursive mapping"
  | script error => error.message
  | editor error => error.message

end SessionError

end ModalEdit

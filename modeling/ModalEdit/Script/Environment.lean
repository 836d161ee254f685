import ModalEdit.Options.Basic
import ModalEdit.Register
import ModalEdit.Script.Value
import ModalEdit.Text.Blank

/-!
What expressions name: variables, environment variables, options and registers.
-/

set_option autoImplicit false

namespace ModalEdit.Script

/-- The variables of a session, sorted by full name, and its environment variables. -/
structure Variables where
  values : Dict Value := []
  environment : Dict String := []
deriving Inhabited

namespace Variables

/-- The variables that are always there. -/
def predefined : List (String × Int64) := [
  ("v:false", 0), ("v:true", 1), ("v:t_number", ValueType.number.code),
  ("v:t_string", ValueType.string.code), ("v:t_func", ValueType.funcref.code),
  ("v:t_list", ValueType.list.code), ("v:t_dict", ValueType.dict.code),
  ("v:t_float", ValueType.float.code), ("v:t_blob", ValueType.blob.code)]

/-- The full name of a variable: one without a scope letter is global. -/
def fullName (name : String) : String :=
  match name.toList with
  | letter :: ':' :: _ :: _ => if letter.val < 128 then name else "g:" ++ name
  | _ => "g:" ++ name

/-- Whether a full name is in the scope that cannot be written. -/
def isReadOnly (name : String) : Bool :=
  ['v', ':'].isPrefixOf name.toList

/-- The value of a variable. -/
def get? (vars : Variables) (name : String) : Option Value :=
  match predefined.lookup (fullName name) with
  | some n => some (.number n)
  | none => vars.values.get? (fullName name)

/-- Entries sorted by key, with a value for a key. -/
def insertSorted (key : String) (value : Value) : Dict Value → Dict Value
  | [] => [(key, value)]
  | (other, old) :: rest =>
    if other = key then (key, value) :: rest
    else if key < other then (key, value) :: (other, old) :: rest
    else (other, old) :: insertSorted key value rest

/-- Sets a variable. -/
def set (vars : Variables) (name : String) (value : Value) : Except ScriptError Variables :=
  if isReadOnly (fullName name) then .error (.readOnlyVariable name)
  else .ok { vars with values := insertSorted (fullName name) value vars.values }

/-- Whether a variable has been set. -/
def isSet (vars : Variables) (name : String) : Bool :=
  (vars.values.get? (fullName name)).isSome

/-- The variables without one of them. -/
def remove (vars : Variables) (name : String) : Variables :=
  { vars with values := vars.values.erase (fullName name) }

/-- Removes variables in order, up to the first that cannot be removed; those before it are gone.
With `force` a missing one does not count. -/
def unlet (force : Bool) : List String → Variables → Variables × Except ScriptError Unit
  | [], vars => (vars, .ok ())
  | name :: rest, vars =>
    if isReadOnly name then (vars, .error (.readOnlyVariable name))
    else if vars.isSet name || force then unlet force rest (vars.remove name)
    else (vars, .error (.noSuchVariable name))

/-- The sign of a type in the listing. -/
def marker : Value → String
  | .list _ => "[]"
  | .dict _ => "\x7b\x7d"
  | .funcref _ => "*"
  | .string _ => ""
  | _ => "#"

/-- The line that shows a variable, given its full name. -/
def showEntry (name : String) (value : Value) : String :=
  let shownName := ((Text.strip? ['g', ':'] name.toList).map String.ofList).getD name
  let line := Text.padRight 18 shownName ++ " " ++ Text.padRight 1 (marker value) ++ " "
    ++ value.shown
  String.ofList (Text.trimEnd line.toList)

/-- The listing of all variables, or of the named ones that there are. -/
def listing (vars : Variables) (names : List String) : String :=
  let lines :=
    if names.isEmpty then vars.values.map fun (name, value) => showEntry name value
    else names.filterMap fun name => (vars.get? name).map (showEntry (fullName name))
  "\n".intercalate lines

/-- The value of an environment variable. -/
def environment? (vars : Variables) (name : String) : Option String :=
  vars.environment.get? name

/-- Sets an environment variable. -/
def setEnvironment (vars : Variables) (name text : String) : Variables :=
  { vars with environment := vars.environment.insert name text }

end Variables

/-- Everything that an expression can name. -/
structure Environment where
  vars : Variables := {}
  options : Options := {}
  registers : RegisterFile := {}
deriving Inhabited

/-- An option's value in a script: on and off are numbers, and a list is its text. -/
def Value.ofOption : OptionValue → Value
  | .bool value => .ofBool value
  | .number value => .number value
  | value => .string value.text

/-- The value that a script gives to an option: a text, or else a number. -/
def Value.toOption : Value → Except ScriptError OptionValue
  | .string text => .ok (.string text)
  | value => value.toInteger.map .number

namespace Environment

/-- The value of an option. -/
def option (environment : Environment) (name : String) (scope : Scope) :
    Except ScriptError Value :=
  match environment.options.get scope name with
  | .ok value => .ok (.ofOption value)
  | .error error => .error (.editor error)

/-- Sets an option. -/
def setOption (environment : Environment) (name : String) (scope : Scope) (value : Value) :
    Environment × Except ScriptError Unit :=
  match value.toOption with
  | .error error => (environment, .error error)
  | .ok value =>
    let (options, result) := environment.options.set scope name value
    ({ environment with options := options }, result.mapError .editor)

/-- The text of a register. -/
def register (environment : Environment) (name : Char) : String :=
  String.ofList (environment.registers.get (some name)).content

/-- Sets a register. -/
def setRegister (environment : Environment) (name : Char) (text : String) : Environment :=
  { environment with registers := environment.registers.set name text.toList }

/-- Whether comparisons ignore case unless they say otherwise. -/
def ignoresCase (environment : Environment) : Bool :=
  environment.options.flag "ignorecase"

end Environment

end ModalEdit.Script

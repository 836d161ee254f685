import ModalEdit.Command.Definition
import ModalEdit.Command.Range
import ModalEdit.Register
import ModalEdit.Script.Assign
import ModalEdit.Script.Expr.Reader

/-!
Command lines: a range, a name, a bang and arguments, read without looking at the text being
edited.
-/

set_option autoImplicit false

namespace ModalEdit.Command

open Script (AssignOperator Expr Target isNameChar)

/-- The arguments of a command. -/
inductive Arguments where
  | none
  | raw (text : String)
  | exprs (exprs : List Expr)
  | assignment (target : Target) (operator : AssignOperator) (value : Expr)
  | vars (names : List String)
  | call (expr : Expr)
  | registerCount (register? : Option Char) (count? : Option Nat)
deriving Inhabited

end ModalEdit.Command

namespace ModalEdit

/-- A command line. -/
structure Command where
  range? : Option Command.Range
  id : Command.CommandId
  bang : Bool
  arguments : Command.Arguments
deriving Inhabited

end ModalEdit

namespace ModalEdit.Command

open Script (AssignOperator Expr Target isNameChar)

/-- The full name of the command; a range alone has none. -/
def name (command : Command) : String :=
  match Definition.ofId? command.id with
  | some definition => definition.name
  | none => ""

/-- A character of a variable name after its scope. -/
def isVariableChar (c : Char) : Bool :=
  isNameChar c || c == '#'

/-- Whether a name, its scope taken off, can be that of a variable. -/
def isPlainVariable : List Char → Bool
  | [] => false
  | c :: rest => (c.isAlpha || c == '_') && (c :: rest).all isVariableChar

/-- Whether a name can be that of a variable. A scope is one of a few letters and a colon. -/
def isVariableName (name : List Char) : Bool :=
  match Text.splitFirst? ':' name with
  | some (scope, bare) =>
    [['g'], ['b'], ['w'], ['t'], ['s'], ['l'], ['v']].contains scope && isPlainVariable bare
  | none => isPlainVariable name

/-- Reads variable names between blanks, at least one. -/
def readVariables (text : List Char) : Except ScriptError (List String) :=
  let names := Text.words text
  if names.isEmpty then .error .argumentRequired
  else
    match names.find? (!isVariableName ·) with
    | some bad => .error (.illegalVariableName (String.ofList bad))
    | none => .ok (names.map String.ofList)

/-- Reads what an assignment writes. -/
def readTarget (text : List Char) : Except ScriptError (Target × List Char) :=
  match text with
  | '&' :: body =>
    let (scope, body) := Scope.splitName body
    let name := body.takeWhile Char.isAlphanum
    if name.isEmpty then .error .invalidArgument
    else .ok (.option (String.ofList name) scope, body.dropWhile Char.isAlphanum)
  | ['@'] => .error .invalidArgument
  | '@' :: name :: rest => .ok (.register name, rest)
  | '$' :: body =>
    let name := body.takeWhile isNameChar
    if name.isEmpty then .error .invalidArgument
    else .ok (.env (String.ofList name), body.dropWhile isNameChar)
  | text =>
    let inName (c : Char) : Bool := isVariableChar c || c == ':'
    let name := text.takeWhile inName
    if isVariableName name then .ok (.var (String.ofList name), text.dropWhile inName)
    else .error (.illegalVariableName (String.ofList (Text.firstWord text)))

/-- Reads the operator of an assignment. -/
def readAssignOperator? : List Char → Option (AssignOperator × List Char)
  | '.' :: '.' :: '=' :: rest => some (.concat, rest)
  | '.' :: '=' :: rest => some (.concat, rest)
  | '+' :: '=' :: rest => some (.add, rest)
  | '-' :: '=' :: rest => some (.subtract, rest)
  | '*' :: '=' :: rest => some (.multiply, rest)
  | '/' :: '=' :: rest => some (.divide, rest)
  | '%' :: '=' :: rest => some (.modulo, rest)
  | '=' :: rest => some (.assign, rest)
  | _ => none

/-- Reads an assignment, or the name of a variable to show. -/
def readAssignment (text : List Char) : Except ScriptError Arguments :=
  if text.isEmpty then .ok (.vars [])
  else do
    let invalid : ScriptError := .invalidExpression (String.ofList text)
    let (target, rest) ← readTarget text
    let rest := Text.trimStart rest
    match readAssignOperator? rest with
    | some (operator, value) =>
      let value := Text.trim value
      if value.isEmpty then throw invalid
      return .assignment target operator (← Expr.parse value)
    | none =>
      match target, rest with
      | .var name, [] => return .vars [name]
      | _, _ => throw invalid

/-- Reads a call. -/
def readCall (text : List Char) : Except ScriptError Arguments :=
  if text.isEmpty then .error .functionNameRequired
  else do
    match ← Expr.parse text with
    | .call callee arguments => return .call (.call callee arguments)
    | _ => throw .functionNameRequired

/-- Takes the name of a register, which is no digit. -/
def takeRegister? (text : List Char) : Option (Char × List Char) :=
  match text with
  | c :: rest => if !c.isDigit && isRegisterName c then some (c, Text.trimStart rest) else none
  | [] => none

/-- Reads a register and a count, both of which may be left out. -/
def readRegisterCount (text : List Char) : Except ScriptError Arguments :=
  let (register?, rest) :=
    match takeRegister? text with
    | some (name, rest) => (some name, rest)
    | none => (none, text)
  let finish (count? : Option Nat) (rest : List Char) : Except ScriptError Arguments :=
    if rest.isEmpty then .ok (.registerCount register? count?)
    else .error (.trailingCharacters (String.ofList rest))
  if rest.head?.any Char.isDigit then
    let (count, after) := Number.leadingCount rest
    if count = 0 then .error .positiveCountRequired
    else finish (some count) (Text.trimStart after)
  else finish none rest

/-- Reads arguments as the command takes them. -/
def readArguments (grammar : ArgumentGrammar) (text : List Char) :
    Except ScriptError Arguments :=
  match grammar with
  | .none =>
    if text.isEmpty then .ok .none else .error (.trailingCharacters (String.ofList text))
  | .raw => .ok (.raw (String.ofList text))
  | .exprs => (Expr.parseAll text).map .exprs
  | .assignment => readAssignment text
  | .vars => (readVariables text).map .vars
  | .call => readCall text
  | .registerCount => readRegisterCount text

/-- The command of a typed name. Where there is none the error shows the whole line. -/
def resolveIn (line : List Char) (name : List Char) : Except ScriptError Definition :=
  match Definition.resolve (String.ofList name) with
  | .error (.notAnEditorCommand _) => .error (.notAnEditorCommand (String.ofList line))
  | result => result

/-- Reads a command line. Colons and blanks before it do not count, and neither do blanks behind
it. -/
def parse (text : List Char) : Except ScriptError Command := do
  let line := Text.trimEnd (text.dropWhile fun c => c == ':' || Text.isBlank c)
  let (range?, rest) ← Range.read line
  let rest := Text.trimStart rest
  let name := rest.takeWhile Char.isAlpha
  if name.isEmpty then
    if rest.isEmpty then return ⟨range?, .goto, false, .none⟩
    else throw (.notAnEditorCommand (String.ofList line))
  else
    let definition ← resolveIn line name
    let after := rest.dropWhile Char.isAlpha
    let (bang, after) :=
      match after with
      | '!' :: after => (true, after)
      | after => (false, after)
    let arguments ← readArguments definition.grammar (Text.trimStart after)
    return ⟨range?, definition.id, bang, arguments⟩

end ModalEdit.Command

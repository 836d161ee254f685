import ModalEdit.Script.Expr
import ModalEdit.Script.Function
import ModalEdit.Script.Value.Arithmetic

/-!
The value of an expression. Evaluation changes nothing.
-/

set_option autoImplicit false

namespace ModalEdit.Script

/-- The value of a variable. -/
def Environment.variable (environment : Environment) (name : String) :
    Except ScriptError Value :=
  match environment.vars.get? name with
  | some value => .ok value
  | none => .error (.undefinedVariable name)

/-- The function that a name calls: a function itself, or a variable that holds one. -/
def Environment.calleeOfName (environment : Environment) (name : String) :
    Except ScriptError String :=
  if Builtin.isName name then .ok name
  else
    match environment.vars.get? name with
    | some (.funcref target) => .ok target
    | _ => .error (.unknownFunction name)

/-- The function that a value calls. -/
def calleeOfValue : Value → Except ScriptError String
  | .funcref target => .ok target
  | value => .error (.invalidExpression value.repr)

/-- What a dot and a name behind a value mean: an entry of a dictionary, or else the value joined
to a variable or to digits. -/
def memberOf (environment : Environment) (target : Value) (key : String) :
    Except ScriptError Value :=
  match target with
  | .dict entries =>
    match Dict.get? entries key with
    | some value => .ok value
    | none => .error (.keyNotPresent key)
  | target => do
    let right ← if key.toList.all Char.isDigit then pure (.string key) else environment.variable key
    BinaryOperator.concat.apply target right

/-- Whether a comparison ignores case. -/
def CaseMode.ignoresCase (environment : Environment) : CaseMode → Bool
  | default => environment.ignoresCase
  | «match» => false
  | ignore => true

mutual

/-- The value of an expression. -/
def Expr.eval (environment : Environment) : Expr → Except ScriptError Value
  | .number value => .ok (.number value)
  | .float value => .ok (.float value)
  | .str text => .ok (.string text)
  | .blob bytes => .ok (.blob bytes)
  | .list items => (evalItems environment items).map .list
  | .dict entries => (evalEntries environment [] entries).map .dict
  | .option name scope => environment.option name scope
  | .register name => .ok (.string (environment.register name))
  | .env name => .ok (.string ((environment.vars.environment? name).getD ""))
  | .var name => environment.variable name
  | .call callee arguments =>
    match callee with
    | .var name => do
      let name ← environment.calleeOfName name
      let arguments ← evalItems environment arguments
      callFunction environment name arguments
    | callee => do
      let name ← calleeOfValue (← callee.eval environment)
      let arguments ← evalItems environment arguments
      callFunction environment name arguments
  | .unary operator operand => do operator.apply (← operand.eval environment)
  | .binary operator left right => do
    let left ← left.eval environment
    if operator = .and then
      if ← left.toBool then return .ofBool (← (← right.eval environment).toBool)
      else return .ofBool false
    else if operator = .or then
      if ← left.toBool then return .ofBool true
      else return .ofBool (← (← right.eval environment).toBool)
    else operator.apply left (← right.eval environment)
  | .compare operator case left right => do
    let left ← left.eval environment
    let right ← right.eval environment
    return .ofBool (← operator.apply (case.ignoresCase environment) left right)
  | .ternary condition yes no => do
    if ← (← condition.eval environment).toBool then yes.eval environment
    else no.eval environment
  | .index target position => do
    let target ← target.eval environment
    target.index (← position.eval environment)
  | .slice target first? last? => do
    let target ← target.eval environment
    let first? ← evalBound environment first?
    let last? ← evalBound environment last?
    target.slice first? last?
  | .member target key => do memberOf environment (← target.eval environment) key

/-- The values of expressions, in order. -/
def evalItems (environment : Environment) : List Expr → Except ScriptError (List Value)
  | [] => .ok []
  | item :: rest => do
    let value ← item.eval environment
    return value :: (← evalItems environment rest)

/-- The entries of a dictionary added to those before them. -/
def evalEntries (environment : Environment) (before : Dict Value) :
    List (Expr × Expr) → Except ScriptError (Dict Value)
  | [] => .ok before
  | (key, value) :: rest => do
    let key ← (← key.eval environment).toText
    let value ← value.eval environment
    evalEntries environment (before.insert key value) rest

/-- A bound of a slice. -/
def evalBound (environment : Environment) : Option Expr → Except ScriptError (Option Int64)
  | none => .ok none
  | some bound => do return some (← (← bound.eval environment).toInteger)

end

end ModalEdit.Script

import ModalEdit.Script.Eval

/-!
Assignment: what is written, with which operator, and what comes of it.
-/

set_option autoImplicit false

namespace ModalEdit.Script

/-- What an assignment writes. -/
inductive Target where
  | var (name : String)
  | option (name : String) (scope : Scope)
  | register (name : Char)
  | env (name : String)
deriving DecidableEq, Inhabited

/-- How the new value comes from the old one. -/
inductive AssignOperator where
  | assign
  | add
  | subtract
  | multiply
  | divide
  | modulo
  | concat
deriving DecidableEq, Inhabited

namespace AssignOperator

/-- The sign before the equals sign. -/
def sign : AssignOperator → String
  | assign => ""
  | add => "+"
  | subtract => "-"
  | multiply => "*"
  | divide => "/"
  | modulo => "%"
  | concat => "."

/-- The operator between the old value and the operand. -/
def binary? : AssignOperator → Option BinaryOperator
  | assign => none
  | add => some .add
  | subtract => some .subtract
  | multiply => some .multiply
  | divide => some .divide
  | modulo => some .modulo
  | concat => some .concat

/-- Whether an old value can be changed in place by the operator. -/
def fits (operator : AssignOperator) : Value → Bool
  | .dict _ | .funcref _ => false
  | .list _ | .blob _ => operator = add
  | _ => true

/-- The new value. -/
def combine (operator : AssignOperator) (current operand : Value) : Except ScriptError Value :=
  match operator.binary? with
  | none => .ok operand
  | some binary =>
    if operator.fits current then binary.apply current operand
    else .error (.wrongVariableType operator.sign)

end AssignOperator

namespace Environment

/-- What a target holds. -/
def read (environment : Environment) : Target → Except ScriptError Value
  | .var name => environment.variable name
  | .option name scope => environment.option name scope
  | .register name => .ok (.string (environment.register name))
  | .env name => .ok (.string ((environment.vars.environment? name).getD ""))

/-- Writes a target. Registers and environment variables hold texts. -/
def write (environment : Environment) (target : Target) (value : Value) :
    Environment × Except ScriptError Unit :=
  match target with
  | .var name =>
    match environment.vars.set name value with
    | .error error => (environment, .error error)
    | .ok vars => ({ environment with vars := vars }, .ok ())
  | .option name scope => environment.setOption name scope value
  | .register name =>
    match value.toText with
    | .error error => (environment, .error error)
    | .ok text => (environment.setRegister name text, .ok ())
  | .env name =>
    match value.toText with
    | .error error => (environment, .error error)
    | .ok text =>
      ({ environment with vars := environment.vars.setEnvironment name text }, .ok ())

/-- The value that an assignment writes. The operand is evaluated before the target is read. -/
def assignedValue (environment : Environment) (target : Target) (operator : AssignOperator)
    (operand : Expr) : Except ScriptError Value := do
  let value ← operand.eval environment
  if operator = .assign then return value
  else operator.combine (← environment.read target) value

/-- Runs an assignment. -/
def assign (environment : Environment) (target : Target) (operator : AssignOperator)
    (operand : Expr) : Environment × Except ScriptError Unit :=
  match environment.assignedValue target operator operand with
  | .error error => (environment, .error error)
  | .ok value => environment.write target value

end Environment

end ModalEdit.Script

import ModalEdit.Script.Token

/-!
Expressions.
-/

set_option autoImplicit false

namespace ModalEdit.Script

inductive UnaryOperator where
  | not
  | negate
  | plus
deriving DecidableEq, Inhabited

/-- The text of an operator before its operand. -/
def UnaryOperator.text : UnaryOperator → String
  | .not => "!"
  | negate => "-"
  | plus => "+"

inductive BinaryOperator where
  | add
  | subtract
  | multiply
  | divide
  | modulo
  | concat
  | and
  | or
deriving DecidableEq, Inhabited

/-- The text of an operator between its operands. -/
def BinaryOperator.text : BinaryOperator → String
  | add => "+"
  | subtract => "-"
  | multiply => "*"
  | divide => "/"
  | modulo => "%"
  | concat => ".."
  | .and => "&&"
  | .or => "||"

/-- An expression. The keys of a dictionary are expressions too; literal keys are texts. -/
inductive Expr where
  | number (value : Int64)
  | float (value : Number.Binary64)
  | str (text : String)
  | blob (bytes : List UInt8)
  | list (items : List Expr)
  | dict (entries : List (Expr × Expr))
  | option (name : String) (scope : Scope)
  | register (name : Char)
  | env (name : String)
  | var (name : String)
  | call (callee : Expr) (arguments : List Expr)
  | unary (operator : UnaryOperator) (operand : Expr)
  | binary (operator : BinaryOperator) (left right : Expr)
  | compare (operator : Comparison) (case : CaseMode) (left right : Expr)
  | ternary (condition yes no : Expr)
  | index (target position : Expr)
  /-- The part of a value between two positions, both included. -/
  | slice (target : Expr) (first last : Option Expr)
  /-- A value and a name joined by a dot. -/
  | member (target : Expr) (key : String)
deriving Inhabited

/-- The name in a plain call of a named function. -/
def Expr.callName? : Expr → Option String
  | .call (.var name) _ => some name
  | _ => none

end ModalEdit.Script

import ModalEdit.Script.Expr
import ModalEdit.Script.Value

/-!
Arithmetic, joining and logic on values. Numbers wrap round in 64 bits, and division by zero gives
the number furthest out.
-/

set_option autoImplicit false

namespace ModalEdit.Script

/-- The value of an operator in front of an operand. -/
def UnaryOperator.apply (operator : UnaryOperator) (value : Value) : Except ScriptError Value :=
  match operator, value with
  | not, .float x => .ok (.float (if x.isZero then .one else .zero))
  | not, value => value.toNumber.map fun n => .ofBool (n == 0)
  | negate, .float x => .ok (.float x.neg)
  | negate, value => value.toNumber.map fun n => .number (-n)
  | plus, .float x => .ok (.float x)
  | plus, value => value.toNumber.map .number

namespace BinaryOperator

/-- An arithmetic operator on floating-point numbers. -/
def onFloats (operator : BinaryOperator) (x y : Number.Binary64) : Number.Binary64 :=
  match operator with
  | add => x.add y
  | subtract => x.sub y
  | multiply => x.mul y
  | _ => x.div y

/-- The quotient of two numbers. A number over zero gives the largest of its sign, and zero over
zero the least number of all. -/
def quotient (m n : Int64) : Int64 :=
  if n = 0 then
    if m = 0 then Int64.minValue else if 0 < m then Int64.maxValue else -Int64.maxValue
  else m / n

/-- An arithmetic operator on numbers. -/
def onNumbers (operator : BinaryOperator) (m n : Int64) : Int64 :=
  match operator with
  | add => m + n
  | subtract => m - n
  | multiply => m * n
  | modulo => if n = 0 then 0 else m % n
  | _ => quotient m n

/-- Joins the texts of two values. -/
def joinTexts (left right : Value) : Except ScriptError Value := do
  return .string ((← left.toText) ++ (← right.toText))

/-- The value of an operator between two operands. -/
def apply (operator : BinaryOperator) (left right : Value) : Except ScriptError Value :=
  match operator, left, right with
  | concat, _, _ => joinTexts left right
  | and, _, _ => do
    if ← left.toBool then return .ofBool (← right.toBool) else return .ofBool false
  | or, _, _ => do
    if ← left.toBool then return .ofBool true else return .ofBool (← right.toBool)
  | add, .list items, .list others => .ok (.list (items ++ others))
  | add, .blob bytes, .blob others => .ok (.blob (bytes ++ others))
  | modulo, .float _, _ | modulo, _, .float _ => .error .floatModulo
  | _, .float _, _ | _, _, .float _ => do
    return .float (operator.onFloats (← left.toFloat) (← right.toFloat))
  | _, _, _ => do
    return .number (operator.onNumbers (← left.toNumber) (← right.toNumber))

end BinaryOperator

end ModalEdit.Script

import ModalEdit.Number.Counting

/-!
The command being typed: its counts, its register, and the key that it still waits for.
-/

set_option autoImplicit false

namespace ModalEdit

/-- What the next key is for. -/
inductive Awaited where
  /-- A command of its own. -/
  | command
  | afterG
  | afterZ
  /-- The name of the register to use. -/
  | registerName
  /-- The character to search on the line. -/
  | findTarget (forward till : Bool)
  | replacement
  /-- The name of the mark to set. -/
  | markToSet
  /-- The name of the mark to go to. -/
  | markToReach (linewise : Bool)
  | digraphFirst
  | digraphSecond (first : Char)
  /-- The name of the register to type. -/
  | registerToType
  /-- The character to type as it is. -/
  | literal
deriving DecidableEq, Inhabited

/-- Whether the key is a character or a name rather than a command. Mappings leave it alone. -/
def Awaited.isLiteral : Awaited → Bool
  | command | afterG | afterZ => false
  | _ => true

structure Pending where
  /-- The count being typed. -/
  count? : Option Nat := none
  /-- The count typed before the operator. -/
  operatorCount? : Option Nat := none
  register? : Option Char := none
  awaited : Awaited := .command
deriving DecidableEq, Inhabited

namespace Pending

/-- Whether nothing of a command has been typed. -/
def isEmpty (pending : Pending) : Bool :=
  pending = {}

/-- Both counts multiplied, or the only one. -/
def mergeCounts : Option Nat → Option Nat → Option Nat
  | some a, some b => some (Number.saturate (a * b))
  | some a, none => some a
  | none, b? => b?

/-- The count of the command. -/
def effectiveCount? (pending : Pending) : Option Nat :=
  mergeCounts pending.operatorCount? pending.count?

/-- The command with one more digit of its count. -/
def pushDigit (pending : Pending) (digit : Nat) : Pending :=
  { pending with count? := some (Number.saturate (pending.count?.getD 0 * 10 + digit)) }

/-- The command with the count typed so far put before its operator. -/
def countBeforeOperator (pending : Pending) : Pending :=
  { pending with operatorCount? := pending.count?, count? := none }

end Pending

end ModalEdit

import ModalEdit.Number.Integer
import ModalEdit.Number.SixDigits
import ModalEdit.Script.Error

/-!
The values of scripts, what they give where a number or a text is wanted, and their text.
-/

set_option autoImplicit false

namespace ModalEdit.Script

/-- A value. The keys of a dictionary are distinct and stay in the order of their insertion. -/
inductive Value where
  | number (value : Int64)
  | float (value : Number.Binary64)
  | string (text : String)
  | list (items : List Value)
  | dict (entries : List (String × Value))
  /-- A function, by name. -/
  | funcref (name : String)
  | blob (bytes : List UInt8)
deriving Inhabited

/-- Entries of keys and values, in order. -/
abbrev Dict (α : Type) := List (String × α)

namespace Dict

variable {α : Type}

/-- The value of a key. -/
def get? (entries : Dict α) (key : String) : Option α :=
  entries.lookup key

/-- The entries with a value for a key. A key that is there keeps its place. -/
def insert (key : String) (value : α) : Dict α → Dict α
  | [] => [(key, value)]
  | (other, old) :: rest =>
    if other = key then (key, value) :: rest else (other, old) :: insert key value rest

/-- The entries without a key. -/
def erase (entries : Dict α) (key : String) : Dict α :=
  entries.filter (·.1 != key)

end Dict

namespace Value

/-- One for true and zero for false. -/
def ofBool (value : Bool) : Value :=
  .number (if value then 1 else 0)

def type : Value → ValueType
  | number _ => .number
  | float _ => .float
  | string _ => .string
  | list _ => .list
  | dict _ => .dict
  | funcref _ => .funcref
  | blob _ => .blob

end Value

end ModalEdit.Script

namespace ModalEdit

/-- The number that stands for a type. -/
def ValueType.code : ValueType → Int64
  | number => 0
  | string => 1
  | funcref => 2
  | list => 3
  | dict => 4
  | float => 5
  | blob => 10

end ModalEdit

namespace ModalEdit.Script.Value

/-- A floating-point number cut off to an integer. -/
def truncateFloat (value : Number.Binary64) : Int64 :=
  Int64.ofInt (value.truncate Int64.minValue.toInt Int64.maxValue.toInt)

/-- The value as a number, floating-point numbers cut off. -/
def toNumber : Value → Except ScriptError Int64
  | number value => .ok value
  | float value => .ok (truncateFloat value)
  | string text => .ok (Number.ofText text)
  | other => .error (.usedAsNumber other.type)

/-- The value where only an integer will do. -/
def toInteger : Value → Except ScriptError Int64
  | float _ => .error (.usedAsNumber .float)
  | other => other.toNumber

/-- The truth of a value: whether it is a number other than zero. -/
def toBool (value : Value) : Except ScriptError Bool :=
  value.toInteger.map (· != 0)

/-- The value as a floating-point number. -/
def toFloat : Value → Except ScriptError Number.Binary64
  | float value => .ok value
  | other => other.toNumber.map fun n => .ofInt n.toInt

/-- The value where a text is wanted. -/
def toText : Value → Except ScriptError String
  | number value => .ok (toString value)
  | string text => .ok text
  | other => .error (.usedAsString other.type)

/-- A text in single quotes, with the quotes in it doubled. -/
def quoted (text : String) : String :=
  String.ofList ('\'' :: text.toList.flatMap (fun c => if c = '\'' then ['\'', '\''] else [c])
    ++ ['\''])

/-- A digit of base sixteen, in upper case. -/
def hexDigit (value : Nat) : Char :=
  if value < 10 then Char.ofNat ('0'.toNat + value) else Char.ofNat ('A'.toNat + value - 10)

/-- Two digits of base sixteen. -/
def hexByte (byte : UInt8) : List Char :=
  [hexDigit (byte.toNat / 16), hexDigit (byte.toNat % 16)]

mutual

/-- The text that reads back as the value. -/
def repr : Value → String
  | number value => toString value
  | float value => value.format
  | string text => quoted text
  | list items => "[" ++ ", ".intercalate (reprItems items) ++ "]"
  | dict entries => "\x7b" ++ ", ".intercalate (reprEntries entries) ++ "\x7d"
  | funcref name => "function('" ++ name ++ "')"
  | blob bytes => "0z" ++ String.ofList (bytes.flatMap hexByte)

def reprItems : List Value → List String
  | [] => []
  | item :: rest => item.repr :: reprItems rest

def reprEntries : List (String × Value) → List String
  | [] => []
  | (key, value) :: rest => (quoted key ++ ": " ++ value.repr) :: reprEntries rest

end

/-- The text that shows the value: of a text itself, and of a function its name. -/
def shown : Value → String
  | string text => text
  | funcref name => name
  | other => other.repr

/-- Whether the value is zero or has nothing in it. -/
def isEmpty : Value → Bool
  | number value => value == 0
  | float value => value.isZero
  | string text => text.isEmpty
  | list items => items.isEmpty
  | dict entries => entries.isEmpty
  | funcref name => name.isEmpty
  | blob bytes => bytes.isEmpty

end ModalEdit.Script.Value

import ModalEdit.Script.Environment
import ModalEdit.Script.Value.Compare
import ModalEdit.Script.Value.Index

/-!
The functions that expressions can call.
-/

set_option autoImplicit false

namespace ModalEdit.Script

/-- A function. -/
inductive Builtin where
  | abs
  | and
  | call
  | empty
  | exists
  | floatToNumber
  | function
  | get
  | hasKey
  | invert
  | join
  | keys
  | len
  | or
  | range
  | split
  | stringToNumber
  | string
  | toLower
  | toUpper
  | type
  | values
  | xor
deriving DecidableEq, Inhabited

namespace Builtin

/-- The functions by name, with the least and the greatest number of their arguments. -/
def table : List (String × Builtin × Nat × Nat) := [
  ("abs", .abs, 1, 1), ("and", .and, 2, 2), ("call", .call, 2, 3), ("empty", .empty, 1, 1),
  ("exists", .exists, 1, 1), ("float2nr", .floatToNumber, 1, 1), ("function", .function, 1, 1),
  ("get", .get, 2, 3), ("has_key", .hasKey, 2, 2), ("invert", .invert, 1, 1),
  ("join", .join, 1, 2), ("keys", .keys, 1, 1), ("len", .len, 1, 1), ("or", .or, 2, 2),
  ("range", .range, 1, 3), ("split", .split, 1, 3), ("str2nr", .stringToNumber, 1, 2),
  ("string", .string, 1, 1), ("tolower", .toLower, 1, 1), ("toupper", .toUpper, 1, 1),
  ("type", .type, 1, 1), ("values", .values, 1, 1), ("xor", .xor, 2, 2)]

/-- Whether there is a function of this name. -/
def isName (name : String) : Bool :=
  (table.lookup name).isSome

/-- The function of a name that takes so many arguments. -/
def find (name : String) (count : Nat) : Except ScriptError Builtin :=
  match table.lookup name with
  | none => .error (.unknownFunction name)
  | some (builtin, least, greatest) =>
    if count < least then .error (.notEnoughArguments name)
    else if greatest < count then .error (.tooManyArguments name)
    else .ok builtin

/-- The size of a number without its sign; the least number has the largest. -/
def absolute (n : Int64) : Int64 :=
  if n = Int64.minValue then Int64.maxValue else if n < 0 then -n else n

/-- The sum of two numbers, unless 64 bits cannot hold it. -/
def sum? (m n : Int64) : Option Int64 :=
  let sum := m.toInt + n.toInt
  if Int64.minValue.toInt ≤ sum ∧ sum ≤ Int64.maxValue.toInt then some (m + n) else none

theorem sum?_eq_some_iff (m n sum : Int64) :
    sum? m n = some sum ↔ sum.toInt = m.toInt + n.toInt := by
  have least : Int64.minValue.toInt = -2 ^ 63 := rfl
  have most : Int64.maxValue.toInt = 2 ^ 63 - 1 := rfl
  have low := sum.le_toInt
  have high := sum.toInt_lt
  unfold sum?
  dsimp only
  split
  · rename_i fits
    have exact : (m + n).toInt = m.toInt + n.toInt := by
      rw [Int64.toInt_add]
      exact Int.bmod_eq_of_le_mul_two (by omega) (by omega)
    rw [Option.some_inj, ← Int64.toInt_inj, exact]
    exact eq_comm
  · rename_i outside
    constructor
    · intro none
      cases none
    · intro same
      omega

/-- Whether a number has not passed the last one, on the way that the sign of the stride gives. -/
def isWithin (last stride n : Int64) : Bool :=
  (0 < stride && n ≤ last) || (stride < 0 && last ≤ n)

theorem isWithin_iff (last stride n : Int64) :
    isWithin last stride n = true ↔
      (0 < stride.toInt ∧ n.toInt ≤ last.toInt) ∨ (stride.toInt < 0 ∧ last.toInt ≤ n.toInt) := by
  have zero : (0 : Int64).toInt = 0 := rfl
  simp [isWithin, Int64.lt_iff_toInt_lt, Int64.le_iff_toInt_le, zero]

/-- The numbers from `n` on in steps of `stride`, as far as they do not pass `last` and 64 bits hold
them, behind those before. -/
def progression (last stride : Int64) (before : Array Int64) (n : Int64) : Array Int64 :=
  if _within : isWithin last stride n = true then
    match _isNext : sum? n stride with
    | some next => progression last stride (before.push n) next
    | none => before.push n
  else before
termination_by
  (if 0 < stride.toInt then last.toInt + 1 - n.toInt else n.toInt + 1 - last.toInt).toNat
decreasing_by
  rw [isWithin_iff] at _within
  rw [sum?_eq_some_iff] at _isNext
  split <;> omega

/-- The numbers between two bounds. The second bound is checked with one step of room. -/
def rangeOf (first last stride : Int64) : Except ScriptError (List Int64) :=
  if stride = 0 then .error .strideIsZero
  else if 0 < stride ∧ Int64.ofIntClamp (last.toInt + 1) < first then .error .startPastEnd
  else if stride < 0 ∧ first < Int64.ofIntClamp (last.toInt - 1) then .error .startPastEnd
  else .ok (progression last stride #[] first).toList

/-- The numbers of one, two or three arguments: up to the first, or from the first to the second.
-/
def rangeValue (first : Value) (last? stride? : Option Value) : Except ScriptError Value := do
  let first ← first.toInteger
  let (start, stop) ←
    match last? with
    | some last => do pure (first, ← last.toInteger)
    | none => if first = Int64.minValue then throw .startPastEnd else pure (0, first - 1)
  let stride ←
    match stride? with
    | some stride => stride.toInteger
    | none => pure 1
  let numbers ← rangeOf start stop stride
  return .list (numbers.map .number)

/-- The pieces without an empty first and an empty last one. -/
def dropEmptyEnds (pieces : List (List Char)) : List (List Char) :=
  let pieces := if pieces.head?.any List.isEmpty then pieces.tail else pieces
  if pieces.getLast?.any List.isEmpty then pieces.dropLast else pieces

/-- What texts are split at unless they are told otherwise. -/
def defaultSeparator : String := "\\s\\+"

/-- The pieces of a text around the matches of a pattern. -/
def splitText (environment : Environment) (text : Value) (pattern? keepEmpty? : Option Value) :
    Except ScriptError Value := do
  let text ← text.toText
  let pattern ←
    match pattern? with
    | some pattern => do
      let pattern ← pattern.toText
      pure (if pattern.isEmpty then defaultSeparator else pattern)
    | none => pure defaultSeparator
  let keepEmpty ←
    match keepEmpty? with
    | some keepEmpty => keepEmpty.toBool
    | none => pure false
  let program ← Pattern.compile pattern environment.ignoresCase
  let pieces := program.split text.toList
  let kept := if keepEmpty then pieces else dropEmptyEnds pieces
  return .list (kept.map fun piece => .string (String.ofList piece))

/-- The texts of the items, with a separator between them. -/
def joinItems (items : Value) (separator? : Option Value) : Except ScriptError Value :=
  match items with
  | .list items => do
    let separator ←
      match separator? with
      | some separator => separator.toText
      | none => pure " "
    let shown (item : Value) : String :=
      match item with
      | .string text => text
      | other => other.repr
    return .string (separator.intercalate (items.map shown))
  | _ => .error .listRequired

/-- How much a value holds: bytes, items or entries. -/
def lengthOf : Value → Except ScriptError Nat
  | .string text => .ok text.utf8ByteSize
  | .number n => .ok (toString n).utf8ByteSize
  | .list items => .ok items.length
  | .dict entries => .ok entries.length
  | .blob bytes => .ok bytes.length
  | .float _ | .funcref _ => .error .invalidLenType

/-- The entries of a dictionary. -/
def entriesOf : Value → Except ScriptError (Dict Value)
  | .dict entries => .ok entries
  | _ => .error .dictRequired

/-- As an index, but where there is nothing a default comes in. -/
def getItem (container key : Value) (default? : Option Value) : Except ScriptError Value :=
  match container with
  | .list _ | .dict _ | .blob _ =>
    match container.index key with
    | .error (.listIndexOutOfRange _) | .error (.keyNotPresent _)
    | .error (.blobIndexOutOfRange _) => .ok (default?.getD (.number 0))
    | result => result
  | _ => .error (.containerRequired "get()")

/-- The name of a function that a value gives. -/
def functionName : Value → Except ScriptError String
  | .funcref name | .string name => .ok name
  | _ => .error .functionNameRequired

/-- Whether there is an option, environment variable, function or variable of this name, the first
three marked by a sign in front. -/
def existsName (environment : Environment) (name : String) : Bool :=
  match name.toList with
  | '&' :: rest =>
    let (scope, option) := Scope.splitName rest
    (environment.options.get scope (String.ofList option)).isOk
  | '$' :: rest => (environment.vars.environment? (String.ofList rest)).isSome
  | '*' :: rest => isName (String.ofList rest)
  | _ => (environment.vars.get? name).isSome

/-- The number at the start of a text in a base. -/
def numberOf (text : Value) (base? : Option Value) : Except ScriptError Value := do
  let base ←
    match base? with
    | some base => base.toInteger
    | none => pure 10
  if base = 2 ∨ base = 8 ∨ base = 10 ∨ base = 16 then
    let text ← text.toText
    return .number (Number.readInteger (some base.toNatClampNeg) text.toList)
  else throw .invalidArgument

/-- The integer that a number stands for. -/
def cutOff : Value → Except ScriptError Value
  | .float x => .ok (.number (Value.truncateFloat x))
  | .number n => .ok (.number n)
  | _ => .error .numberOrFloatRequired

/-- An operation on two integers. -/
def onIntegers (operation : Int64 → Int64 → Int64) (left right : Value) :
    Except ScriptError Value := do
  return .number (operation (← left.toInteger) (← right.toInteger))

/-- The value of a function that calls no other. The arguments are as many as it takes. -/
def value (environment : Environment) (builtin : Builtin) (arguments : List Value) :
    Except ScriptError Value :=
  let first := arguments[0]?.getD default
  let second := arguments[1]?.getD default
  match builtin with
  | abs =>
    match first with
    | .float x => .ok (.float x.abs)
    | other => other.toNumber.map fun n => .number (absolute n)
  | and => onIntegers (· &&& ·) first second
  | or => onIntegers (· ||| ·) first second
  | xor => onIntegers (· ^^^ ·) first second
  | invert => first.toInteger.map fun n => .number (~~~n)
  | call => .error .listRequired
  | empty => .ok (.ofBool first.isEmpty)
  | «exists» => first.toText.map fun name => .ofBool (existsName environment name)
  | floatToNumber => cutOff first
  | function => do
    let name ← functionName first
    if isName name then return .funcref name else throw (.unknownFuncref name)
  | get => getItem first second arguments[2]?
  | hasKey => do
    let entries ← entriesOf first
    let key ← second.toText
    return .ofBool (Dict.get? entries key).isSome
  | join => joinItems first arguments[1]?
  | keys => (entriesOf first).map fun entries => .list (entries.map fun entry => .string entry.1)
  | len => (lengthOf first).map fun length => .number (Int64.ofIntClamp length)
  | range => rangeValue first arguments[1]? arguments[2]?
  | split => splitText environment first arguments[1]? arguments[2]?
  | stringToNumber => numberOf first arguments[1]?
  | string => .ok (.string first.repr)
  | toLower =>
    first.toText.map fun text => .string (String.ofList (Text.toLower text.toList))
  | toUpper =>
    first.toText.map fun text => .string (String.ofList (Text.toUpper text.toList))
  | type => .ok (.number first.type.code)
  | values => (entriesOf first).map fun entries => .list (entries.map Prod.snd)

end Builtin

/-- Calls a function by name. Its arguments may name another function to call, with arguments of
its own. -/
def callFunction (environment : Environment) (name : String) (arguments : List Value) :
    Except ScriptError Value :=
  match Builtin.find name arguments.length with
  | .error error => .error error
  | .ok builtin =>
    if builtin = .call then
      match arguments with
      | callee :: .list inner :: _ =>
        match Builtin.functionName callee with
        | .error error => .error error
        | .ok name => callFunction environment name inner
      | callee :: _ =>
        match Builtin.functionName callee with
        | .error error => .error error
        | .ok _ => .error .listRequired
      | [] => .error (.notEnoughArguments name)
    else builtin.value environment arguments
termination_by sizeOf arguments
decreasing_by
  simp only [List.cons.sizeOf_spec, Value.list.sizeOf_spec]
  omega

theorem callFunction_of_find (environment : Environment) {name : String} {arguments : List Value}
    {builtin : Builtin} (found : Builtin.find name arguments.length = .ok builtin)
    (direct : builtin ≠ .call) :
    callFunction environment name arguments = builtin.value environment arguments := by
  rw [callFunction.eq_def, found]
  exact if_neg direct

end ModalEdit.Script

import ModalEdit.Script.Value

/-!
Items and parts of values. Positions count from zero, and from the end where they are negative.
-/

set_option autoImplicit false

namespace ModalEdit.Script.Value

/-- A position counted from the start, which may lie outside. -/
def fromStart (length : Nat) (position : Int) : Int :=
  if position < 0 then length + position else position

/-- The place of a position among `length` items. -/
def place? (length : Nat) (position : Int) : Option Nat :=
  let place := fromStart length position
  if 0 ≤ place ∧ place < length then some place.toNat else none

/-- The item at a position. -/
def itemAt? {α : Type} (items : List α) (position : Int) : Option α :=
  (place? items.length position).bind (items[·]?)

/-- The items between two positions, both included. A missing bound is the first or the last
item. -/
def part {α : Type} (first? last? : Option Int) (items : List α) : List α :=
  let first := max (fromStart items.length (first?.getD 0)) 0
  let last := min (fromStart items.length (last?.getD (-1))) (items.length - 1)
  if first > last then [] else (items.drop first.toNat).take (last - first + 1).toNat

/-- The item of a value: of a text a character, which is empty outside the text. -/
def index (value position : Value) : Except ScriptError Value :=
  match value with
  | list items => do
    let i ← position.toInteger
    match itemAt? items i.toInt with
    | some item => return item
    | none => throw (.listIndexOutOfRange i)
  | dict entries => do
    let key ← position.toText
    match Dict.get? entries key with
    | some item => return item
    | none => throw (.keyNotPresent key)
  | blob bytes => do
    let i ← position.toInteger
    match itemAt? bytes i.toInt with
    | some byte => return .number (Int64.ofNat byte.toNat)
    | none => throw (.blobIndexOutOfRange i)
  | string _ | number _ => do
    let text ← value.toText
    let i ← position.toInteger
    let char? := if i < 0 then none else text.toList[i.toNatClampNeg]?
    return .string (String.ofList char?.toList)
  | float _ | funcref _ => .error .cannotIndex

/-- The part of a value between two positions, both included. -/
def slice (value : Value) (first? last? : Option Int64) : Except ScriptError Value :=
  let first? := first?.map Int64.toInt
  let last? := last?.map Int64.toInt
  match value with
  | list items => .ok (.list (part first? last? items))
  | blob bytes => .ok (.blob (part first? last? bytes))
  | string _ | number _ => do
    return .string (String.ofList (part first? last? (← value.toText).toList))
  | dict _ | float _ | funcref _ => .error .cannotIndex

end ModalEdit.Script.Value

import ModalEdit.Pattern.Reader
import ModalEdit.Script.Token
import ModalEdit.Script.Value
import ModalEdit.Text.CaseMap

/-!
Comparing values: the order of numbers and texts, equality of containers item by item, and
matching a text against a pattern.
-/

set_option autoImplicit false

namespace ModalEdit.Text

/-- The order of texts, character by character. -/
def compareText : List Char → List Char → Ordering
  | [], [] => .eq
  | [], _ :: _ => .lt
  | _ :: _, [] => .gt
  | a :: first, b :: second =>
    if a = b then compareText first second else compare a.toNat b.toNat

theorem compareText_self (text : List Char) : compareText text text = .eq := by
  induction text with
  | nil => rfl
  | cons c rest ih => simp [compareText, ih]

end ModalEdit.Text

namespace ModalEdit.Pattern

/-- The program of a pattern. -/
def compile (pattern : String) (ignoreCase : Bool) : Except ScriptError Program :=
  match Program.ofPattern? pattern.toList ignoreCase with
  | some program => .ok program
  | none => .error (.invalidPattern pattern)

end ModalEdit.Pattern

namespace ModalEdit.Script.Value

/-- The characters that a comparison looks at. -/
def comparedText (ignoreCase : Bool) (text : String) : List Char :=
  if ignoreCase then Text.toLower text.toList else text.toList

/-- The order of two numbers or texts. A text next to a number is read as a number, and there is no
order where a floating-point number is not a number. -/
def order? (ignoreCase : Bool) (left right : Value) : Except ScriptError (Option Ordering) :=
  match left, right with
  | string a, string b =>
    .ok (some (Text.compareText (comparedText ignoreCase a) (comparedText ignoreCase b)))
  | float _, _ | _, float _ => do
    return (← left.toFloat).compare? (← right.toFloat)
  | _, _ => do
    return some (compare (← left.toNumber).toInt (← right.toNumber).toInt)

/-- Whether two values that hold no others are equal. -/
def scalarsEqual (ignoreCase : Bool) (left right : Value) : Bool :=
  match order? ignoreCase left right with
  | .ok (some .eq) => true
  | _ => false

mutual

/-- Whether two values are equal: containers hold equal values, in the same places or under the
same keys. -/
def equal (ignoreCase : Bool) : Value → Value → Bool
  | list items, right =>
    match right with
    | list others => equalItems ignoreCase items others
    | right => scalarsEqual ignoreCase (list items) right
  | dict entries, right =>
    match right with
    | dict others => entries.length == others.length && equalEntries ignoreCase others entries
    | right => scalarsEqual ignoreCase (dict entries) right
  | funcref name, funcref other => name == other
  | blob bytes, blob others => bytes == others
  | left, right => scalarsEqual ignoreCase left right

def equalItems (ignoreCase : Bool) : List Value → List Value → Bool
  | [], [] => true
  | item :: rest, other :: others =>
    equal ignoreCase item other && equalItems ignoreCase rest others
  | _, _ => false

/-- Whether the other dictionary has the same value under each key. -/
def equalEntries (ignoreCase : Bool) (others : Dict Value) : List (String × Value) → Bool
  | [] => true
  | (key, value) :: rest =>
    (match Dict.get? others key with
      | some other => equal ignoreCase value other
      | none => false)
      && equalEntries ignoreCase others rest

end

end ModalEdit.Script.Value

namespace ModalEdit.Script.Comparison

/-- Comparisons that ask whether two values are equal. -/
def isEquality : Comparison → Bool
  | equal | notEqual | is | isNot => true
  | _ => false

/-- Comparisons that hold where another does not. -/
def isNegated : Comparison → Bool
  | notEqual | isNot | noMatch => true
  | _ => false

/-- Whether a comparison that is not negated holds for an order. -/
def accepts : Comparison → Option Ordering → Bool
  | greater, order? => order? == some .gt
  | greaterEqual, order? => order? == some .gt || order? == some .eq
  | less, order? => order? == some .lt
  | lessEqual, order? => order? == some .lt || order? == some .eq
  | _, order? => order? == some .eq

/-- Whether the text of the left value matches the pattern on the right. -/
def matchText (ignoreCase : Bool) (left right : Value) : Except ScriptError Bool := do
  let program ← Pattern.compile (← right.toText) ignoreCase
  return program.isMatch (← left.toText).toList

/-- The outcome of a comparison before its negation. -/
def holds (operator : Comparison) (ignoreCase : Bool) (left right : Value) :
    Except ScriptError Bool :=
  match left, right with
  | .list _, .list _ =>
    if operator.isEquality then .ok (left.equal ignoreCase right) else .error .listOperation
  | .list _, _ | _, .list _ => .error .compareListWithOther
  | .dict _, .dict _ =>
    if operator.isEquality then .ok (left.equal ignoreCase right) else .error .dictOperation
  | .dict _, _ | _, .dict _ => .error .compareDictWithOther
  | .funcref _, .funcref _ =>
    if operator.isEquality then .ok (left.equal ignoreCase right) else .error .funcrefOperation
  | .funcref _, _ | _, .funcref _ =>
    if operator.isEquality then .ok false else .error .funcrefOperation
  | .blob _, .blob _ =>
    if operator.isEquality then .ok (left.equal ignoreCase right) else .error .blobOperation
  | .blob _, _ | _, .blob _ => if operator.isEquality then .ok false else .error .blobOperation
  | _, _ =>
    if operator = .matches ∨ operator = .noMatch then matchText ignoreCase left right
    else (Value.order? ignoreCase left right).map operator.accepts

/-- Compares two values. Values of different types are never the same. -/
def apply (operator : Comparison) (ignoreCase : Bool) (left right : Value) :
    Except ScriptError Bool :=
  if (operator = .is ∨ operator = .isNot) ∧ left.type ≠ right.type then .ok operator.isNegated
  else (holds operator ignoreCase left right).map (· != operator.isNegated)

end ModalEdit.Script.Comparison

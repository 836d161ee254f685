/-!
Keys: a character or a named key, with the modifiers held down.
-/

set_option autoImplicit false

namespace ModalEdit

/-- What a key is, apart from modifiers. -/
inductive KeyCode where
  | char (c : Char)
  | enter
  | tab
  | backspace
  | escape
  | delete
  | insert
  | up
  | down
  | left
  | right
  | home
  | «end»
  | pageUp
  | pageDown
  | function (number : Nat)
deriving DecidableEq, Inhabited

/-- The modifiers held down with a key. -/
structure Modifiers where
  shift : Bool := false
  alt : Bool := false
  ctrl : Bool := false
  metaKey : Bool := false
deriving DecidableEq, Inhabited

/-- No modifier at all. -/
def Modifiers.none : Modifiers := {}

/-- The modifiers of either set. -/
def Modifiers.union (a b : Modifiers) : Modifiers :=
  ⟨a.shift || b.shift, a.alt || b.alt, a.ctrl || b.ctrl, a.metaKey || b.metaKey⟩

/-- One key press. -/
structure Key where
  code : KeyCode
  modifiers : Modifiers := .none
deriving DecidableEq, Inhabited

namespace Key

/-- A character key without modifiers. -/
def ofChar (c : Char) : Key := ⟨.char c, .none⟩

/-- A named key without modifiers. -/
def named (code : KeyCode) : Key := ⟨code, .none⟩

def escape : Key := named .escape

def enter : Key := named .enter

/-- A character key with control alone. ASCII letters are kept in lower case. -/
def ctrl (c : Char) : Key := ⟨.char c.toLower, { ctrl := true }⟩

/-- The character that the key types. Shift is already part of the character. -/
def printable? (key : Key) : Option Char :=
  match key.code with
  | .char c =>
    if key.modifiers.ctrl || key.modifiers.alt || key.modifiers.metaKey then none else some c
  | _ => none

/-- Whether the key is control and this character, in either case of an ASCII letter. -/
def isCtrl (key : Key) (c : Char) : Bool :=
  match key.code with
  | .char typed => key.modifiers == { ctrl := true } && typed.toLower == c.toLower
  | _ => false

/-- A named key with shift held. -/
def isShiftedNamed (key : Key) : Bool :=
  match key.code with
  | .char _ => false
  | _ => key.modifiers.shift

/-- The same key without shift. -/
def unshifted (key : Key) : Key :=
  { key with modifiers := { key.modifiers with shift := false } }

/-- The arrow, home, end and page keys. -/
def isCursorKey (key : Key) : Bool :=
  match key.code with
  | .up | .down | .left | .right | .home | .end | .pageUp | .pageDown => true
  | _ => false

/-- A key is control and one character at most. -/
theorem isCtrl_of_ne {key : Key} {c other : Char} (ctrl : key.isCtrl c = true)
    (differ : c.toLower ≠ other.toLower) : key.isCtrl other = false := by
  obtain ⟨code, modifiers⟩ := key
  cases code with
  | char typed =>
    unfold isCtrl at ctrl ⊢
    dsimp only at ctrl ⊢
    have same : typed.toLower = c.toLower := eq_of_beq (Bool.and_eq_true_iff.mp ctrl).2
    rw [same, beq_eq_false_iff_ne.mpr differ, Bool.and_false]
  | _ => rfl

theorem printable?_ofChar (c : Char) : (ofChar c).printable? = some c := rfl

theorem printable?_named_escape : escape.printable? = none := rfl

end Key

end ModalEdit

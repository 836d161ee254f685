import ModalEdit.Key
import ModalEdit.Mode
import ModalEdit.Motion

/-!
What single keys stand for: motions, operators and characters.
-/

set_option autoImplicit false

namespace ModalEdit

namespace Key

/-- The operators of a single key. -/
def operator? (key : Key) : Option Operator :=
  match key.printable? with
  | some 'd' => some .delete
  | some 'c' => some .change
  | some 'y' => some .yank
  | some '>' => some .shiftRight
  | some '<' => some .shiftLeft
  | _ => none

/-- The motions of a character. -/
def motionOfChar? : Char → Option Motion
  | 'h' => some .left
  | 'l' | ' ' => some .right
  | 'j' => some .down
  | 'k' => some .up
  | '0' => some .lineStart
  | '^' => some .firstNonBlank
  | '$' => some .lineEnd
  | 'w' => some (.wordStart .small)
  | 'W' => some (.wordStart .big)
  | 'b' => some (.wordBack .small)
  | 'B' => some (.wordBack .big)
  | 'e' => some (.wordEnd .small)
  | 'E' => some (.wordEnd .big)
  | 'G' => some .lastLine
  | '}' => some .paragraphForward
  | '{' => some .paragraphBackward
  | 'H' => some .windowTop
  | 'M' => some .windowMiddle
  | 'L' => some .windowBottom
  | '+' => some .nextLine
  | '-' => some .previousLine
  | '_' => some .currentLine
  | '|' => some .column
  | _ => none

/-- The motions of a named key. -/
def motionOfNamed? : KeyCode → Option Motion
  | .left | .backspace => some .left
  | .right => some .right
  | .up => some .up
  | .down => some .down
  | .home => some .lineStart
  | .end => some .lineEnd
  | .enter => some .nextLine
  | _ => none

/-- The motions of a single key. -/
def motion? (key : Key) : Option Motion :=
  if key.isCtrl 'h' then some .left
  else if key.isCtrl 'j' || key.isCtrl 'n' then some .down
  else if key.isCtrl 'p' then some .up
  else
    match key.printable? with
    | some c => motionOfChar? c
    | none => if key.modifiers = .none then motionOfNamed? key.code else none

/-- The character that a key stands for where any character is expected. -/
def target? (key : Key) : Option Char :=
  match key.printable? with
  | some c => some c
  | none =>
    match key.code with
    | .tab => some '\t'
    | .enter => some '\n'
    | _ => none

/-- The character that a key types when it is typed as it is. Control and a letter is a control
character. -/
def literal? (key : Key) : Option Char :=
  match key.code with
  | .char c =>
    if key.isCtrl c ∧ c.isAlpha then some (Char.ofNat (c.toUpper.toNat - 0x40))
    else key.printable?
  | .tab => some '\t'
  | .enter => some '\r'
  | .escape => some '\x1b'
  | _ => none

/-- Whether no modifier is held. -/
def isPlain (key : Key) : Bool :=
  key.modifiers = .none

end Key

end ModalEdit

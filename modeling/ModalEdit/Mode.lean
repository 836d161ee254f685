/-!
The editing modes, the shapes of selections, and the operators.
-/

set_option autoImplicit false

namespace ModalEdit

/-- The shape of a selection: characters, whole lines, or a block of columns. -/
inductive SelectionKind where
  | character
  | line
  | block
deriving DecidableEq, Inhabited

/-- What is done to a range of text. -/
inductive Operator where
  | delete
  | change
  | yank
  | shiftRight
  | shiftLeft
  | toggleCase
  | lowercase
  | uppercase
deriving DecidableEq, Inhabited

/-- The key that, typed again, applies the operator to whole lines. -/
def Operator.doublingKey : Operator → Char
  | delete => 'd'
  | change => 'c'
  | yank => 'y'
  | shiftRight => '>'
  | shiftLeft => '<'
  | toggleCase => '~'
  | lowercase => 'u'
  | uppercase => 'U'

/-- The keys that the operator is typed with. -/
def Operator.keys : Operator → String
  | delete => "d"
  | change => "c"
  | yank => "y"
  | shiftRight => ">"
  | shiftLeft => "<"
  | toggleCase => "g~"
  | lowercase => "gu"
  | uppercase => "gU"

/-- Where a passing mode goes when it ends. -/
inductive ReturnMode where
  | normal
  | insert
  | replace
deriving DecidableEq, Inhabited

/-- The editing mode. -/
inductive Mode where
  | normal
  | insert
  | replace
  | visual (kind : SelectionKind) (returnTo : ReturnMode)
  | select (kind : SelectionKind) (returnTo : ReturnMode)
  | operatorPending (operator : Operator) (returnTo : ReturnMode)
  | commandLine
deriving DecidableEq, Inhabited

/-- The mode that a passing mode goes back to. -/
def ReturnMode.mode : ReturnMode → Mode
  | normal => .normal
  | insert => .insert
  | replace => .replace

namespace Mode

/-- Where a passing mode entered from this one goes when it ends. -/
def returnTo : Mode → ReturnMode
  | insert => .insert
  | replace => .replace
  | visual _ target | select _ target | operatorPending _ target => target
  | normal | commandLine => .normal

/-- The name shown for the mode. -/
def displayName : Mode → String
  | normal => "NORMAL"
  | insert => "INSERT"
  | replace => "REPLACE"
  | visual .character _ => "VISUAL"
  | visual .line _ => "VISUAL LINE"
  | visual .block _ => "VISUAL BLOCK"
  | select .character _ => "SELECT"
  | select .line _ => "SELECT LINE"
  | select .block _ => "SELECT BLOCK"
  | operatorPending .. => "OP PENDING"
  | commandLine => "COMMAND"

/-- Whether the caret may stand behind the last character of a line. -/
def caretPastEnd : Mode → Bool
  | insert | replace | select .. | commandLine => true
  | _ => false

def isVisual : Mode → Bool
  | visual .. => true
  | _ => false

def isSelect : Mode → Bool
  | select .. => true
  | _ => false

/-- The shape of the selection in the modes that have one. -/
def selectionKind? : Mode → Option SelectionKind
  | visual kind _ | select kind _ => some kind
  | _ => none

/-- The modes in which keys type text. -/
def isTyping : Mode → Bool
  | insert | replace => true
  | _ => false

end Mode

end ModalEdit

import ModalEdit.Error
import ModalEdit.Mode
import ModalEdit.Number.Integer
import ModalEdit.Text.Split

/-!
The look of the cursor in each mode: entries of the form `modes:arguments`, and the look that a
list of entries gives to a mode.
-/

set_option autoImplicit false

namespace ModalEdit

/-- The modes that the cursor's look distinguishes. -/
inductive CursorMode where
  | normal
  | visual
  | visualExclusive
  | operatorPending
  | insert
  | replace
  | commandLine
  | commandLineInsert
  | commandLineReplace
  | showMatch
deriving DecidableEq, Inhabited

/-- The cursor mode of an editing mode. A selection that excludes its end looks different. -/
def CursorMode.ofMode (exclusive : Bool) : Mode → CursorMode
  | .normal => .normal
  | .insert => .insert
  | .replace => .replace
  | .visual .. => if exclusive then .visualExclusive else .visual
  | .select .. => .visualExclusive
  | .operatorPending .. => .operatorPending
  | .commandLine => .commandLine

/-- The modes that an entry names, and whether it names all of them. -/
structure CursorModes where
  modes : List CursorMode := []
  all : Bool := false
deriving DecidableEq, Inhabited

/-- The mode of a name; `none` stands for all modes. -/
def cursorModeNames : List (String × Option CursorMode) := [
  ("n", some .normal), ("v", some .visual), ("ve", some .visualExclusive),
  ("o", some .operatorPending), ("i", some .insert), ("r", some .replace),
  ("c", some .commandLine), ("ci", some .commandLineInsert), ("cr", some .commandLineReplace),
  ("sm", some .showMatch), ("a", none)]

/-- The modes together with those of one more name. -/
def CursorModes.add (modes : CursorModes) : Option CursorMode → CursorModes
  | some mode => { modes with modes := modes.modes ++ [mode] }
  | none => { modes with all := true }

/-- Whether an entry with these modes counts in a mode. -/
def CursorModes.applyTo (modes : CursorModes) (mode : CursorMode) : Bool :=
  modes.all || modes.modes.contains mode

/-- The shape of the cursor. -/
inductive CursorShape where
  | block
  | vertical
  | horizontal
deriving DecidableEq, Inhabited

/-- How the cursor looks. The thickness of a bar is a percentage of its cell. -/
structure CursorLook where
  shape : CursorShape := .block
  thickness : Nat := 0
  highlight : String := ""
  languageHighlight : String := ""
  blink : List String := []
deriving DecidableEq, Inhabited

/-- One entry: the text it was read from, its modes, and the look it asks for. -/
structure CursorEntry where
  token : String
  modes : CursorModes
  look : CursorLook
deriving DecidableEq, Inhabited

namespace CursorEntry

/-- The percentage behind the name of a bar shape. -/
def parseThickness (token : String) (digits : List Char) : Except EditorError Nat :=
  match Number.parseInteger? digits with
  | none => .error (.digitExpected token)
  | some value =>
    if 1 ≤ value ∧ value ≤ 100 then .ok value.toNatClampNeg
    else .error (.illegalPercentage token)

/-- The look after one more argument of an entry. -/
def applyArgument (token : String) (look : CursorLook) (argument : List Char) :
    Except EditorError CursorLook :=
  if argument = "block".toList then .ok { look with shape := .block }
  else
    match Text.strip? "ver".toList argument, Text.strip? "hor".toList argument with
    | some digits, _ => do
      return { look with shape := .vertical, thickness := ← parseThickness token digits }
    | none, some digits => do
      return { look with shape := .horizontal, thickness := ← parseThickness token digits }
    | none, none =>
      if "blink".toList.isPrefixOf argument then
        .ok { look with blink := look.blink ++ [String.ofList argument] }
      else
        match Text.splitFirst? '/' argument with
        | some (group, language) =>
          .ok { look with
            highlight := String.ofList group, languageHighlight := String.ofList language }
        | none => .ok { look with highlight := String.ofList argument }

/-- The modes after one more name of an entry. -/
def applyModeName (token : String) (modes : CursorModes) (name : List Char) :
    Except EditorError CursorModes :=
  match cursorModeNames.lookup (String.ofList name) with
  | some mode => .ok (modes.add mode)
  | none => .error (.illegalMode token)

/-- Reads an entry. -/
def parse (text : List Char) : Except EditorError CursorEntry :=
  let token := String.ofList text
  match Text.splitOn ':' text with
  | [modeNames, arguments] => do
    let modes ← (Text.splitOn '-' modeNames).foldlM (applyModeName token) {}
    let look ← (Text.splitOn '-' arguments).foldlM (applyArgument token) {}
    return ⟨token, modes, look⟩
  | [_] | [] => .error (.missingColon token)
  | _ => .error (.illegalMode token)

end CursorEntry

/-- The look after one more entry: its shape and thickness always, the rest where it says
something. -/
def CursorLook.overlay (look : CursorLook) (entry : CursorEntry) : CursorLook where
  shape := entry.look.shape
  thickness := entry.look.thickness
  highlight := if entry.look.highlight.isEmpty then look.highlight else entry.look.highlight
  languageHighlight :=
    if entry.look.languageHighlight.isEmpty then look.languageHighlight
    else entry.look.languageHighlight
  blink := if entry.look.blink.isEmpty then look.blink else entry.look.blink

/-- The look that a list of entries gives to a mode: those that name it, laid over each other in
order. -/
def CursorLook.ofEntries (entries : List CursorEntry) (mode : CursorMode) : CursorLook :=
  (entries.filter (·.modes.applyTo mode)).foldl CursorLook.overlay {}

end ModalEdit

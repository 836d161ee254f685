/-!
Registers: where deleted and copied text goes, and where it is put back from.
-/

set_option autoImplicit false

namespace ModalEdit

/-- How the text of a register is put back: within a line, or as whole lines. -/
inductive RegisterKind where
  | char
  | line
deriving DecidableEq, Inhabited

/-- Whether text is copied or deleted. -/
inductive Capture where
  | yank
  | delete
deriving DecidableEq, Inhabited

/-- The text of a register and its kind. -/
structure Register where
  content : List Char := []
  kind : RegisterKind := .char
deriving DecidableEq, Inhabited

/-- The register with more text behind. Whole lines on either side make whole lines, and the old
text then ends in a line break. -/
def Register.append (register : Register) (text : List Char) (kind : RegisterKind) : Register :=
  if kind = .line ∨ register.kind = .line then
    let broken := register.content = [] ∨ register.content.getLast? = some '\n'
    ⟨register.content ++ (if broken then [] else ['\n']) ++ text, .line⟩
  else { register with content := register.content ++ text }

/-- The places that hold text. -/
inductive RegisterSlot where
  | unnamed
  | lastYank
  | smallDelete
  /-- The deletes of lines, the latest in the first. -/
  | numbered (index : Fin 9)
  | named (index : Fin 26)
deriving DecidableEq, Inhabited

/-- The characters that name a register. -/
def isRegisterName (name : Char) : Bool :=
  name.isAlphanum || name == '"' || name == '-' || name == '_'

/-- The place that a register name stands for; none for the one that keeps nothing, and the
unnamed place for no name and for what is no name. -/
def RegisterSlot.ofName? : Option Char → Option RegisterSlot
  | none => some .unnamed
  | some name =>
    if name.isAlpha then some (.named (Fin.ofNat 26 (name.toLower.toNat - 'a'.toNat)))
    else if name = '0' then some .lastYank
    else if name.isDigit then some (.numbered (Fin.ofNat 9 (name.toNat - '1'.toNat)))
    else if name = '-' then some .smallDelete
    else if name = '_' then none
    else some .unnamed

/-- The registers of a session. -/
structure RegisterFile where
  read : RegisterSlot → Register := fun _ => {}

namespace RegisterFile

instance : Inhabited RegisterFile := ⟨{}⟩

/-- The registers after one place has been given a text. -/
def write (registers : RegisterFile) (slot : RegisterSlot) (register : Register) : RegisterFile :=
  ⟨fun other => if other = slot then register else registers.read other⟩

/-- The registers after a text has gone into the first numbered place and moved the others on. -/
def shiftNumbered (registers : RegisterFile) (register : Register) : RegisterFile :=
  ⟨fun slot =>
    match slot with
    | .numbered index =>
      if index = 0 then register else registers.read (.numbered (index - 1))
    | _ => registers.read slot⟩

/-- The place that text goes to by itself, where no register was named. -/
def recordUnnamed (registers : RegisterFile) (register : Register) : Capture → RegisterFile
  | .yank => registers.write .lastYank register
  | .delete =>
    if register.kind = .line || register.content.contains '\n' then
      registers.shiftNumbered register
    else registers.write .smallDelete register

/-- Takes in text. The unnamed register then holds what was written, unless the named register
keeps nothing. -/
def record (registers : RegisterFile) (name? : Option Char) (register : Register)
    (capture : Capture) : RegisterFile :=
  match RegisterSlot.ofName? name? with
  | none => registers
  | some .unnamed => (registers.recordUnnamed register capture).write .unnamed register
  | some slot =>
    let written :=
      if name?.any Char.isUpper then
        (registers.read slot).append register.content register.kind
      else register
    (registers.write slot written).write .unnamed written

/-- Sets a register from a script. Text that ends in a line break is whole lines. -/
def set (registers : RegisterFile) (name : Char) (text : List Char) : RegisterFile :=
  let kind : RegisterKind := if text.getLast? = some '\n' then .line else .char
  if name = '"' then registers.record none ⟨text, kind⟩ .yank
  else registers.record (some name) ⟨text, kind⟩ .delete

/-- The register that a name reads. -/
def get (registers : RegisterFile) (name? : Option Char) : Register :=
  match RegisterSlot.ofName? name? with
  | none => {}
  | some slot => registers.read slot

theorem read_write_self (registers : RegisterFile) (slot : RegisterSlot) (register : Register) :
    (registers.write slot register).read slot = register := by
  simp [write]

theorem read_write_of_ne {slot other : RegisterSlot} (h : other ≠ slot)
    (registers : RegisterFile) (register : Register) :
    (registers.write slot register).read other = registers.read other := by
  simp [write, h]

end RegisterFile

end ModalEdit

import ModalEdit.Error
import ModalEdit.Key.Spelling
import ModalEdit.Mode
import ModalEdit.Text.Blank

/-!
Key mappings: sequences of keys that stand for other sequences, mode by mode, and what to do with
the keys typed so far.
-/

set_option autoImplicit false

namespace ModalEdit

/-- The modes that mappings tell apart. -/
inductive MapMode where
  | normal
  | visual
  | select
  | operatorPending
  | insert
deriving DecidableEq, Inhabited

/-- A set of mapping modes. -/
structure MapModes where
  normal : Bool := false
  visual : Bool := false
  select : Bool := false
  operatorPending : Bool := false
  insert : Bool := false
deriving DecidableEq, Inhabited

namespace MapModes

def none : MapModes := {}

/-- The set of one mode. -/
def single : MapMode → MapModes
  | .normal => { normal := true }
  | .visual => { visual := true }
  | .select => { select := true }
  | .operatorPending => { operatorPending := true }
  | .insert => { insert := true }

def contains (modes : MapModes) : MapMode → Bool
  | .normal => modes.normal
  | .visual => modes.visual
  | .select => modes.select
  | .operatorPending => modes.operatorPending
  | .insert => modes.insert

/-- The modes of both sets. -/
def inter (a b : MapModes) : MapModes :=
  ⟨a.normal && b.normal, a.visual && b.visual, a.select && b.select,
    a.operatorPending && b.operatorPending, a.insert && b.insert⟩

/-- The modes of the first set that are not in the second. -/
def diff (a b : MapModes) : MapModes :=
  ⟨a.normal && !b.normal, a.visual && !b.visual, a.select && !b.select,
    a.operatorPending && !b.operatorPending, a.insert && !b.insert⟩

/-- The modes of either set. -/
def union (a b : MapModes) : MapModes :=
  ⟨a.normal || b.normal, a.visual || b.visual, a.select || b.select,
    a.operatorPending || b.operatorPending, a.insert || b.insert⟩

/-- Whether the sets have a mode in common. -/
def meet (a b : MapModes) : Bool :=
  a.inter b != none

/-- The modes of a command without a mode letter: all but insert mode. -/
def general : MapModes :=
  { normal := true, visual := true, select := true, operatorPending := true }

/-- The modes that the letter of a map command stands for. -/
def ofLetter? : String → Option MapModes
  | "" => some general
  | "n" => some { normal := true }
  | "v" => some { visual := true, select := true }
  | "x" => some { visual := true }
  | "s" => some { select := true }
  | "o" => some { operatorPending := true }
  | "i" => some { insert := true }
  | _ => Option.none

/-- The mappings that count in an editing mode. -/
def ofMode : Mode → MapModes
  | .normal => { normal := true }
  | .visual .. => { visual := true }
  | .select .. => { select := true }
  | .operatorPending .. => { operatorPending := true }
  | .insert | .replace => { insert := true }
  | .commandLine => none

/-- How a set of modes is shown in a listing. -/
def label (modes : MapModes) : String :=
  if modes = general then " "
  else if modes = { visual := true, select := true } then "v"
  else
    (if modes.normal then "n" else "") ++ (if modes.visual then "x" else "")
      ++ (if modes.select then "s" else "") ++ (if modes.operatorPending then "o" else "")
      ++ (if modes.insert then "i" else "")

end MapModes

/-- A mapping. A final one does not have its result mapped again. -/
structure Mapping where
  modes : MapModes
  lhs : List Key
  rhs : List Key
  noremap : Bool
deriving DecidableEq, Inhabited

/-- How keys relate to the mappings of a mode: the mapping they are, and whether they start a
longer one. -/
structure MappingMatch where
  full? : Option Mapping
  starts : Bool
deriving DecidableEq, Inhabited

/-- What to do with the keys typed so far. -/
inductive Resolution where
  /-- More keys are needed to decide. -/
  | wait
  /-- The first key stands for itself. -/
  | raw
  /-- The first keys stand for others. The first `keepFirst` of those are not mapped again. -/
  | expand (consumed : Nat) (rhs : List Key) (remap : Bool) (keepFirst : Nat)
deriving DecidableEq, Inhabited

/-- The mappings of a session, in the order of their definition. -/
structure MappingTable where
  entries : List Mapping := []
deriving DecidableEq, Inhabited

namespace MappingTable

/-- The table without mappings of these keys in these modes. -/
def clear (table : MappingTable) (modes : MapModes) (lhs : List Key) : MappingTable where
  entries :=
    (table.entries.map fun entry =>
      if entry.lhs = lhs then { entry with modes := entry.modes.diff modes } else entry).filter
        (·.modes != MapModes.none)

/-- Defines a mapping. It replaces those of the same keys in its modes. -/
def define (table : MappingTable) (mapping : Mapping) : Except EditorError MappingTable :=
  if mapping.lhs = [] ∨ mapping.modes = MapModes.none then
    .error (.invalidArgument (Key.spellAll mapping.lhs))
  else .ok ⟨(table.clear mapping.modes mapping.lhs).entries ++ [mapping]⟩

/-- Removes the mappings of these keys from these modes. -/
def remove (table : MappingTable) (modes : MapModes) (lhs : List Key) :
    Except EditorError MappingTable :=
  if table.entries.any fun entry => entry.lhs = lhs && entry.modes.meet modes then
    .ok (table.clear modes lhs)
  else .error .noSuchMapping

/-- The mappings that count in one of the modes. -/
def within (table : MappingTable) (modes : MapModes) : List Mapping :=
  table.entries.filter (·.modes.meet modes)

/-- How keys relate to the mappings of the modes. -/
def lookup (table : MappingTable) (modes : MapModes) (keys : List Key) : MappingMatch where
  full? := (table.within modes).reverse.find? (·.lhs = keys)
  starts := (table.within modes).any fun entry =>
    keys.length < entry.lhs.length && keys.isPrefixOf entry.lhs

end MappingTable

/-- What the keys of a mapping stand for. A result that starts with the keys themselves does not
have these mapped again. -/
def Mapping.expansion (mapping : Mapping) (consumed : Nat) : Resolution :=
  let keepFirst :=
    if !mapping.noremap && mapping.lhs.isPrefixOf mapping.rhs then mapping.lhs.length else 0
  .expand consumed mapping.rhs (!mapping.noremap) keepFirst

namespace MappingTable

/-- The longest mapping among the first `count` keys and fewer. -/
def longestFull (table : MappingTable) (modes : MapModes) (keys : List Key) :
    (count : Nat) → Resolution
  | 0 => .raw
  | count + 1 =>
    match (table.lookup modes (keys.take (count + 1))).full? with
    | some mapping => mapping.expansion (count + 1)
    | none => table.longestFull modes keys count

/-- What to do with the keys typed so far. With `flush` no more keys come. -/
def resolve (table : MappingTable) (modes : MapModes) (keys : List Key) (flush : Bool) :
    Resolution :=
  if keys = [] then .wait
  else
    let found := table.lookup modes keys
    if found.starts && !flush then .wait
    else
      match found.full? with
      | some mapping => mapping.expansion keys.length
      | none => table.longestFull modes keys (keys.length - 1)

/-- The line of a listing that shows a mapping. -/
def showEntry (entry : Mapping) : String :=
  let lhs := Key.spellAll entry.lhs
  Text.padRight 3 entry.modes.label ++ Text.padRight 12 lhs ++ (if 12 ≤ lhs.length then " " else "")
    ++ (if entry.noremap then "*" else " ") ++ " " ++ Key.spellAll entry.rhs

/-- The listing of the mappings of the modes whose keys start with the given ones. -/
def listing (table : MappingTable) (modes : MapModes) (start : List Key) : String :=
  let shown := (table.within modes).filter fun entry => start.isPrefixOf entry.lhs
  if shown.isEmpty then "No mapping found"
  else
    let sorted := shown.mergeSort fun a b => decide (Key.spellAll a.lhs ≤ Key.spellAll b.lhs)
    "\n".intercalate (sorted.map showEntry)

end MappingTable

end ModalEdit

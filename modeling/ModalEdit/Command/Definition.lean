import ModalEdit.Script.Error

/-!
The commands of the command line: their names, what they take, and which of them a typed name
stands for.
-/

set_option autoImplicit false

namespace ModalEdit.Command

/-- What a map command does. -/
inductive MapAction where
  | map
  | noremap
  | unmap
deriving DecidableEq, Inhabited

/-- The name of a map command without the letter of its modes. -/
def MapAction.name : MapAction → String
  | map => "map"
  | noremap => "noremap"
  | unmap => "unmap"

/-- A command. The map commands carry the letter of their modes. -/
inductive CommandId where
  | call
  | delete
  | digraphs
  | echo
  | execute
  /-- A range alone: goes to its last line. -/
  | goto
  | «let»
  | map (action : MapAction) (letter : String)
  | normal
  | redo
  | set
  | setGlobal
  | setLocal
  | undo
  | unlet
  | yank
deriving DecidableEq, Inhabited

/-- How the arguments of a command are read. -/
inductive ArgumentGrammar where
  | none
  | raw
  | exprs
  | assignment
  | vars
  | call
  | registerCount
deriving DecidableEq, Inhabited

/-- A command with its names and what it takes. -/
structure Definition where
  name : String
  /-- The shortest name that is accepted although others start with it too. -/
  abbreviation : String
  id : CommandId
  grammar : ArgumentGrammar
  takesBang : Bool
  takesRange : Bool
deriving DecidableEq, Inhabited

namespace Definition

/-- A map command. Those without a letter take a bang, for insert mode. -/
def ofMap (name abbreviation : String) (action : MapAction) (letter : String) : Definition :=
  ⟨name, abbreviation, .map action letter, .raw, letter == "", false⟩

/-- All commands, in the order in which names are tried. -/
def all : List Definition := [
  ⟨"call", "cal", .call, .call, false, false⟩,
  ⟨"delete", "d", .delete, .registerCount, false, true⟩,
  ⟨"digraphs", "dig", .digraphs, .raw, true, false⟩,
  ⟨"echo", "ec", .echo, .exprs, false, false⟩,
  ⟨"execute", "exe", .execute, .exprs, false, false⟩,
  ⟨"let", "let", .let, .assignment, false, false⟩,
  ⟨"normal", "norm", .normal, .raw, true, false⟩,
  ⟨"redo", "red", .redo, .none, false, false⟩,
  ⟨"set", "se", .set, .raw, false, false⟩,
  ⟨"setglobal", "setg", .setGlobal, .raw, false, false⟩,
  ⟨"setlocal", "setl", .setLocal, .raw, false, false⟩,
  ⟨"undo", "u", .undo, .none, false, false⟩,
  ⟨"unlet", "unl", .unlet, .vars, true, false⟩,
  ⟨"yank", "y", .yank, .registerCount, false, true⟩,
  ofMap "map" "map" .map "",
  ofMap "nmap" "nm" .map "n",
  ofMap "vmap" "vm" .map "v",
  ofMap "xmap" "xm" .map "x",
  ofMap "smap" "smap" .map "s",
  ofMap "omap" "om" .map "o",
  ofMap "imap" "im" .map "i",
  ofMap "noremap" "no" .noremap "",
  ofMap "nnoremap" "nn" .noremap "n",
  ofMap "vnoremap" "vn" .noremap "v",
  ofMap "xnoremap" "xn" .noremap "x",
  ofMap "snoremap" "snor" .noremap "s",
  ofMap "onoremap" "ono" .noremap "o",
  ofMap "inoremap" "ino" .noremap "i",
  ofMap "unmap" "unm" .unmap "",
  ofMap "nunmap" "nun" .unmap "n",
  ofMap "vunmap" "vu" .unmap "v",
  ofMap "xunmap" "xu" .unmap "x",
  ofMap "sunmap" "sunm" .unmap "s",
  ofMap "ounmap" "ou" .unmap "o",
  ofMap "iunmap" "iu" .unmap "i"]

/-- The definition of a command. A range alone has none. -/
def ofId? (id : CommandId) : Option Definition :=
  all.find? (·.id = id)

/-- Whether the full name starts with a text. -/
def nameStarts (definition : Definition) (typed : String) : Bool :=
  typed.toList.isPrefixOf definition.name.toList

/-- Whether a typed name lies between the abbreviation and the full name. -/
def abbreviates (definition : Definition) (typed : String) : Bool :=
  definition.abbreviation.toList.isPrefixOf typed.toList && definition.nameStarts typed

/-- The command that a typed name stands for: the one of that name, the first that it abbreviates,
or the only one whose name starts with it. -/
def resolve (typed : String) : Except ScriptError Definition :=
  match all.find? (·.name = typed) <|> all.find? (·.abbreviates typed) with
  | some definition => .ok definition
  | none =>
    match all.filter (·.nameStarts typed) with
    | [definition] => .ok definition
    | [] => .error (.notAnEditorCommand typed)
    | _ => .error (.ambiguousCommand typed)

end Definition

end ModalEdit.Command

import ModalEdit.Options.GuiCursor
import ModalEdit.Options.Scope

/-!
The options there are: their names, where their values live, their types, defaults, and the words
that their texts may hold.
-/

set_option autoImplicit false

namespace ModalEdit

/-- Where the value of an option lives: in one place, in two, or locally only where it differs. -/
inductive OptionReach where
  | global
  | «local»
  | globalLocal
deriving DecidableEq, Inhabited

/-- The type of an option's value. -/
inductive OptionKind where
  | bool
  | number
  | string
  | list
deriving DecidableEq, Inhabited

/-- What the tokens of a text or list option may be. -/
inductive OptionGrammar where
  | any
  | oneOf (words : List String)
  | guiCursor
deriving DecidableEq, Inhabited

/-- A token of a list option. -/
inductive OptionEntry where
  | word (text : String)
  | cursor (entry : CursorEntry)
deriving DecidableEq, Inhabited

/-- The text of a token. -/
def OptionEntry.token : OptionEntry → String
  | word text => text
  | cursor entry => entry.token

/-- The value of an option. -/
inductive OptionValue where
  | bool (value : Bool)
  | number (value : Int64)
  | string (text : String)
  | list (entries : List OptionEntry)
deriving DecidableEq, Inhabited

namespace OptionValue

def bool? : OptionValue → Option Bool
  | bool value => some value
  | _ => none

def number? : OptionValue → Option Int64
  | number value => some value
  | _ => none

/-- Whether a list holds a token. -/
def hasToken (token : String) : OptionValue → Bool
  | list entries => entries.any (·.token == token)
  | _ => false

/-- The text of a value: numbers in decimal, lists joined by commas. -/
def text : OptionValue → String
  | bool value => if value then "1" else "0"
  | number value => toString value
  | string text => text
  | list entries => ",".intercalate (entries.map OptionEntry.token)

end OptionValue

/-- The declared default of an option. -/
inductive OptionDefault where
  | bool (value : Bool)
  | number (value : Int64)
  | text (value : String)
deriving DecidableEq, Inhabited

/-- One option. -/
structure OptionDefinition where
  name : String
  abbreviation : String
  reach : OptionReach
  kind : OptionKind
  default : OptionDefault
  grammar : OptionGrammar := .any
deriving DecidableEq, Inhabited

namespace OptionDefinition

/-- The cursor entries of a fresh session. -/
def defaultCursor : String :=
  "n-v-c:block-Cursor/lCursor,ve:ver35-Cursor,o:hor50-Cursor,i-ci:ver25-Cursor/lCursor," ++
  "r-cr:hor20-Cursor/lCursor,sm:block-Cursor-blinkwait175-blinkoff150-blinkon175"

/-- All options, in the order of their listing. -/
def all : List OptionDefinition := [
  ⟨"expandtab", "et", .local, .bool, .bool false, .any⟩,
  ⟨"guicursor", "gcr", .global, .list, .text defaultCursor, .guiCursor⟩,
  ⟨"hlsearch", "hls", .global, .bool, .bool false, .any⟩,
  ⟨"ignorecase", "ic", .global, .bool, .bool false, .any⟩,
  ⟨"incsearch", "is", .global, .bool, .bool false, .any⟩,
  ⟨"keymodel", "km", .global, .list, .text "continueselect,stopselect",
    .oneOf ["startsel", "stopsel", "stopselect", "stopvisual", "continueselect",
      "continuevisual"]⟩,
  ⟨"number", "nu", .local, .bool, .bool false, .any⟩,
  ⟨"relativenumber", "rnu", .local, .bool, .bool false, .any⟩,
  ⟨"scroll", "scr", .local, .number, .number 0, .any⟩,
  ⟨"scrolloff", "so", .globalLocal, .number, .number 0, .any⟩,
  ⟨"selection", "sel", .global, .string, .text "inclusive",
    .oneOf ["old", "inclusive", "exclusive"]⟩,
  ⟨"selectmode", "slm", .global, .list, .text "", .oneOf ["mouse", "key", "cmd"]⟩,
  ⟨"shiftwidth", "sw", .local, .number, .number 8, .any⟩,
  ⟨"sidescroll", "ss", .global, .number, .number 0, .any⟩,
  ⟨"sidescrolloff", "siso", .globalLocal, .number, .number 0, .any⟩,
  ⟨"smartcase", "scs", .global, .bool, .bool false, .any⟩,
  ⟨"startofline", "sol", .global, .bool, .bool true, .any⟩,
  ⟨"tabstop", "ts", .local, .number, .number 8, .any⟩,
  ⟨"timeout", "to", .global, .bool, .bool true, .any⟩,
  ⟨"timeoutlen", "tm", .global, .number, .number 1000, .any⟩,
  ⟨"undolevels", "ul", .global, .number, .number 1000, .any⟩,
  ⟨"wrapscan", "ws", .global, .bool, .bool true, .any⟩]

/-- Whether the name is the option's full name or its abbreviation. -/
def hasName (definition : OptionDefinition) (name : String) : Bool :=
  definition.name == name || definition.abbreviation == name

/-- The option with a full or short name. -/
def find? (name : String) : Option OptionDefinition :=
  all.find? (·.hasName name)

/-- As `find?`, with the error for names that no option has. -/
def find (name : String) : Except EditorError OptionDefinition :=
  match find? name with
  | some definition => .ok definition
  | none => .error (.unknownOption name)

/-- Reads one token of a list option. -/
def parseToken (definition : OptionDefinition) (token : List Char) :
    Except EditorError OptionEntry :=
  let text := String.ofList token
  match definition.grammar with
  | .any => .ok (.word text)
  | .oneOf words =>
    if words.contains text then .ok (.word text)
    else .error (.invalidArgument s!"{definition.name}={text}")
  | .guiCursor => (CursorEntry.parse token).map .cursor

/-- Reads tokens up to the first bad one, and keeps its error. -/
def parseTokens (definition : OptionDefinition) :
    List (List Char) → List OptionEntry × Option EditorError
  | [] => ([], none)
  | token :: rest =>
    match definition.parseToken token with
    | .error error => ([], some error)
    | .ok entry =>
      let (entries, error?) := definition.parseTokens rest
      (entry :: entries, error?)

/-- Reads the text of a list option: tokens between commas, empty ones left out. -/
def parseList (definition : OptionDefinition) (text : String) :
    List OptionEntry × Option EditorError :=
  definition.parseTokens ((Text.splitOn ',' text.toList).filter (!·.isEmpty))

/-- The value of the option in a fresh session. -/
def defaultValue (definition : OptionDefinition) : OptionValue :=
  match definition.kind, definition.default with
  | _, .bool value => .bool value
  | _, .number value => .number value
  | .list, .text text => .list (definition.parseList text).1
  | _, .text text => .string text

/-- Refuses negative numbers, which no option takes. -/
def checkNumber (definition : OptionDefinition) (value : Int64) : Except EditorError Int64 :=
  if value < 0 then .error (.invalidArgument s!"{definition.name}={value}") else .ok value

/-- Whether the name belongs to an option that is on or off. -/
def isBool (name : String) : Bool :=
  match find? name with
  | some definition => definition.kind == .bool
  | none => false

end OptionDefinition

end ModalEdit

/-!
The characters of a pattern, each with or without its special meaning. Which characters are special
on their own and which after a backslash depends on the magic in force.
-/

set_option autoImplicit false

namespace ModalEdit.Pattern

/-- A piece of a pattern. -/
inductive Symbol where
  /-- A character, special where the grammar makes it so. -/
  | bare (c : Char)
  /-- A character that stands for itself. -/
  | quoted (c : Char)
  | digit (negated : Bool)
  | blank (negated : Bool)
  | word (negated : Bool)
  /-- The start or the end of a word. -/
  | boundary
deriving DecidableEq, Inhabited

/-- A pattern cut into symbols, and whether it says how to treat case. -/
structure Symbols where
  symbols : List Symbol
  ignoreCase? : Option Bool
deriving DecidableEq, Inhabited

namespace Symbol

/-- The characters that the grammar makes special. -/
def isSpecial (c : Char) : Bool :=
  c ∈ ['\\', '.', '+', '*', '?', '(', ')', '|', '[', ']', '\x7b', '\x7d', '^', '$', '#', '&', '-',
    '~']

/-- The special characters that need very much magic, or a backslash. -/
def needsMagic (c : Char) : Bool :=
  c ∈ ['(', ')', '|', '+', '?', '\x7b', '\x7d']

/-- A character taken as itself. -/
def escape (c : Char) : Symbol :=
  if isSpecial c then quoted c else bare c

/-- The symbols of a text without special meaning of its own. -/
def ofText (text : String) : List Symbol :=
  text.toList.map bare

/-- A character that no backslash comes before. -/
def ofPlain (veryMagic : Bool) (c : Char) : Symbol :=
  if veryMagic then
    if c = '<' || c = '>' then boundary
    else if c = '=' then bare '?'
    else bare c
  else if needsMagic c then quoted c
  else bare c

/-- A character behind a backslash, other than the switches of magic and of case. -/
def ofEscaped (veryMagic : Bool) (c : Char) : List Symbol :=
  if !veryMagic && (c = '<' || c = '>') then [boundary]
  else if !veryMagic && needsMagic c then [bare c]
  else if !veryMagic && c = '=' then [bare '?']
  else
    match c with
    | 's' => [blank false]
    | 'S' => [blank true]
    | 'd' => [digit false]
    | 'D' => [digit true]
    | 'w' => [word false]
    | 'W' => [word true]
    | 'n' => [quoted '\n']
    | 't' => [quoted '\t']
    | 'e' => [quoted '\x1b']
    | 'a' => ofText "[A-Za-z]"
    | 'A' => ofText "[^A-Za-z]"
    | 'l' => ofText "[a-z]"
    | 'L' => ofText "[^a-z]"
    | 'u' => ofText "[A-Z]"
    | 'U' => ofText "[^A-Z]"
    | 'x' => ofText "[0-9A-Fa-f]"
    | 'X' => ofText "[^0-9A-Fa-f]"
    | 'h' => ofText "[A-Za-z_]"
    | 'H' => ofText "[^A-Za-z_]"
    | c => [escape c]

end Symbol

namespace Symbols

/-- The symbols in front of others. -/
def prepend (first : List Symbol) (rest : Symbols) : Symbols :=
  { rest with symbols := first ++ rest.symbols }

/-- Cuts a pattern into symbols. The last word on case counts. -/
def readFrom (veryMagic : Bool) (ignoreCase? : Option Bool) : List Char → Symbols
  | [] => ⟨[], ignoreCase?⟩
  | ['\\'] => ⟨[.quoted '\\'], ignoreCase?⟩
  | '\\' :: 'v' :: rest => readFrom true ignoreCase? rest
  | '\\' :: 'm' :: rest => readFrom false ignoreCase? rest
  | '\\' :: 'M' :: rest => readFrom false ignoreCase? rest
  | '\\' :: 'V' :: rest => readFrom false ignoreCase? rest
  | '\\' :: 'c' :: rest => readFrom veryMagic (some true) rest
  | '\\' :: 'C' :: rest => readFrom veryMagic (some false) rest
  | '\\' :: c :: rest =>
    (readFrom veryMagic ignoreCase? rest).prepend (Symbol.ofEscaped veryMagic c)
  | c :: rest => (readFrom veryMagic ignoreCase? rest).prepend [Symbol.ofPlain veryMagic c]

/-- Cuts a pattern into symbols, with the usual magic. -/
def read (pattern : List Char) : Symbols :=
  readFrom false none pattern

end Symbols

end ModalEdit.Pattern

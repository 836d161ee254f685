import ModalEdit.Digraph.Table
import ModalEdit.Error
import ModalEdit.Text.Blank
import ModalEdit.Text.CodePoint
import ModalEdit.Text.Width

/-!
Digraphs: pairs of characters that stand for a third, the given ones and those of the session, and
their listing.
-/

set_option autoImplicit false

namespace ModalEdit

/-- A pair of characters and the character it stands for. -/
structure Digraph where
  first : Char
  second : Char
  char : Char
deriving DecidableEq, Inhabited

namespace Digraph

/-- Whether the digraph is of this pair, in this order. -/
def isOf (digraph : Digraph) (first second : Char) : Bool :=
  digraph.first == first && digraph.second == second

end Digraph

/-- The digraphs of a group. -/
def DigraphSection.digraphs (group : DigraphSection) : List Digraph :=
  group.entries.filterMap fun (first, second, code) =>
    (Text.charOfCode? code).map (⟨first, second, ·⟩)

/-- A line item of the listing. -/
inductive DigraphItem where
  | header (text : String)
  | entry (digraph : Digraph)
deriving DecidableEq, Inhabited

/-- The digraphs of a session: those defined in it, in the order of first definition, and for each pair
its place among them. -/
structure Digraphs where
  custom : List Digraph := []
  places : List ((Char × Char) × Nat) := []
deriving DecidableEq, Inhabited

namespace Digraphs

/-- The character that a list of digraphs gives to a pair, in this order. -/
def find? (digraphs : List Digraph) (first second : Char) : Option Char :=
  (digraphs.find? (·.isOf first second)).map Digraph.char

/-- The digraphs that every session starts with. -/
def defaults : List Digraph :=
  digraphSections.flatMap DigraphSection.digraphs

/-- The place of a pair, in this order, among the digraphs of the session. -/
def place? (digraphs : Digraphs) (first second : Char) : Option Nat :=
  digraphs.places.lookup (first, second)

/-- Defines a digraph. One that is defined already keeps its place. -/
def define (digraphs : Digraphs) (digraph : Digraph) : Digraphs :=
  match digraphs.place? digraph.first digraph.second with
  | some place =>
    { digraphs with
      custom := digraphs.custom.modify place fun other => { other with char := digraph.char } }
  | none =>
    { custom := digraphs.custom ++ [digraph]
      places := ((digraph.first, digraph.second), digraphs.custom.length) :: digraphs.places }

/-- Defines a digraph by the code point of its character. -/
def defineCode (digraphs : Digraphs) (first second : Char) (code : Nat) :
    Except EditorError Digraphs :=
  match Text.charOfCode? code with
  | some char => .ok (digraphs.define ⟨first, second, char⟩)
  | none => .error (.invalidCodePoint code)

/-- The character that the session gives to a pair, in this order. -/
def customChar? (digraphs : Digraphs) (first second : Char) : Option Char :=
  (digraphs.place? first second).bind fun place => digraphs.custom[place]?.map Digraph.char

/-- The character of a pair. What the session defined comes first, in either order, and then the
given digraphs, in either order. -/
def lookup (digraphs : Digraphs) (first second : Char) : Except EditorError Char :=
  match digraphs.customChar? first second <|> digraphs.customChar? second first
      <|> find? defaults first second <|> find? defaults second first with
  | some char => .ok char
  | none => .error (.digraphNotFound first second)

/-- All digraphs, those of the session last, with headings if these are wanted. -/
def items (digraphs : Digraphs) (headers : Bool) : List DigraphItem :=
  let group (header? : Option String) (entries : List Digraph) : List DigraphItem :=
    (if headers then (header?.map DigraphItem.header).toList else []) ++ entries.map .entry
  digraphSections.flatMap (fun section_ => group section_.header? section_.digraphs)
    ++ group (if digraphs.custom.isEmpty then none else some "Custom") digraphs.custom

/-- Letters and signs of scripts that run from right to left. -/
def rightToLeftRanges : List (Nat × Nat) := [
  (0x05d0, 0x05f4), (0x0608, 0x0608), (0x060b, 0x060b), (0x060d, 0x060d), (0x061b, 0x064a),
  (0x066d, 0x066f), (0x0671, 0x06d5), (0x06e5, 0x06e6), (0x06ee, 0x06ef), (0x06fa, 0x06ff),
  (0x07c0, 0x07ea), (0xfb1d, 0xfdff), (0xfe70, 0xfefc)]

/-- A digit of base sixteen, in lower case. -/
def hexDigit (value : Nat) : Char :=
  if value < 10 then Char.ofNat ('0'.toNat + value) else Char.ofNat ('a'.toNat + value - 10)

/-- How a character is drawn in the listing, and its width there. Text that runs from right to left
is isolated from the rest of the line. -/
def drawn (c : Char) : String × Nat :=
  let code := c.toNat
  if code < 32 then ("^" ++ (Char.ofNat (code + 64)).toString, 2)
  else if code = 127 then ("^?", 2)
  else if (128 ≤ code ∧ code < 160) ∨ code = 173 then
    ("<" ++ String.ofList [hexDigit (code / 16), hexDigit (code % 16)] ++ ">", 4)
  else if Text.cellWidth? c = some 0 then (" " ++ c.toString, 1)
  else if Text.inRanges rightToLeftRanges c then ("\u2067" ++ c.toString ++ "\u2069", 1)
  else (c.toString, if code < 65536 then 1 else 2)

/-- The number shown for a character: that of a line break for the null character. -/
def shownCode (c : Char) : Nat :=
  if c.toNat = 0 then 10 else c.toNat

/-- An entry of the listing, and its width. -/
def showEntry (digraph : Digraph) : String × Nat :=
  let (display, width) := drawn digraph.char
  let number := Text.padLeft 3 (toString (shownCode digraph.char))
  (digraph.first.toString ++ digraph.second.toString ++ " " ++ display ++ Text.blanks (2 - width)
      ++ " " ++ number,
    3 + max width 2 + 1 + number.length)

/-- The width of a column of the listing. -/
def cellWidth : Nat := 13

/-- The number of entries on a line of the listing. -/
def entriesPerLine : Nat := 6

/-- The listing as far as it is written: the lines that are finished, and the line that entries are
put on, with how many are on it and the width of the last of them. -/
structure Listing where
  finished : List String := []
  line : String := ""
  onLine : Nat := 0
  lastWidth : Nat := 0
deriving Inhabited

namespace Listing

/-- The listing with its line finished. -/
def breakLine (listing : Listing) : Listing :=
  { listing with finished := listing.finished ++ [listing.line], line := "", onLine := 0 }

/-- The listing with an entry put on its line: a column after the start of the one before it, and at
least one blank after its end. -/
def addEntry (listing : Listing) (digraph : Digraph) : Listing :=
  let (text, width) := showEntry digraph
  let gap := if 0 < listing.onLine then max (cellWidth - listing.lastWidth) 1 else 0
  { listing with
    line := listing.line ++ Text.blanks gap ++ text
    onLine := listing.onLine + 1
    lastWidth := width }

/-- The listing with one item more. A heading is alone on its line. -/
def put (listing : Listing) : DigraphItem → Listing
  | .header text =>
    let broken := if 0 < listing.onLine then listing.breakLine else listing
    { broken with finished := broken.finished ++ [text] }
  | .entry digraph =>
    (if listing.onLine = entriesPerLine then listing.breakLine else listing).addEntry digraph

/-- The lines of the listing, the one that has not been finished with them. -/
def lines (listing : Listing) : List String :=
  if 0 < listing.onLine then listing.finished ++ [listing.line] else listing.finished

end Listing

/-- The listing of all digraphs. -/
def listing (digraphs : Digraphs) (headers : Bool) : String :=
  "\n".intercalate ((digraphs.items headers).foldl Listing.put {}).lines

end Digraphs

end ModalEdit

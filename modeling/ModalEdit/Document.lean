import ModalEdit.Number.Counting

/-!
The text being edited, its lines, and the two ways to name a place in it: the offset from the
start, and a line with a column.
-/

set_option autoImplicit false

namespace ModalEdit

/-- A text. Offsets and columns count characters, and lines count from zero. -/
abbrev Document := List Char

/-- A place in a text by line and column. -/
structure Position where
  line : Nat
  column : Nat
deriving DecidableEq, Inhabited

/-- A position as it is shown, counting from one. -/
def Position.shown (position : Position) : String :=
  s!"{position.line + 1}:{position.column + 1}"

namespace Document

/-- Characters behind which a line always ends. -/
def isBreak (c : Char) : Bool :=
  c == '\n' || c == '\x0b' || c == '\x0c' || c == '\u0085' || c == '\u2028' || c == '\u2029'

/-- Whether a line ends behind a character. A carriage return and the line feed behind it are one
break. -/
def endsLine (c : Char) (next? : Option Char) : Bool :=
  if c = '\r' then next? != some '\n' else isBreak c

/-- The line of an offset: the number of breaks before it. Places behind the end are on the last
line. -/
def lineOf : Document → Nat → Nat
  | _, 0 => 0
  | [], _ + 1 => 0
  | c :: rest, offset + 1 => (if endsLine c rest.head? then 1 else 0) + lineOf rest offset

/-- Where a line starts. Lines behind the last one start at the end of the text. -/
def lineStart : Document → Nat → Nat
  | _, 0 => 0
  | [], _ + 1 => 0
  | c :: rest, line + 1 =>
    1 + (if endsLine c rest.head? then lineStart rest line else lineStart rest (line + 1))

/-- The length of the first line without the line feed that ends it. Any other break counts. -/
def firstLineLength : Document → Nat
  | [] => 0
  | c :: rest =>
    if c = '\n' then 0 else if endsLine c rest.head? then 1 else 1 + firstLineLength rest

/-- Where a line ends: before its line feed. -/
def lineEnd (text : Document) (line : Nat) : Nat :=
  lineStart text line + firstLineLength (text.drop (lineStart text line))

/-- The last line. An empty text has one line, and so has what follows the last break. -/
def lastLine (text : Document) : Nat :=
  lineOf text text.length

def lineCount (text : Document) : Nat :=
  lastLine text + 1

/-- The number of characters of a line, without its line feed. -/
def lineLength (text : Document) (line : Nat) : Nat :=
  lineEnd text line - lineStart text line

/-- The text between two offsets. -/
def slice (text : Document) (start stop : Nat) : List Char :=
  (text.take stop).drop start

/-- The text of a line, without its line feed. -/
def lineText (text : Document) (line : Nat) : List Char :=
  slice text (lineStart text line) (lineEnd text line)

/-- The text with the part between two offsets replaced. -/
def replace (text : Document) (start stop : Nat) (inserted : List Char) : Document :=
  text.take start ++ inserted ++ text.drop (max start stop)

/-- Line and column of an offset. -/
def positionOf (text : Document) (offset : Nat) : Position :=
  let line := lineOf text offset
  ⟨line, min offset text.length - lineStart text line⟩

/-- The offset of a position. Lines behind the last one stand for it, and columns behind the end
of a line for the end, as long as start and column do not add up to more than the largest count. -/
def offsetOf (text : Document) (position : Position) : Nat :=
  let line := min position.line (lastLine text)
  min (Number.wrapAdd (lineStart text line) position.column) (lineEnd text line)

/-- A text as it is loaded: a carriage return, alone or with a line feed behind it, becomes a line
feed. -/
def ofChars : List Char → Document
  | [] => []
  | '\r' :: '\n' :: rest => '\n' :: ofChars rest
  | c :: rest => (if c = '\r' then '\n' else c) :: ofChars rest

theorem lineOf_zero (text : Document) : lineOf text 0 = 0 := by
  cases text <;> rfl

theorem lineStart_zero (text : Document) : lineStart text 0 = 0 := by
  cases text <;> rfl

theorem lineStart_le (text : Document) (line : Nat) : lineStart text line ≤ text.length := by
  induction text generalizing line with
  | nil => cases line <;> simp [lineStart]
  | cons c rest ih =>
    cases line with
    | zero => simp [lineStart]
    | succ line =>
      have here := ih line
      have next := ih (line + 1)
      simp only [lineStart, List.length_cons]
      split <;> omega

theorem firstLineLength_le (text : Document) : firstLineLength text ≤ text.length := by
  induction text with
  | nil => simp [firstLineLength]
  | cons c rest ih =>
    simp only [firstLineLength, List.length_cons]
    split
    · omega
    · split <;> omega

theorem lineEnd_le (text : Document) (line : Nat) : lineEnd text line ≤ text.length := by
  have start := lineStart_le text line
  have behind := firstLineLength_le (text.drop (lineStart text line))
  simp only [lineEnd, List.length_drop] at *
  omega

theorem lineStart_le_lineEnd (text : Document) (line : Nat) :
    lineStart text line ≤ lineEnd text line :=
  Nat.le_add_right _ _

end Document

/-- A loaded text, and whether it has been changed since. -/
structure Buffer where
  text : Document
  modified : Bool := false
deriving DecidableEq, Inhabited

namespace Buffer

/-- A buffer with the loaded text of characters. -/
def ofChars (chars : List Char) : Buffer where
  text := Document.ofChars chars

/-- The buffer with a part replaced. Nothing in place of nothing is no change. -/
def replace (buffer : Buffer) (start stop : Nat) (inserted : List Char) : Buffer where
  text := buffer.text.replace start stop inserted
  modified :=
    buffer.modified || !(buffer.text.slice start stop).isEmpty || !inserted.isEmpty

end Buffer

end ModalEdit

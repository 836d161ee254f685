import ModalEdit.Motion
import ModalEdit.Number.Counting
import ModalEdit.Window

/-!
Where motions lead. A motion that cannot move leads nowhere.
-/

set_option autoImplicit false

namespace ModalEdit

namespace Document

/-- The last place on a line where a caret may stand. -/
def lineLimit (text : Document) (line : Nat) (pastEnd : Bool) : Nat :=
  let stop := lineEnd text line
  if pastEnd ∨ stop = lineStart text line then stop else stop - 1

/-- The first character of a line that is neither space nor tab, or the end of the line. -/
def firstNonBlank (text : Document) (line : Nat) : Nat :=
  lineStart text line + ((lineText text line).takeWhile fun c => c == ' ' || c == '\t').length

/-- The place nearest to an offset where a caret may stand. -/
def clampCaret (text : Document) (offset : Nat) (pastEnd : Bool) : Nat :=
  let line := lineOf text offset
  min (max offset (lineStart text line)) (lineLimit text line pastEnd)

/-- The first character of a line that is not blank, as far as a caret may stand there. -/
def lineTarget (text : Document) (line : Nat) (pastEnd : Bool) : Nat :=
  min (firstNonBlank text line) (lineLimit text line pastEnd)

/-- Whether a line has no characters. -/
def isEmptyLine (text : Document) (line : Nat) : Bool :=
  lineLength text line == 0

/-- The first line from `line` on that is `wanted`, at most `count` lines further. -/
def seekDown (text : Document) (wanted : Nat → Bool) : (count line : Nat) → Nat
  | 0, line => line
  | count + 1, line => if wanted line then line else seekDown text wanted count (line + 1)

/-- The first line from `line` up that is `wanted`, or the first line. -/
def seekUp (wanted : Nat → Bool) : (line : Nat) → Nat
  | 0 => 0
  | line + 1 => if wanted (line + 1) then line + 1 else seekUp wanted line

/-- The empty line behind the next paragraph, or the last line. -/
def nextParagraph (text : Document) (line : Nat) : Nat :=
  let last := lastLine text
  if last ≤ line then line
  else
    let start := seekDown text (!isEmptyLine text ·) (last - (line + 1)) (line + 1)
    seekDown text (isEmptyLine text) (last - start) start

/-- The empty line before the paragraph before, or the first line. -/
def previousParagraph (text : Document) (line : Nat) : Nat :=
  if line = 0 then 0
  else seekUp (isEmptyLine text) (seekUp (!isEmptyLine text ·) (line - 1))

end Document

/-- The place of the `count`th character of a text that is `c`; the count starts at one. -/
def nthPlace? (c : Char) : (count : Nat) → List Char → Option Nat
  | _, [] => none
  | count, d :: rest =>
    if d = c then
      if count ≤ 1 then some 0 else (nthPlace? c (count - 1) rest).map (· + 1)
    else (nthPlace? c count rest).map (· + 1)

/-- Where a search leads. Only a search made again passes over a character next to the caret. -/
def Find.landing? (find : Find) (text : Document) (offset count : Nat) (again : Bool) :
    Option Landing :=
  let line := text.lineOf offset
  let skip := if again && find.till then 1 else 0
  if find.forward then
    let first := offset + 1 + skip
    (nthPlace? find.char count (text.slice first (text.lineEnd line))).bind fun place =>
      let target := if find.till then first + place - 1 else first + place
      if offset < target ∨ !find.till then some { offset := target, wise := .inclusive } else none
  else if offset < 1 + skip then none
  else
    let first := offset - (1 + skip)
    let back := (text.slice (text.lineStart line) (first + 1)).reverse
    (nthPlace? find.char count back).bind fun place =>
      let target := if find.till then first - place + 1 else first - place
      if target < offset then some { offset := target, wise := .exclusive } else none

namespace Window

/-- The line that a move by `count` lines leads to, in the column that the caret keeps. -/
def verticalTarget? (window : Window) (caret : Caret) (down : Bool) (count : Nat)
    (pastEnd : Bool) : Option Landing :=
  let text := window.text
  let offset := min caret.offset text.length
  let current := text.lineOf offset
  if down ∧ text.lastLine ≤ current ∨ !down ∧ current = 0 then none
  else
    let line := if down then min (Number.wrapAdd current count) text.lastLine else current - count
    let sticky := caret.sticky?.getD (.column (window.displayColumn offset))
    let limit := text.lineLimit line pastEnd
    let target :=
      match sticky with
      | .lineEnd => limit
      | .column column => min (window.offsetAtColumn line column) limit
    some { offset := target, wise := .linewise, sticky? := some sticky }

/-- Where a move by words leads. An operator stops at the end of the line of the last word. -/
def wordTarget? (window : Window) (offset : Nat) (kind : WordKind) (count : Nat)
    (context : MotionContext) : Option Landing :=
  let text := window.text
  let ends := Number.repeated (fun pair : Nat × Nat => (pair.2, kind.nextStart text pair.2)) count
    (offset, offset)
  let place :=
    if context.operator then
      let line := text.lineOf ends.1
      if ends.1 < ends.2 ∧ line < text.lineOf ends.2 ∧ ends.1 < text.lineEnd line then
        text.lineEnd line
      else ends.2
    else if text.length ≤ ends.2 then text.clampCaret text.length context.pastEnd
    else ends.2
  if place = offset then none else some { offset := place, wise := .exclusive }

/-- The lines of the text that are seen, first and last, and the lines to stay away from their
edge. -/
def edges (window : Window) (scrolloff : Nat) : Nat × Nat × Nat :=
  (min window.view.top window.text.lastLine, min window.view.bottom window.text.lastLine,
    min scrolloff ((window.view.height - 1) / 2))

/-- The line `count` lines from the top of the window. -/
def topLine (window : Window) (count scrolloff : Nat) : Nat :=
  let (top, bottom, off) := window.edges scrolloff
  min (Number.wrapAdd top (max (count - 1) (if top = 0 then 0 else off))) bottom

/-- The line in the middle of the window. -/
def middleLine (window : Window) (scrolloff : Nat) : Nat :=
  let (top, bottom, _) := window.edges scrolloff
  top + (bottom - top) / 2

/-- The line `count` lines from the bottom of the window. -/
def bottomLine (window : Window) (count scrolloff : Nat) : Nat :=
  let (top, bottom, off) := window.edges scrolloff
  max (bottom - max (count - 1) (if window.text.lastLine ≤ bottom then 0 else off)) top

end Window

/-- A landing on the first character of a line that is not blank, for whole lines. -/
def lineWise (text : Document) (line : Nat) (pastEnd : Bool) : Landing where
  offset := text.lineTarget line pastEnd
  wise := .linewise

/-- A landing behind text up to a place. -/
def upTo (offset : Nat) : Landing where
  offset
  wise := .exclusive

/-- Where a motion takes a caret. No count means one, except where a motion says otherwise. -/
def Motion.resolve (window : Window) (caret : Caret) (motion : Motion) (count? : Option Nat)
    (context : MotionContext) : Option Landing :=
  let text := window.text
  let count := max (count?.getD 1) 1
  let offset := min caret.offset text.length
  let line := text.lineOf offset
  let pastEnd := context.pastEnd
  match motion with
  | .left =>
    if offset = text.lineStart line then none
    else some (upTo (max (offset - count) (text.lineStart line)))
  | .right =>
    let limit := text.lineLimit line (pastEnd || context.operator)
    if limit ≤ offset then none else some (upTo (min (Number.wrapAdd offset count) limit))
  | .up => window.verticalTarget? caret false count pastEnd
  | .down => window.verticalTarget? caret true count pastEnd
  | .lineStart => some (upTo (text.lineStart line))
  | .firstNonBlank => some (upTo (text.lineTarget line pastEnd))
  | .lineEnd =>
    let last := min (Number.wrapAdd line (count - 1)) text.lastLine
    some { offset := text.lineLimit last pastEnd, wise := .inclusive, sticky? := some .lineEnd }
  | .wordStart kind => window.wordTarget? offset kind count context
  | .wordBack kind =>
    let place := Number.repeated (kind.prevStart text) count offset
    if place = offset then none else some (upTo place)
  | .wordEnd kind =>
    let place := Number.repeated (kind.nextEnd text) count offset
    if place = offset then none else some { offset := place, wise := .inclusive }
  | .firstLine => some (lineWise text (min (count - 1) text.lastLine) pastEnd)
  | .lastLine =>
    let last := (count?.map (max · 1 - 1)).getD text.lastLine
    some (lineWise text (min last text.lastLine) pastEnd)
  | .find search => search.landing? text offset count false
  | .repeatFind search => search.landing? text offset count true
  | .paragraphForward =>
    let last := Number.repeated text.nextParagraph count line
    let place :=
      if last = text.lastLine ∧ !text.isEmptyLine last then
        text.lineLimit last (pastEnd || context.operator)
      else text.lineStart last
    if place = offset then none else some (upTo place)
  | .paragraphBackward =>
    if offset = 0 then none
    else some (upTo (text.lineStart (Number.repeated text.previousParagraph count line)))
  | .windowTop => some (lineWise text (window.topLine count context.scrolloff) pastEnd)
  | .windowMiddle => some (lineWise text (window.middleLine context.scrolloff) pastEnd)
  | .windowBottom => some (lineWise text (window.bottomLine count context.scrolloff) pastEnd)
  | .nextLine =>
    if text.lastLine ≤ line then none
    else some (lineWise text (min (Number.wrapAdd line count) text.lastLine) pastEnd)
  | .previousLine =>
    if line = 0 then none else some (lineWise text (line - count) pastEnd)
  | .currentLine =>
    some (lineWise text (min (Number.wrapAdd line (count - 1)) text.lastLine) pastEnd)
  | .column =>
    let place := min (window.offsetAtColumn line (count - 1)) (text.lineLimit line pastEnd)
    some { offset := place, wise := .exclusive, sticky? := some (.column (count - 1)) }

end ModalEdit

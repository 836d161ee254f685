import ModalEdit.Register
import ModalEdit.Window

/-!
Spans: the parts of a text that operators act on.
-/

set_option autoImplicit false

namespace ModalEdit

/-- What an operator acts on. -/
inductive Span where
  /-- The text between two offsets. -/
  | chars (start stop : Nat)
  /-- Whole lines, first to last. -/
  | lines (first last : Nat)
  /-- Screen columns of lines: from `left` up to `right`, or up to the end of each line. -/
  | block (first last left : Nat) (right? : Option Nat)
deriving DecidableEq, Inhabited

namespace Document

/-- What is removed with lines: a line break goes as well, the one before where there is none
behind. -/
def lineSpan (text : Document) (first last : Nat) : Nat × Nat :=
  let last := min last (lastLine text)
  if last < lastLine text then (lineStart text first, lineStart text (last + 1))
  else if 0 < first then (lineEnd text (first - 1), lineEnd text last)
  else (0, text.length)

/-- Lines without the last line break: from the start of the first to the end of the last. -/
def lineBody (text : Document) (first last : Nat) : Nat × Nat :=
  (lineStart text first, lineEnd text (min last (lastLine text)))

/-- Lines as the text of a register, with a line break at the end. -/
def linesText (text : Document) (first last : Nat) : List Char :=
  let (start, stop) := lineBody text first last
  slice text start stop ++ ['\n']

/-- Line numbers from the first to the last, as far as the text has them. -/
def linesWithin (text : Document) (first last : Nat) : List Nat :=
  List.range' first (min last (lastLine text) + 1 - first)

theorem mem_linesWithin {text : Document} {first last line : Nat} :
    line ∈ text.linesWithin first last ↔ first ≤ line ∧ line ≤ last ∧ line ≤ text.lastLine := by
  rw [linesWithin, List.mem_range'_1]
  omega

theorem pairwise_linesWithin (text : Document) (first last : Nat) :
    (text.linesWithin first last).Pairwise (· < ·) :=
  List.pairwise_lt_range'

end Document

namespace Window

/-- The part of a line in screen columns. It begins with the character that covers the left
one. -/
def blockSegment (window : Window) (line left : Nat) (right? : Option Nat) : Nat × Nat :=
  let start := window.text.lineStart line
  let chars := window.text.lineText line
  let stop := (right?.map fun right => window.ruler.countBelow right 0 chars).getD chars.length
  (start + min (window.ruler.countBefore left 0 chars) stop, start + stop)

/-- The parts of lines in screen columns, from the first line on. -/
def blockSegments (window : Window) (first last left : Nat) (right? : Option Nat) :
    List (Nat × Nat) :=
  (window.text.linesWithin first last).map fun line => window.blockSegment line left right?

/-- The place on a line at a screen column. -/
def blockColumn (window : Window) (line column : Nat) : Nat :=
  (window.blockSegment line column (some column)).1

end Window

namespace Span

/-- The first and the last line of a span. -/
def lineBounds (text : Document) : Span → Nat × Nat
  | chars start stop => (text.lineOf start, text.lineOf (max (stop - 1) start))
  | lines first last => (first, last)
  | block first last _ _ => (first, last)

/-- Where a span begins. -/
def start (window : Window) : Span → Nat
  | chars start _ => start
  | lines first _ => window.text.lineStart first
  | block first _ left right? => (window.blockSegment first left right?).1

/-- What a span puts into a register. The parts of a block are put on lines of their own. -/
def register (window : Window) : Span → Register
  | chars start stop => ⟨window.text.slice start stop, .char⟩
  | lines first last => ⟨window.text.linesText first last, .line⟩
  | block first last left right? =>
    let parts := (window.blockSegments first last left right?).map fun (start, stop) =>
      window.text.slice start stop
    ⟨List.intercalate ['\n'] parts, .char⟩

/-- The pieces of text in a span, from the first on. -/
def pieces (window : Window) : Span → List (Nat × Nat)
  | chars start stop => [(start, stop)]
  | lines first last => [window.text.lineBody first last]
  | block first last left right? => window.blockSegments first last left right?

end Span

end ModalEdit

import ModalEdit.Edit.Shift
import ModalEdit.Mode
import ModalEdit.Text.CaseMap

/-!
Operators: deleting, changing, copying, shifting and changing the case of a span.
-/

set_option autoImplicit false

namespace ModalEdit

/-- What an operator leaves behind beside the text. -/
structure Applied where
  /-- The new place of the caret. -/
  caret : Nat
  /-- Where a changed block is typed into, from the first line on. -/
  blockCarets : List Nat := []
  /-- The lines added, or removed if negative. -/
  lineDelta : Int := 0
deriving DecidableEq, Inhabited

/-- The character that a list holds, if it holds one only. -/
def single? : List Char → Option Char
  | [c] => some c
  | _ => none

/-- The case that an operator gives to a character. A character whose image is longer is left as
it is. -/
def Operator.mapCase (operator : Operator) (c : Char) : Char :=
  let lower := (single? (Text.lowerOf c)).getD c
  let upper := (single? (Text.upperOf c)).getD c
  match operator with
  | .lowercase => lower
  | .uppercase => upper
  | _ => if Text.isLowercase c then upper else lower

namespace Workspace

/-- Removes pieces of text, the last first. -/
def removePieces (space : Workspace) (pieces : List (Nat × Nat)) : Workspace :=
  pieces.foldr (fun (start, stop) space => space.remove start stop) space

/-- Changes the characters of a span, the last piece first. A piece that stays the same is not
touched. -/
def mapSpan (space : Workspace) (span : Span) (f : Char → Char) : Workspace :=
  (span.pieces space.window).foldr
    (fun (start, stop) space =>
      let before := space.text.slice start stop
      if before.map f = before then space else space.replace start stop (before.map f))
    space

/-- Records a span in a register. -/
def recordSpan (space : Workspace) (span : Span) (name? : Option Char) (capture : Capture) :
    Workspace :=
  space.record name? (span.register space.window) capture

/-- Removes a span without recording it, and answers the place of the caret. -/
def removeSpan (space : Workspace) : Span → Workspace × Nat
  | .chars start stop => (space.remove start stop, start)
  | .lines first last =>
    let (start, stop) := space.text.lineSpan first last
    let removed := space.remove start stop
    (removed, removed.text.firstNonBlank (min first removed.text.lastLine))
  | .block first last left right? =>
    let segments := space.window.blockSegments first last left right?
    (space.removePieces segments, (segments.head?.map Prod.fst).getD 0)

/-- The lines that a workspace has more than another. -/
def lineDelta (before after : Workspace) : Int :=
  (after.text.lineCount : Int) - before.text.lineCount

/-- Deletes a span. -/
def deleteSpan (space : Workspace) (span : Span) (name? : Option Char) : Workspace × Applied :=
  let (removed, caret) := (space.recordSpan span name? .delete).removeSpan span
  (removed, { caret, lineDelta := lineDelta space removed })

/-- Deletes a span to type in its place. Whole lines leave an empty one, and a block a place on
each line that reaches it. -/
def changeSpan (space : Workspace) (span : Span) (name? : Option Char) : Workspace × Applied :=
  let recorded := space.recordSpan span name? .delete
  match span with
  | .chars start stop => (recorded.remove start stop, { caret := start })
  | .lines first last =>
    let (start, stop) := space.text.lineBody first last
    let removed := recorded.remove start stop
    (removed,
      { caret := removed.text.lineStart first, lineDelta := lineDelta space removed })
  | .block first last left right? =>
    let removed := recorded.removePieces (space.window.blockSegments first last left right?)
    let window := removed.window
    let reaching := (window.text.linesWithin first last).filter (left ≤ window.lineWidth ·)
    let places := reaching.map (window.blockColumn · left)
    (removed, { caret := places.head?.getD 0, blockCarets := places })

/-- Copies a span. The caret goes to its start, in its own column if the span is made of lines. -/
def yankSpan (space : Workspace) (span : Span) (name? : Option Char) : Workspace × Applied :=
  let window := space.window
  let place :=
    match span with
    | .lines first _ =>
      if window.text.lineOf window.caret = first then window.caret
      else window.offsetAtColumn first (window.displayColumn window.caret)
    | span => span.start window
  (space.recordSpan span name? .yank, { caret := place })

/-- Applies an operator to a span. Shifts go by a number of steps. -/
def applyOperator (space : Workspace) (operator : Operator) (span : Span) (name? : Option Char)
    (steps : Nat) : Workspace × Applied :=
  match operator with
  | .delete => space.deleteSpan span name?
  | .change => space.changeSpan span name?
  | .yank => space.yankSpan span name?
  | .shiftRight | .shiftLeft =>
    let (first, last) := span.lineBounds space.text
    let shifted := space.shiftLines first last (operator == .shiftRight) (max steps 1)
    (shifted, { caret := shifted.text.firstNonBlank first })
  | .toggleCase | .lowercase | .uppercase =>
    (space.mapSpan span operator.mapCase, { caret := span.start space.window })

end Workspace

end ModalEdit

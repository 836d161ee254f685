import ModalEdit.Edit.Operator

/-!
What operators depend on: the text, the tab stops, the options and the registers. Where the carets are,
what is seen and what can be undone makes no difference to what an operator does to the text and to the
registers.
-/

set_option autoImplicit false

namespace ModalEdit

/-- The window without its carets and its view. -/
def Window.bare (window : Window) : Window where
  text := window.text
  tabWidth := window.tabWidth

namespace Span

theorem register_bare (span : Span) (window : Window) :
    span.register window.bare = span.register window := by
  cases span <;> rfl

theorem pieces_bare (span : Span) (window : Window) :
    span.pieces window.bare = span.pieces window := by
  cases span <;> rfl

theorem start_bare (span : Span) (window : Window) : span.start window.bare = span.start window := by
  cases span <;> rfl

end Span

namespace Workspace

/-- The workspace without its carets, its view, its history and its digraphs. -/
def bare (space : Workspace) : Workspace where
  window := space.window.bare
  options := space.options
  registers := space.registers

/-- Two workspaces that operators cannot tell apart. -/
def Alike (first second : Workspace) : Prop :=
  first.bare = second.bare

variable {first second : Workspace}

theorem alike_begin (space : Workspace) : space.begin.Alike space := by
  unfold begin Alike
  split <;> rfl

namespace Alike

variable (alike : first.Alike second)

include alike

theorem text : first.text = second.text :=
  (congrArg Workspace.text alike :)

theorem registers : first.registers = second.registers :=
  (congrArg Workspace.registers alike :)

theorem window : first.window.bare = second.window.bare :=
  congrArg Workspace.window alike

theorem start (span : Span) : span.start first.window = span.start second.window := by
  rw [← span.start_bare, alike.window, span.start_bare]

theorem replace (start stop : Nat) (inserted : List Char) :
    (first.replace start stop inserted).Alike (second.replace start stop inserted) :=
  (congrArg (fun space : Workspace => (space.replace start stop inserted).bare) alike :)

theorem recordSpan (span : Span) (name? : Option Char) (capture : Capture) :
    (first.recordSpan span name? capture).Alike (second.recordSpan span name? capture) := by
  have taken : span.register first.window = span.register second.window := by
    rw [← span.register_bare, alike.window, span.register_bare]
  unfold Workspace.recordSpan
  rw [taken]
  exact (congrArg (fun space : Workspace =>
    (space.record name? (span.register second.window) capture).bare) alike :)

theorem blockSegments (first' last left : Nat) (right? : Option Nat) :
    first.window.blockSegments first' last left right? =
      second.window.blockSegments first' last left right? :=
  (congrArg (fun window : Window => window.blockSegments first' last left right?) alike.window :)

theorem removePieces (pieces : List (Nat × Nat)) :
    (first.removePieces pieces).Alike (second.removePieces pieces) := by
  induction pieces with
  | nil => exact alike
  | cons piece rest ih => exact ih.replace piece.1 piece.2 []

theorem removeSpan (span : Span) :
    (first.removeSpan span).1.Alike (second.removeSpan span).1 ∧
      (first.removeSpan span).2 = (second.removeSpan span).2 := by
  cases span with
  | chars start stop => exact ⟨alike.replace start stop [], rfl⟩
  | lines firstLine lastLine =>
    have removed := alike.replace (second.text.lineSpan firstLine lastLine).1
      (second.text.lineSpan firstLine lastLine).2 []
    unfold Workspace.removeSpan
    dsimp only
    rw [alike.text]
    exact ⟨removed, congrArg (fun text : Document =>
      text.firstNonBlank (min firstLine text.lastLine)) removed.text⟩
  | block firstLine lastLine left right? =>
    unfold Workspace.removeSpan
    dsimp only
    rw [alike.blockSegments]
    exact ⟨alike.removePieces _, rfl⟩

theorem lineDelta {firstAfter secondAfter : Workspace} (after : firstAfter.Alike secondAfter) :
    Workspace.lineDelta first firstAfter = Workspace.lineDelta second secondAfter := by
  unfold Workspace.lineDelta
  rw [alike.text, after.text]

theorem deleteSpan (span : Span) (name? : Option Char) :
    (first.deleteSpan span name?).1.Alike (second.deleteSpan span name?).1 ∧
      (first.deleteSpan span name?).2 = (second.deleteSpan span name?).2 := by
  obtain ⟨removed, caret⟩ := (alike.recordSpan span name? .delete).removeSpan span
  refine ⟨removed, ?_⟩
  unfold Workspace.deleteSpan
  dsimp only
  rw [caret, alike.lineDelta removed]

theorem changeSpan (span : Span) (name? : Option Char) :
    (first.changeSpan span name?).1.Alike (second.changeSpan span name?).1 ∧
      (first.changeSpan span name?).2 = (second.changeSpan span name?).2 := by
  have recorded := alike.recordSpan span name? .delete
  cases span with
  | chars start stop => exact ⟨recorded.replace start stop [], rfl⟩
  | lines firstLine lastLine =>
    have removed := recorded.replace (second.text.lineBody firstLine lastLine).1
      (second.text.lineBody firstLine lastLine).2 []
    unfold Workspace.changeSpan
    dsimp only
    rw [alike.text]
    refine ⟨removed, ?_⟩
    have delta := alike.lineDelta removed
    have texts := removed.text
    unfold remove
    rw [delta, texts]
  | block firstLine lastLine left right? =>
    unfold Workspace.changeSpan
    dsimp only
    rw [alike.blockSegments]
    have removed := recorded.removePieces
      (second.window.blockSegments firstLine lastLine left right?)
    exact ⟨removed, (congrArg (fun window : Window =>
      let places := ((window.text.linesWithin firstLine lastLine).filter
        (left ≤ window.lineWidth ·)).map (window.blockColumn · left)
      ({ caret := places.head?.getD 0, blockCarets := places } : Applied)) removed.window :)⟩

theorem setIndent (line width : Nat) :
    (first.setIndent line width).Alike (second.setIndent line width) :=
  (congrArg (fun space : Workspace => (space.setIndent line width).bare) alike :)

theorem shiftLine (right : Bool) (columns line : Nat) :
    (first.shiftLine right columns line).Alike (second.shiftLine right columns line) := by
  have width : first.window.indentWidth line = second.window.indentWidth line :=
    (congrArg (fun window : Window => window.indentWidth line) alike.window :)
  unfold Workspace.shiftLine
  rw [width, alike.text]
  dsimp only
  generalize (if right then _ else _) = shifted
  split
  · exact alike
  · exact alike.setIndent line shifted

theorem shiftLines (firstLine lastLine : Nat) (right : Bool) (times : Nat) :
    (first.shiftLines firstLine lastLine right times).Alike
      (second.shiftLines firstLine lastLine right times) := by
  have width : first.shiftWidth = second.shiftWidth :=
    (congrArg Workspace.shiftWidth alike :)
  unfold Workspace.shiftLines
  rw [width, alike.text]
  dsimp only
  generalize second.text.linesWithin firstLine lastLine = lines
  generalize Number.wrapMul second.shiftWidth times = columns
  clear width
  induction lines generalizing first second with
  | nil => exact alike
  | cons line rest ih => exact ih (alike.shiftLine right columns line)

theorem mapSpan (span : Span) (f : Char → Char) :
    (first.mapSpan span f).Alike (second.mapSpan span f) := by
  have pieces : span.pieces first.window = span.pieces second.window := by
    rw [← span.pieces_bare, alike.window, span.pieces_bare]
  unfold Workspace.mapSpan
  rw [pieces]
  induction span.pieces second.window with
  | nil => exact alike
  | cons piece rest ih =>
    rw [List.foldr_cons, List.foldr_cons, ih.text]
    dsimp only
    split
    · exact ih
    · exact ih.replace piece.1 piece.2 _

/-- An operator does the same to workspaces that it cannot tell apart. -/
theorem applyOperator (operator : Operator) (span : Span) (name? : Option Char) (steps : Nat) :
    (first.applyOperator operator span name? steps).1.Alike
      (second.applyOperator operator span name? steps).1 := by
  cases operator with
  | delete => exact (alike.deleteSpan span name?).1
  | change => exact (alike.changeSpan span name?).1
  | yank => exact alike.recordSpan span name? .yank
  | shiftRight | shiftLeft =>
    unfold Workspace.applyOperator
    dsimp only
    rw [alike.text]
    exact alike.shiftLines _ _ _ _
  | toggleCase | lowercase | uppercase => exact alike.mapSpan span _

/-- It also leaves the caret at the same place, unless whole lines are copied. -/
theorem applied (operator : Operator) (span : Span) (name? : Option Char) (steps : Nat)
    (placed : operator = .yank → ∀ firstLine lastLine, span ≠ .lines firstLine lastLine) :
    (first.applyOperator operator span name? steps).2 =
      (second.applyOperator operator span name? steps).2 := by
  cases operator with
  | delete => exact (alike.deleteSpan span name?).2
  | change => exact (alike.changeSpan span name?).2
  | yank =>
    cases span with
    | lines firstLine lastLine => exact absurd rfl (placed rfl firstLine lastLine)
    | chars start stop => rfl
    | block firstLine lastLine left right? =>
      have start := alike.start (.block firstLine lastLine left right?)
      unfold Workspace.applyOperator yankSpan
      dsimp only
      rw [start]
  | shiftRight | shiftLeft =>
    unfold Workspace.applyOperator
    dsimp only
    rw [alike.text]
    exact congrArg (fun text : Document => ({ caret := text.firstNonBlank _ } : Applied))
      (alike.shiftLines _ _ _ _).text
  | toggleCase | lowercase | uppercase =>
    unfold Workspace.applyOperator
    dsimp only
    rw [alike.start]

end Alike

end Workspace

end ModalEdit

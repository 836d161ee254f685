import ModalEdit.Edit.Operator
import ModalEdit.Editor.Basic
import ModalEdit.Editor.KeyTable

/-!
Moving carets and applying operators: what a motion or a mark does from each caret.
-/

set_option autoImplicit false

namespace ModalEdit

/-- A place that a command goes to. -/
inductive Destination where
  | motion (motion : Motion)
  | mark (name : Char) (linewise : Bool)
deriving DecidableEq, Inhabited

/-- What an operator acts on between a caret and a target. Text that stops at the start of a line
stops at the end of the line before instead, and takes in whole lines when it also began before
all that is not blank. -/
def operatorSpan? (text : Document) (offset : Nat) (target : Landing) : Option Span :=
  let low := min offset target.offset
  let high := max offset target.offset
  let lowLine := text.lineOf low
  let highLine := text.lineOf high
  match target.wise with
  | .linewise => some (.lines lowLine highLine)
  | .inclusive =>
    let stop := if high < text.lineEnd highLine then high + 1 else high
    if low < stop then some (.chars low stop) else none
  | .exclusive =>
    if low = high then none
    else if lowLine < highLine ∧ high = text.lineStart highLine then
      if low ≤ text.firstNonBlank lowLine then some (.lines lowLine (highLine - 1))
      else some (.chars low (text.lineEnd (highLine - 1)))
    else some (.chars low high)

/-- A change to the next word stops at the end of the word that the caret is on. -/
def changeWordTarget? (text : Document) (caret : Caret) (operator : Operator)
    (destination : Destination) (count? : Option Nat) : Option Landing :=
  match destination, text[caret.offset]? with
  | .motion (.wordStart kind), some c =>
    if operator ≠ .change ∨ Text.isBlank c then none
    else
      let first := kind.currentEnd text caret.offset
      let last := Number.repeated (kind.nextEnd text) (max (count?.getD 1) 1 - 1) first
      some { offset := last, wise := .inclusive }
  | _, _ => none

namespace Editor

/-- What motions take from the editor. -/
def motionContext (editor : Editor) (operator : Bool) : MotionContext where
  pastEnd := !operator && editor.mode.caretPastEnd
  operator := operator
  scrolloff := editor.options.count "scrolloff"

/-- Where a destination is for a caret. -/
def target? (editor : Editor) (caret : Caret) (destination : Destination) (count? : Option Nat)
    (context : MotionContext) : Option Landing :=
  let text := editor.text
  match destination with
  | .motion motion => motion.resolve editor.window caret count? context
  | .mark name linewise =>
    (editor.mark? name).map fun place =>
      let offset := min place text.length
      if linewise then { offset := text.firstNonBlank (text.lineOf offset), wise := .linewise }
      else
        { offset := text.clampCaret offset (context.pastEnd || context.operator)
          wise := .exclusive }

/-- The count and the register of the command, which ends being typed. -/
def takePending (editor : Editor) : Editor × Option Nat × Option Char :=
  (editor.clearPending, editor.pending.effectiveCount?, editor.pending.register?)

/-- Moves every caret that can be moved. -/
def moveCarets (editor : Editor) (destination : Destination) (count? : Option Nat) : Outcome :=
  let reach (caret : Caret) : Option Landing :=
    editor.target? caret destination count? (editor.motionContext false)
  let move (caret : Caret) : Caret :=
    match reach caret with
    | some target => { caret with offset := target.offset, sticky? := target.sticky? }
    | none => caret
  (editor.update (·.mapCarets move)).doneIf (editor.carets.toList.any fun caret => (reach caret).isSome)

/-- What is reported of an operator: many lines copied, or many lines gone. -/
def reportOf? (operator : Operator) (span : Span) (lines : Nat) (applied : Applied) :
    Option String :=
  if operator = .yank ∧ 2 < lines then
    match span with
    | .block .. => some s!"block of {lines} lines yanked"
    | _ => some s!"{lines} lines yanked"
  else if applied.lineDelta < -2 then some s!"{applied.lineDelta.natAbs} fewer lines"
  else none

/-- Applies an operator to a span for a caret, and answers where a changed block is typed into. -/
def applyAt (editor : Editor) (index : Nat) (operator : Operator) (span : Span)
    (register? : Option Char) (steps : Nat) : Editor × List Nat :=
  let (first, last) := span.lineBounds editor.text
  let (space, applied) := editor.toWorkspace.applyOperator operator span register? steps
  let moved := { editor with toWorkspace := space.moveCaret index applied.caret }
  ((reportOf? operator span (last - first + 1) applied).elim moved moved.report,
    applied.blockCarets)

/-- What an operator acts on for a caret. A change may act on nothing. -/
def spanAt? (editor : Editor) (caret : Caret) (operator : Operator) (destination : Destination)
    (count? : Option Nat) (context : MotionContext) : Option Span :=
  let word? := changeWordTarget? editor.text caret operator destination count?
  (word? <|> editor.target? caret destination count? context).bind fun target =>
    operatorSpan? editor.text caret.offset target <|>
      if operator = .change then some (.chars caret.offset caret.offset) else none

/-- Applies an operator from every caret to where a destination takes it. -/
def operate (editor : Editor) (operator : Operator) (destination : Destination)
    (count? : Option Nat) (register? : Option Char) : Outcome :=
  let context := editor.motionContext true
  let begun := editor.update (·.begin)
  let (applied, any) := begun.carets.descending.foldl
    (fun (editor, any) index =>
      let span? := (editor.carets.get? index).bind fun caret =>
        editor.spanAt? caret operator destination count? context
      match span? with
      | some span => ((editor.applyAt index operator span register? 1).1, true)
      | none => (editor, any))
    (begun, false)
  if !any then ({ applied with mode := .normal }.update (·.commit)).reject
  else if operator = .change then (applied.startTyping .insert 1 false).done
  else ({ applied with mode := .normal }.update (·.commit)).done

/-- Applies an operator to `count` lines from every caret on. From the last line on there is only
one. -/
def operateLines (editor : Editor) (operator : Operator) (count : Nat) (register? : Option Char) :
    Outcome :=
  let count := max count 1
  if 1 < count ∧ editor.text.lineOf editor.window.caret = editor.text.lastLine then
    { editor with mode := .normal }.reject
  else
    let begun := editor.update (·.begin)
    let (applied, _) := begun.carets.descending.foldl
      (fun (editor, finished) index =>
        let line := editor.text.lineOf (editor.carets.offsetAt index)
        if finished.contains line then (editor, finished)
        else
          let last := min (Number.wrapAdd line (count - 1)) editor.text.lastLine
          ((editor.applyAt index operator (.lines line last) register? 1).1, line :: finished))
      (begun, ([] : List Nat))
    if operator = .change then (applied.startTyping .insert 1 false).done
    else ({ applied with mode := .normal }.update (·.commit)).done

/-- Goes to a destination, or applies an operator up to it. -/
def go (editor : Editor) (destination : Destination) (operator? : Option Operator) : Outcome :=
  let (editor, count?, register?) := editor.takePending
  match operator? with
  | some operator => editor.operate operator destination count? register?
  | none => editor.moveCarets destination count?

/-- Moves by a motion with the count typed so far. -/
def moveBy (editor : Editor) (motion : Motion) : Outcome :=
  editor.go (.motion motion) none

/-- Takes a key for the character to search on the line. -/
def findKey (editor : Editor) (key : Key) (forward till : Bool) (operator? : Option Operator) :
    Outcome :=
  match key.target? with
  | none => editor.reject
  | some char =>
    let find : Find := ⟨char, forward, till⟩
    { editor with lastFind? := some find }.go (.motion (.find find)) operator?

/-- Takes a key for the mark to go to. -/
def markKey (editor : Editor) (key : Key) (linewise : Bool) (operator? : Option Operator) :
    Outcome :=
  match key.printable? with
  | none => editor.reject
  | some name =>
    if (editor.mark? name).isNone then (editor.report "E20: Mark not set").reject
    else editor.go (.mark name linewise) operator?

/-- Takes a key for the register to use. -/
def registerKey (editor : Editor) (key : Key) : Outcome :=
  match key.printable? with
  | some name =>
    if isRegisterName name then
      ({ editor with pending := { editor.pending with register? := some name } }, .pending)
    else editor.reject
  | none => editor.reject

/-- Takes a key for a digit of the count. A zero only goes on with a count. -/
def countKey? (editor : Editor) (key : Key) : Option Outcome :=
  match key.printable? with
  | none => none
  | some digit =>
    if digit.isDigit ∧ (digit ≠ '0' ∨ editor.pending.count?.isSome) then
      let pending := editor.pending.pushDigit (Number.decimalValue digit)
      some ({ editor with pending }, .pending)
    else none

/-- The keys that begin a motion of two keys, and the search made again. -/
def motionStart? (editor : Editor) (key : Key) (operator? : Option Operator) : Option Outcome :=
  match key.printable? with
  | some 'g' => some (editor.await .afterG)
  | some 'f' => some (editor.await (.findTarget true false))
  | some 'F' => some (editor.await (.findTarget false false))
  | some 't' => some (editor.await (.findTarget true true))
  | some 'T' => some (editor.await (.findTarget false true))
  | some '\'' => some (editor.await (.markToReach true))
  | some '`' => some (editor.await (.markToReach false))
  | some ';' =>
    some (editor.lastFind?.elim editor.reject fun find =>
      editor.go (.motion (.repeatFind find)) operator?)
  | some ',' =>
    some (editor.lastFind?.elim editor.reject fun find =>
      editor.go (.motion (.repeatFind find.reversed)) operator?)
  | _ => none

end Editor

end ModalEdit

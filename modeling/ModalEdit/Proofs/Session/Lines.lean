import ModalEdit.Proofs.Command.Lines
import ModalEdit.Proofs.Session.Selecting

/-!
Three ways to delete lines: by an operator, over a selection of whole lines, and by a line of the prompt
that names them by a number and a count or by the marks of the selection. All of them come to the same.
-/

set_option autoImplicit false

namespace ModalEdit

open Command (CommandId LineOperator deleteLine)
open Number (saturate)

namespace Session

variable {session : Session} {operator : Operator} {name : Char} {id : CommandId}

/-- A line that operates on lines applies its operator to them. -/
theorem runLine_onLines {line : List Char} {range? : Option Command.Range} {register? : Option Char}
    {count? : Option Nat} {first last : Nat} (onLines : LineOperator operator name id)
    (handlers : session.handlers = fun id => some (.ofId id))
    (parsed : Command.parse line =
      .ok ⟨range?, id, false, .registerCount register? count?⟩)
    (counted : session.countedLines ⟨range?, id, false, .registerCount register? count?⟩ count? =
      .ok (first, last)) (nesting : Nat) :
    let applied := (applyToLines session.editor operator first last register?).1
    ∃ after, runLine (nesting + 1) session line = some (after, .ok none) ∧
      after.text = applied.text ∧ after.editor.window.caret = applied.window.caret ∧
        after.editor.registers = applied.registers := by
  intro applied
  have accepted : refusal? ⟨range?, id, false, .registerCount register? count?⟩ = none := by
    cases onLines <;> cases range? <;> rfl
  have ran (run : LineRunner) : session.runCommand run
        ⟨range?, id, false, .registerCount register? count?⟩ =
      some (session.runOnLines operator ⟨range?, id, false, .registerCount register? count?⟩) := by
    unfold runCommand
    rw [accepted, handlers]
    cases onLines <;> rfl
  have done : ∃ messages, session.runOnLines operator
        ⟨range?, id, false, .registerCount register? count?⟩ =
      ({ session with editor := applied, messages }, .ok none) := by
    unfold runOnLines
    dsimp only
    rw [counted]
    dsimp only
    cases Editor.reportOf? operator (.lines first last) (last - first + 1)
      (applyToLines session.editor operator first last register?).2 with
    | none => exact ⟨session.messages, rfl⟩
    | some message => exact ⟨session.messages ++ [message], rfl⟩
  obtain ⟨messages, done⟩ := done
  unfold runLine
  rw [parsed]
  dsimp only
  rw [ran, done]
  obtain ⟨text, carets, registers, -⟩ := shown_editor { session with editor := applied, messages }
  exact ⟨_, rfl, text, congrArg (·.primary.offset) carets, registers⟩

/-- The line leaves the text and the registers that the operator leaves, and where it deletes, the caret
too. -/
theorem runLine_agrees {line : List Char} {range? : Option Command.Range} {register? : Option Char}
    {count? : Option Nat} {first last : Nat} {space : Workspace} {ended : Editor}
    (onLines : LineOperator operator name id)
    (handlers : session.handlers = fun id => some (.ofId id))
    (parsed : Command.parse line = .ok ⟨range?, id, false, .registerCount register? count?⟩)
    (counted : session.countedLines ⟨range?, id, false, .registerCount register? count?⟩ count? =
      .ok (first, last))
    (alone : session.editor.carets.size = 1) (normal : session.editor.mode = .normal)
    (alike : session.editor.toWorkspace.Alike space)
    (ends : ended.EndsAs (space.applyOperator operator (.lines first last) register? 1).1
      (space.applyOperator operator (.lines first last) register? 1).2.caret .normal)
    (nesting : Nat) :
    ∃ after, runLine (nesting + 1) session line = some (after, .ok none) ∧
      after.text = ended.settle.text ∧ after.editor.registers = ended.settle.registers ∧
        (operator = .delete → after.editor.window.caret = ended.settle.window.caret) := by
  obtain ⟨after, ran, text, caret, registers⟩ := runLine_onLines onLines handlers parsed counted nesting
  obtain ⟨other, applied, leaves, deletes⟩ :=
    Editor.endsAs_applyToLines alone operator first last register?
  have steps : space.applyOperator operator (.lines first last) register? 0 =
      space.applyOperator operator (.lines first last) register? 1 := by
    cases onLines <;> rfl
  have landed := alike.applyOperator operator (.lines first last) register? 0
  rw [steps] at landed
  have same : other.toWorkspace.Alike ended.toWorkspace :=
    leaves.trans (landed.trans ends.alike.symm)
  rw [applied] at text caret registers
  refine ⟨after, ran, ?_, registers.trans same.registers, ?_⟩
  · rw [text, Editor.text_settle, Editor.text_settle]
    exact same.text
  · intro delete
    have left := alike.applied operator (.lines first last) register? 0
      fun yank => absurd (delete.symm.trans yank) nofun
    rw [steps] at left
    have endsToo := (deletes delete).trans landed (congrArg Applied.caret left)
    rw [normal] at endsToo
    rw [caret]
    exact (endsToo.settle ends rfl).2.2.1

end Session

namespace Editor

variable {editor : Editor} {space : Workspace} {kind : SelectionKind} {mode : Mode}
  {operator : Operator} {target : ReturnMode} {register? : Option Char} {count anchor caret : Nat}
  {last : LastSelection} {input : List Char}

/-- The key of an operator behind the operator itself: it is applied to whole lines. -/
theorem pressInMode_doubled (waits : editor.mode = .operatorPending operator target)
    (awaits : editor.pending.awaited = .command) :
    editor.pressInMode (.ofChar operator.doublingKey) =
      editor.clearPending.operateLines operator (editor.pending.effectiveCount?.getD 1)
        editor.pending.register? := by
  rw [pressInMode_operatorKey awaits _ waits]
  cases operator <;> rfl

/-- What is typed to delete lines from the caret on: a register, a count, and the doubled operator. -/
def deleteKeys (register? : Option Char) (count : Nat) : List Char :=
  register?.elim [] (['"', ·]) ++ (Nat.toDigits 10 count ++ ['d', 'd'])

/-- The keys delete as many lines from the caret on as there are, at most the count. -/
theorem types_deleteKeys (normal : editor.mode = .normal) (clear : editor.pending = {})
    (alone : editor.carets.size = 1) (positive : 0 < count)
    (enough : count = 1 ∨ editor.text.lineOf editor.window.caret ≠ editor.text.lastLine)
    (names : ∀ name ∈ register?, name.isAlpha = true ∨ name = '_') :
    let line := editor.text.lineOf editor.window.caret
    let last := min (Number.wrapAdd line (saturate count - 1)) editor.text.lastLine
    let landed := editor.applyOperator .delete (.lines line last) register? 1
    ∃ after : Editor, editor.Types (Key.typing (deleteKeys register? count)) after.settle.quiet ∧
      after.EndsAs landed.1 landed.2.caret .normal := by
  intro line last landed
  let digits := Nat.toDigits 10 count
  let command : CommandPrefix := { registers := register?.toList.map fun name => { name }, digits }
  let front := editor.withPending { count? := some (saturate count), register? }
  let waiting := (front.startOperator .delete).1
  have run : Number.IsRun digits := Number.isRun_toDigits positive
  have used : RegisterPrefix.last? command.registers = register? := by cases register? <;> rfl
  have all : command.front = digits := by cases register? <;> rfl
  have counted : Number.runsCount? [digits] = some (saturate count) := by
    rw [Number.runsCount?_single, if_neg Nat.toDigits_ne_nil, Number.countOfDigits_toDigits]
  have typable : command.Typable editor.mode := by
    refine ⟨by rw [normal]; rfl, ?_, all ▸ run, ⟨nofun, nofun⟩, fun _ => rfl, absurd rfl⟩
    intro register member
    obtain ⟨name, named, rfl⟩ := List.mem_map.mp member
    exact Command.isRegisterName_of_isAlpha (names name (Option.mem_toList.mp named))
  have typed : editor.TakesIn (Key.typing (RegisterPrefix.typed command.registers digits)) front := by
    have taken := takesIn_front clear typable
    rwa [all, used, counted] at taken
  have operated : front.TakesIn (Key.typing ['d']) waiting := takesIn_operator .delete normal rfl
  have some : 0 < saturate count := Number.saturate_pos positive
  have enoughCounted : saturate count ≤ 1 ∨
      editor.text.lineOf editor.window.caret ≠ editor.text.lastLine :=
    enough.imp_left fun one => Nat.le_trans (Nat.min_le_left _ _) (Nat.le_of_eq one)
  obtain ⟨after, deleted, ends⟩ :=
    @endsAs_operateLines waiting.quiet.clearPending alone .delete (saturate count) register?
      enoughCounted
  have pressed : waiting.quiet.press (.ofChar 'd') = after.settle.done :=
    press_of_done ((pressInMode_doubled rfl rfl).trans deleted)
  have keys : Key.typing (deleteKeys register? count) =
      (Key.typing (RegisterPrefix.typed command.registers digits) ++ Key.typing ['d']) ++
        [.ofChar 'd'] := by
    have chars : RegisterPrefix.typed command.registers digits =
        register?.elim [] (['"', ·]) ++ digits := by
      cases register? <;> rfl
    unfold deleteKeys Key.typing
    rw [chars]
    simp only [List.map_append, List.append_assoc, List.map_cons, List.map_nil, List.cons_append,
      List.nil_append, digits]
  rw [Nat.max_eq_left some] at ends
  rw [keys]
  refine ⟨after, .append ((typed.append operated).types ?_) (.cons pressed nofun (.nil _)), ends⟩
  exact List.append_ne_nil_of_right_ne_nil _ (List.cons_ne_nil _ _)

/-- A key of an operator on selected lines. -/
theorem SelectsTo.press_lines (selects : editor.SelectsTo .line space anchor caret)
    {name : Char} {id : CommandId} (onLines : LineOperator operator name id) :
    let landed := editor.applyOperator operator
      (.lines (editor.text.lineOf (min anchor caret)) (editor.text.lineOf (max anchor caret))) none 1
    ∃ after : Editor, editor.press (.ofChar name) = after.settle.done ∧
      after.EndsAs landed.1 landed.2.caret .normal := by
  intro landed
  have offset : editor.carets.primary.offset = caret := selects.caret
  have spans : editor.spanOf? editor.carets.primary .line false =
      some (.lines (editor.text.lineOf (min anchor caret))
        (editor.text.lineOf (max anchor caret))) := by
    unfold spanOf? selectionSpan?
    rw [selects.anchor, offset]
    rfl
  have key : name = operator.doublingKey ∧ operator ≠ .change := by
    cases onLines <;> exact ⟨rfl, nofun⟩
  have starts : (Span.lines (editor.text.lineOf (min anchor caret))
      (editor.text.lineOf (max anchor caret))).StartsIn editor.text := trivial
  have places : landed.2.blockCarets = [] := by
    unfold landed
    clear key
    cases onLines <;> rfl
  obtain ⟨after, operated, ends⟩ :=
    endsAs_operateOnSelections selects.alone .normal none 1 starts spans places
  rw [if_neg key.2] at ends
  rw [key.1]
  exact ⟨after, press_of_done ((selects.pressInMode_operator operator).trans operated), ends⟩

/-- A selection that has been left is remembered, and its caret still stands where it stood. -/
structure Remembers (editor : Editor) (mode : Mode) (space : Workspace) (last : LastSelection) :
    Prop where
  mode : editor.mode = mode
  pending : editor.pending = {}
  alone : editor.carets.size = 1
  caret : editor.window.caret = last.caret
  selection : editor.lastSelection? = some last
  alike : editor.toWorkspace.Alike space

theorem Remembers.settle (remembers : editor.Remembers mode space last)
    (rests : space.text.clampCaret last.caret false = last.caret) :
    editor.settle.Remembers mode space last := by
  have text : editor.text = space.text := remembers.alike.text
  have inside : last.caret ≤ space.text.length := rests ▸ Document.clampCaret_le _ _ _
  refine ⟨remembers.mode, remembers.pending, size_settle remembers.alone, ?_, remembers.selection,
    editor.alike_settle.trans remembers.alike⟩
  rw [caret_settle remembers.alone, text, remembers.caret, Nat.min_eq_left inside]
  exact Document.clampCaret_of_rests rests _

theorem Remembers.quiet (remembers : editor.Remembers mode space last) :
    editor.quiet.Remembers mode space last :=
  ⟨remembers.mode, remembers.pending, remembers.alone, remembers.caret, remembers.selection,
    remembers.alike⟩

theorem SelectsTo.endSelection (selects : editor.SelectsTo kind space anchor caret)
    (rests : space.text.clampCaret caret false = caret) :
    (editor.endSelection .normal).Remembers .normal space ⟨anchor, caret, kind⟩ := by
  have offset : editor.carets.primary.offset = caret := selects.caret
  have text : editor.text = space.text := selects.alike.text
  have inside : caret ≤ space.text.length := rests ▸ Document.clampCaret_le _ _ _
  let remembered := { editor with lastSelection? := some ⟨anchor, caret, kind⟩ }
  let left := { remembered.update (·.clearAnchors) with mode := .normal }
  have ended : editor.endSelection .normal = left.clampCarets := by
    have same : (editor.mode.selectionKind?.map editor.rememberSelection).getD editor = remembered := by
      rw [selects.mode]
      show editor.rememberSelection kind = _
      unfold rememberSelection
      dsimp only
      rw [selects.anchor, offset]
    unfold Editor.endSelection
    rw [same]
    rfl
  have alone : left.carets.size = 1 := (CaretSet.size_map _ _).trans selects.alone
  have stands : left.clampCarets.window.caret =
      left.text.clampCaret (min left.window.caret left.text.length) false :=
    congrArg (fun carets : CaretSet => carets.primary.offset) (carets_clampCarets alone)
  have leftText : left.text = space.text := text
  have leftCaret : left.window.caret = caret := selects.caret
  rw [ended]
  refine ⟨rfl, selects.pending, size_clampCarets alone, ?_, rfl, selects.alike⟩
  rw [stands, leftText, leftCaret, Nat.min_eq_left inside]
  exact rests

/-- The prompt over a selection names the lines of it. -/
theorem SelectsTo.press_prompt (selects : editor.SelectsTo kind space anchor caret)
    (rests : space.text.clampCaret caret false = caret) :
    ∃ after : Editor, editor.press (.ofChar ':') = after.done ∧
      after.Remembers .commandLine space ⟨anchor, caret, kind⟩ ∧
        after.prompt = .ofChars ['\'', '<', ',', '\'', '>'] := by
  have awaits : editor.pending.awaited = .command := congrArg Pending.awaited selects.pending
  let opened := (editor.clearPending.endSelection .normal).openPrompt "'<,'>".toList
  have pressed : editor.pressInMode (.ofChar ':') = opened.done :=
    pressInMode_visualKey awaits _ selects.mode
  have cleared : editor.clearPending.SelectsTo kind space anchor caret :=
    ⟨selects.mode, rfl, selects.alone, selects.anchor, selects.caret, selects.alike⟩
  have left := cleared.endSelection rests
  have remembers : opened.Remembers .commandLine space ⟨anchor, caret, kind⟩ :=
    ⟨rfl, left.pending, left.alone, left.caret, left.selection, left.alike⟩
  have chars : "'<,'>".toList = ['\'', '<', ',', '\'', '>'] := by decide
  exact ⟨_, press_of_done pressed, remembers.settle rests, congrArg Prompt.ofChars chars⟩

/-- A key at the prompt. -/
theorem pressInMode_promptKey {key : Key} (prompt : editor.mode = .commandLine)
    (clear : editor.pending = {}) (plain : ∀ c, key.isCtrl c = false) :
    editor.pressInMode key = editor.afterPrompt (editor.prompt.press key) := by
  have awaits : editor.pending.awaited = .command := congrArg Pending.awaited clear
  have special : editor.specialStart? key = none := by
    unfold specialStart?
    simp only [plain, Bool.or_self, Bool.false_eq_true, ↓reduceIte]
  rw [pressInMode_prompt _ prompt]
  unfold pressPrompt
  dsimp only
  rw [awaits, stopWaiting_of_command awaits, if_neg (not_not_intro rfl), special]
  rfl

/-- A character typed at the end of the prompt. -/
theorem Remembers.press_char (remembers : editor.Remembers .commandLine space last)
    (rests : space.text.clampCaret last.caret false = last.caret)
    (prompt : editor.prompt = .ofChars input) (c : Char) :
    ∃ after : Editor, editor.press (.ofChar c) = after.done ∧
      after.Remembers .commandLine space last ∧ after.prompt = .ofChars (input ++ [c]) := by
  let typed := { editor with prompt := .ofChars (input ++ [c]) }
  have pressed : editor.pressInMode (.ofChar c) = typed.done := by
    have inserted : editor.prompt.press (.ofChar c) = (.ofChars (input ++ [c]), .edited) := by
      rw [prompt]
      unfold Prompt.press
      simp only [isCtrl_ofChar, Bool.false_eq_true, ↓reduceIte]
      show ((Prompt.ofChars input).insert [c], PromptEvent.edited) = _
      unfold Prompt.ofChars Prompt.insert Prompt.before Prompt.behind
      simp
    rw [pressInMode_promptKey remembers.mode remembers.pending (isCtrl_ofChar c), inserted]
    rfl
  have remembersTyped : typed.Remembers .commandLine space last :=
    ⟨remembers.mode, remembers.pending, remembers.alone, remembers.caret, remembers.selection,
      remembers.alike⟩
  exact ⟨_, press_of_done pressed, remembersTyped.settle rests, rfl⟩

/-- The line that is handed over. -/
theorem Remembers.press_enter (remembers : editor.Remembers .commandLine space last)
    (rests : space.text.clampCaret last.caret false = last.caret)
    (prompt : editor.prompt = .ofChars input) :
    ∃ after : Editor, editor.press .enter = (after, .execute input) ∧
      after.Remembers .normal space last := by
  let left := { editor with prompt := { Prompt.ofChars input with input := [] }, mode := .normal }
  have pressed : editor.pressInMode .enter = (left, .execute input) := by
    rw [pressInMode_promptKey remembers.mode remembers.pending (fun _ => rfl), prompt]
    rfl
  have remembersLeft : left.Remembers .normal space last :=
    ⟨rfl, remembers.pending, remembers.alone, remembers.caret, remembers.selection, remembers.alike⟩
  refine ⟨left.settle, ?_, remembersLeft.settle rests⟩
  unfold press
  rw [pressed]

end Editor

namespace Session

open Editor (deleteKeys)

/-- A key that hands over a line: the line is run, and nothing waits. -/
theorem feed_execute {session : Session} {key : Key} {after : Editor} {line : List Char}
    (nesting : Nat) (unmapped : session.Unmapped)
    (pressed : session.editor.press key = (after, .execute line)) :
    ∃ before : Session, before.editor = after.quiet ∧ before.handlers = session.handlers ∧
      ∀ ran, runLine nesting before line = some (ran, .ok none) →
        session.feed nesting key = some ({ ran with typeahead := [] }, .consumed) := by
  obtain ⟨editor, handlers, -⟩ := session.ready_spec
  obtain ⟨collected, keptHandlers, -⟩ := collectReport_editor { session.ready with editor := after }
  refine ⟨(collectReport { session.ready with editor := after }).clearStatus, collected,
    keptHandlers.trans handlers, ?_⟩
  intro ran runs
  have taken : pressTyped nesting session.ready key = some (ran, .consumed) := by
    unfold pressTyped pressKey
    rw [editor, pressed]
    dsimp only
    rw [runs]
    rfl
  rw [feed_unmapped unmapped, taken]
  rfl

/-- The session selects whole lines with one caret that rests, and has no mappings. -/
structure SelectsLines (session : Session) (anchor : Nat) : Prop extends session.Unmapped where
  selects : session.editor.SelectsTo .line session.editor.toWorkspace anchor
    session.editor.window.caret
  inside : anchor ≤ session.text.length
  rests : session.text.clampCaret session.editor.window.caret false = session.editor.window.caret

variable {session : Session} {operator : Operator} {name : Char} {id : CommandId}

/-- Every selection of whole lines that keys lead to is one, if there is a single caret that rested in the
beginning, and nothing is mapped. -/
theorem Reachable.selectsLines {window : Window} {caret : Caret}
    (single : window.carets = .single caret) (unselected : caret.anchor? = none)
    (rests : window.text.clampCaret caret.offset false = caret.offset)
    (reachable : Reachable window session) (unmapped : session.Unmapped)
    (mode : session.editor.mode = .visual .line .normal) (pending : session.editor.pending = {})
    (alone : session.editor.carets.size = 1) : ∃ anchor, session.SelectsLines anchor := by
  have inside : caret.offset ≤ window.text.length := rests ▸ Document.clampCaret_le _ _ _
  obtain ⟨anchors, -, -⟩ := reachable.mode_agrees (unselected_of_single single unselected inside)
  rw [mode] at anchors
  have primary : session.editor.carets.primary ∈ session.editor.carets.toList :=
    List.mem_append_right _ List.mem_cons_self
  obtain ⟨anchor, inText, anchored⟩ := anchors _ primary
  exact ⟨anchor, unmapped, ⟨mode, pending, alone, anchored, rfl, rfl⟩, inText,
    reachable.caret_rests single unselected rests (congrArg Mode.caretPastEnd mode)⟩

theorem linesOf_number {line : Nat} (fits : session.text.length ≤ Int64.maxValue.toInt)
    (isLine : line ≤ session.text.lastLine) :
    session.linesOf (some (.lines ⟨.number (line + 1), 0⟩ none false)) = .ok (line, line) := by
  have fitsLast : session.text.lastLine ≤ Int64.maxValue.toInt :=
    Int.le_trans (Int.ofNat_le.mpr (Document.lineOf_le _ _)) fits
  unfold linesOf
  dsimp only
  rw [Command.Range.resolve_number fitsLast isLine]
  rfl

/-- The marks of a selection name the first and the last line of it. -/
theorem linesOf_selection {last : LastSelection} (fits : session.text.length ≤ Int64.maxValue.toInt)
    (selection : session.editor.lastSelection? = some last)
    (inside : last.anchor ≤ session.text.length ∧ last.caret ≤ session.text.length) :
    session.linesOf (some (.lines ⟨.mark '<', 0⟩ (some ⟨.mark '>', 0⟩) false)) =
      .ok (session.text.lineOf (min last.anchor last.caret),
        session.text.lineOf (max last.anchor last.caret)) := by
  have fitsLast : session.text.lastLine ≤ Int64.maxValue.toInt :=
    Int.le_trans (Int.ofNat_le.mpr (Document.lineOf_le _ _)) fits
  have low : session.editor.mark? '<' = some (min last.anchor last.caret) := by
    unfold Editor.mark?
    rw [selection]
    rfl
  have high : session.editor.mark? '>' = some (max last.anchor last.caret) := by
    unfold Editor.mark?
    rw [selection]
    rfl
  let mark (name : Char) : Option Nat :=
    (session.editor.mark? name).map fun offset => session.text.lineOf (min offset session.text.length)
  have lineOf {name : Char} {offset : Nat} (marked : session.editor.mark? name = some offset)
      (inText : offset ≤ session.text.length) : mark name = some (session.text.lineOf offset) := by
    unfold mark
    rw [marked, Option.map_some, Nat.min_eq_left inText]
  have ordered : session.text.lineOf (min last.anchor last.caret) ≤
      session.text.lineOf (max last.anchor last.caret) :=
    Document.lineOf_mono _ (by omega)
  have resolved (current : Nat) : Command.Range.resolve
        (.lines ⟨.mark '<', 0⟩ (some ⟨.mark '>', 0⟩) false) current session.text.lastLine mark = _ :=
    Command.Range.resolve_marks (lineOf low (by omega)) (lineOf high (by omega)) fitsLast
      (Document.lineOf_le_lastLine _ _) (Document.lineOf_le_lastLine _ _)
  unfold linesOf
  dsimp only
  rw [resolved, Nat.min_eq_left ordered, Nat.max_eq_right ordered]
  rfl

/-- The doubled operator and the line of the prompt delete the same lines. -/
theorem delete_counted {count : Nat} {register? : Option Char} (resting : session.Resting)
    (handlers : session.handlers = fun id => some (.ofId id))
    (fits : session.text.length ≤ Int64.maxValue.toInt) (positive : 0 < count)
    (enough : count = 1 ∨
      session.text.lineOf session.editor.window.caret ≠ session.text.lastLine)
    (names : ∀ name ∈ register?, name.isAlpha = true ∨ name = '_') (nesting : Nat) :
    let line := session.text.lineOf session.editor.window.caret
    ∃ typed answers executed,
      session.feedAll nesting (Key.typing (deleteKeys register? count)) = some (typed, answers) ∧
      session.execute (nesting + 1) (deleteLine line register? count) = some (executed, .ok none) ∧
      typed.text = executed.text ∧
      typed.editor.window.caret = executed.editor.window.caret ∧
      typed.editor.registers = executed.editor.registers := by
  intro line
  obtain ⟨ended, types, ends⟩ :=
    Editor.types_deleteKeys resting.mode resting.pending resting.alone positive enough names
  obtain ⟨typed, answers, fed, -, typedEditor, -⟩ := types nesting session resting.toUnmapped rfl
  have isLine : line ≤ session.text.lastLine := Document.lineOf_le_lastLine _ _
  have number : saturate (line + 1) = line + 1 := by
    have within : line ≤ session.text.length := Nat.le_trans isLine (Document.lineOf_le _ _)
    have largest := Int64.toInt_maxValue
    refine Number.saturate_of_le ?_
    unfold Number.maxCount
    omega
  have parsed : Command.parse (deleteLine line register? count) = _ :=
    Command.parse_deleteLine names positive
  rw [number] at parsed
  have counted : session.clearStatus.countedLines
      ⟨some (.lines ⟨.number (line + 1), 0⟩ none false), .delete, false,
        .registerCount register? (some (saturate count))⟩ (some (saturate count)) =
      .ok (line, min (Number.wrapAdd line (saturate count - 1)) session.text.lastLine) := by
    have lines := @linesOf_number session.clearStatus line fits isLine
    unfold countedLines
    dsimp only
    rw [lines]
    rfl
  obtain ⟨executed, ran, text, registers, caret⟩ :=
    @runLine_agrees session.clearStatus _ _ _ _ _ _ _ _ _ _ _ .delete handlers parsed counted
      resting.alone resting.mode rfl ends nesting
  refine ⟨typed, answers, executed, fed, ?_, ?_⟩
  · unfold execute
    rw [ran]
    rfl
  · unfold Session.text
    rw [typedEditor]
    exact ⟨text.symm, (caret rfl).symm, registers.symm⟩

/-- The operator on a selection of whole lines, and the line of the prompt that names its marks, leave
the same text and registers, and where they delete, the same caret. -/
theorem selection_agrees {anchor : Nat} (selecting : session.SelectsLines anchor)
    (handlers : session.handlers = fun id => some (.ofId id))
    (fits : session.text.length ≤ Int64.maxValue.toInt)
    (onLines : LineOperator operator name id) (nesting : Nat) :
    ∃ operated answers prompted answersToo,
      session.feedAll (nesting + 1) [.ofChar name] = some (operated, answers) ∧
      session.feedAll (nesting + 1) [.ofChar ':', .ofChar name, .enter] =
        some (prompted, answersToo) ∧
      operated.text = prompted.text ∧ operated.editor.registers = prompted.editor.registers ∧
      (operator = .delete → operated.editor.window.caret = prompted.editor.window.caret) := by
  obtain ⟨ended, pressed, ends⟩ := selecting.selects.press_lines onLines
  obtain ⟨operated, answers, fed, -, operatedEditor, -⟩ :=
    (Editor.Types.cons pressed nofun (.nil _)) (nesting + 1) session selecting.toUnmapped rfl
  obtain ⟨opened, colon, remembers, prompt⟩ := selecting.selects.press_prompt selecting.rests
  obtain ⟨named, letter, remembers, prompt⟩ :=
    remembers.quiet.press_char selecting.rests prompt name
  obtain ⟨left, enter, remembers⟩ := remembers.quiet.press_enter selecting.rests prompt
  obtain ⟨typed, typedAnswers, typedFed, typedUnmapped, typedEditor, typedHandlers⟩ :=
    (Editor.Types.cons colon nofun (.cons letter nofun (.nil _))) (nesting + 1) session
      selecting.toUnmapped rfl
  rw [← typedEditor] at enter
  obtain ⟨before, beforeEditor, beforeHandlers, entered⟩ :=
    feed_execute (nesting + 1) typedUnmapped enter
  have remembers : before.editor.Remembers .normal session.editor.toWorkspace
      ⟨anchor, session.editor.window.caret, .line⟩ :=
    beforeEditor ▸ remembers.quiet
  have text : before.text = session.text := remembers.alike.text
  have inside : session.editor.window.caret ≤ session.text.length :=
    selecting.rests ▸ Document.clampCaret_le _ _ _
  have lines := linesOf_selection (text ▸ fits) remembers.selection (text ▸ ⟨selecting.inside, inside⟩)
  rw [text] at lines
  have counted : before.countedLines
      ⟨some (.lines ⟨.mark '<', 0⟩ (some ⟨.mark '>', 0⟩) false), id, false,
        .registerCount none none⟩ none =
      .ok (session.text.lineOf (min anchor session.editor.window.caret),
        session.text.lineOf (max anchor session.editor.window.caret)) := by
    unfold countedLines
    dsimp only
    rw [lines]
    rfl
  obtain ⟨prompted, ran, sameText, registers, caret⟩ := runLine_agrees onLines
    (beforeHandlers.trans (typedHandlers.trans handlers)) (Command.parse_selection onLines) counted
    remembers.alone remembers.mode remembers.alike ends nesting
  have keys : session.feedAll (nesting + 1) ([.ofChar ':', .ofChar name] ++ [.enter]) =
      some ({ prompted with typeahead := [] }, typedAnswers ++ [.consumed]) := by
    rw [feedAll_append, typedFed, Option.bind_some, feedAll_cons, entered prompted ran]
    rfl
  refine ⟨operated, answers, _, _, fed, keys, ?_⟩
  unfold Session.text
  rw [operatedEditor]
  exact ⟨sameText.symm, registers.symm, fun delete => (caret delete).symm⟩

/-- Lines are deleted alike by the operator and by the line of the prompt that counts them from the
caret, and a selection of lines is deleted and copied alike by the operator and by the line of the prompt
that names its marks. Addresses are signed numbers of 64 bits, into which the lines of any text in memory
fit. -/
theorem delete_paths_agree (handlers : session.handlers = fun id => some (.ofId id))
    (fits : session.text.length ≤ Int64.maxValue.toInt) (nesting : Nat) :
    (session.Resting → ∀ (count : Nat) (register? : Option Char), 0 < count →
      (count = 1 ∨ session.text.lineOf session.editor.window.caret ≠ session.text.lastLine) →
      (∀ name ∈ register?, name.isAlpha = true ∨ name = '_') →
      let line := session.text.lineOf session.editor.window.caret
      ∃ typed answers executed,
        session.feedAll nesting (Key.typing (deleteKeys register? count)) = some (typed, answers) ∧
        session.execute (nesting + 1) (deleteLine line register? count) = some (executed, .ok none) ∧
        typed.text = executed.text ∧
        typed.editor.window.caret = executed.editor.window.caret ∧
        typed.editor.registers = executed.editor.registers) ∧
    ∀ anchor, session.SelectsLines anchor →
      (∃ operated answers prompted answersToo,
        session.feedAll (nesting + 1) [.ofChar 'd'] = some (operated, answers) ∧
        session.feedAll (nesting + 1) [.ofChar ':', .ofChar 'd', .enter] =
          some (prompted, answersToo) ∧
        operated.text = prompted.text ∧
        operated.editor.window.caret = prompted.editor.window.caret ∧
        operated.editor.registers = prompted.editor.registers) ∧
      ∃ operated answers prompted answersToo,
        session.feedAll (nesting + 1) [.ofChar 'y'] = some (operated, answers) ∧
        session.feedAll (nesting + 1) [.ofChar ':', .ofChar 'y', .enter] =
          some (prompted, answersToo) ∧
        operated.text = prompted.text ∧ operated.editor.registers = prompted.editor.registers := by
  refine ⟨fun resting count register? positive enough names =>
    delete_counted resting handlers fits positive enough names nesting, ?_⟩
  intro anchor selecting
  obtain ⟨operated, answers, prompted, answersToo, fed, fedToo, text, registers, caret⟩ :=
    selection_agrees selecting handlers fits .delete nesting
  obtain ⟨copied, copyAnswers, promptedToo, others, copyFed, otherFed, sameText, sameRegisters, -⟩ :=
    selection_agrees selecting handlers fits .yank nesting
  exact ⟨⟨operated, answers, prompted, answersToo, fed, fedToo, text, caret rfl, registers⟩,
    copied, copyAnswers, promptedToo, others, copyFed, otherFed, sameText, sameRegisters⟩

/-- Two lines from the second on into a register, and a selection of the same lines that goes
upwards. -/
theorem delete_paths_agree_upwards :
    let text := ['a', '\n', 'b', '\n', 'c', '\n', 'd']
    let resting := ofWindow { text, carets := .single (.ofOffset 2) }
    let selecting := (ofWindow { text, carets := .single { offset := 2, anchor? := some 4 } }).update
      fun editor => { editor with mode := .visual .line .normal }
    (∃ typed answers executed,
      resting.feedAll 1 (Key.typing ['"', 'a', '2', 'd', 'd']) = some (typed, answers) ∧
      resting.execute 2 "2delete a 2".toList = some (executed, .ok none) ∧
      typed.text = ['a', '\n', 'd'] ∧ executed.text = ['a', '\n', 'd'] ∧
      typed.editor.registers = executed.editor.registers) ∧
    ∃ operated answers prompted answersToo,
      selecting.feedAll 2 [.ofChar 'd'] = some (operated, answers) ∧
      selecting.feedAll 2 [.ofChar ':', .ofChar 'd', .enter] = some (prompted, answersToo) ∧
      operated.text = ['a', '\n', 'd'] ∧ prompted.text = ['a', '\n', 'd'] ∧
      operated.editor.registers = prompted.editor.registers := by
  intro text resting selecting
  have rests : resting.Resting := ⟨⟨rfl, rfl⟩, rfl, rfl, rfl, by decide⟩
  have selects : selecting.SelectsLines 4 :=
    ⟨⟨rfl, rfl⟩, ⟨rfl, rfl, rfl, rfl, rfl, rfl⟩, by decide, by decide⟩
  have typedText : (resting.feedAll 1 (Key.typing ['"', 'a', '2', 'd', 'd'])).all (fun answer =>
      answer.1.text = ['a', '\n', 'd']) = true := by
    decide +kernel
  have operatedText : (selecting.feedAll 2 [.ofChar 'd']).all (fun answer =>
      answer.1.text = ['a', '\n', 'd']) = true := by
    decide +kernel
  obtain ⟨typed, answers, executed, fed, ran, same, -, registers⟩ :=
    (@delete_paths_agree resting rfl (by decide) 1).1 rests 2 (some 'a') (by decide)
      (Or.inr (by decide)) (by rintro _ ⟨⟩; exact Or.inl rfl)
  obtain ⟨⟨operated, others, prompted, more, deleted, entered, sameText, -, sameRegisters⟩, -⟩ :=
    (@delete_paths_agree selecting rfl (by decide) 1).2 4 selects
  have fed : resting.feedAll 1 (Key.typing ['"', 'a', '2', 'd', 'd']) = some (typed, answers) := fed
  have line : deleteLine (resting.text.lineOf resting.editor.window.caret) (some 'a') 2 =
      "2delete a 2".toList := by
    decide +kernel
  rw [line] at ran
  rw [fed] at typedText
  rw [deleted] at operatedText
  have left : typed.text = ['a', '\n', 'd'] := of_decide_eq_true typedText
  have leftToo : operated.text = ['a', '\n', 'd'] := of_decide_eq_true operatedText
  exact ⟨⟨typed, answers, executed, fed, ran, left, same.symm.trans left, registers⟩,
    operated, others, prompted, more, deleted, entered, leftToo, sameText.symm.trans leftToo,
    sameRegisters⟩

end Session

end ModalEdit

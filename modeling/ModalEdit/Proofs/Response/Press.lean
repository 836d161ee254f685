import ModalEdit.Proofs.Response.Visual

/-!
What a key answers in any mode. Three things can be told of a key beforehand: whether it turns to
another mode before it can be refused, whether it stores a count first, and whether it parts with the
carets of a block.
-/

set_option autoImplicit false

namespace ModalEdit

namespace Editor

/-- Whether the lines of the primary selection are to be joined. -/
def joinsSelection (editor : Editor) (kind : SelectionKind) (key : Key) : Bool :=
  key.printable? = some 'J' && (editor.spanOf? editor.carets.primary kind false).isSome

/-- Whether a key begins or ends a selection, or uses up an operator, before it turns out that it
cannot be used. -/
def turnsFirst (editor : Editor) (key : Key) : Bool :=
  let has (token : String) : Bool := editor.options.hasToken "keymodel" token
  match editor.mode, editor.pending.awaited with
  | .operatorPending .., _ => true
  | .normal, .command | .insert, .command | .replace, .command =>
    key.isShiftedNamed && has "startsel"
  | .visual kind _, .command =>
    key.isCursorKey && !key.isShiftedNamed && (has "stopvisual" || has "stopsel") ||
      editor.joinsSelection kind key || key.printable? = some 'p' || key.printable? = some 'P'
  | .visual kind _, .afterG => editor.joinsSelection kind key
  | .select .., _ =>
    key.isCursorKey && !key.isShiftedNamed && (has "stopselect" || has "stopsel")
  | _, _ => false

/-- Whether a key stores its count as an option before it scrolls by half a page. -/
def storesScroll (editor : Editor) (key : Key) : Bool :=
  match editor.mode, editor.pending.awaited with
  | .normal, .command | .visual .., .command =>
    (key.isCtrl 'd' || key.isCtrl 'u') && editor.pending.effectiveCount?.isSome
  | _, _ => false

/-- Whether several carets of a block are being typed at. -/
def typesAtBlock (editor : Editor) : Bool :=
  editor.mode.isTyping && editor.typing.block && editor.carets.size != 1

/-- Whether a key moves the carets of a block away from what is typed at them. -/
def partsBlock (editor : Editor) (key : Key) : Bool :=
  editor.typesAtBlock && editor.pending.awaited = .command && key.moves

variable {turns stores parts : Prop} {before after : Editor} (editor : Editor)

theorem Gathered.alone_of_typesAtBlock {editor : Editor} (gathered : editor.Gathered)
    (apart : editor.typesAtBlock = false) : editor.carets.size = 1 := by
  rcases gathered with alone | ⟨typing, block⟩
  · exact alone
  · unfold typesAtBlock at apart
    rw [typing, block] at apart
    exact bne_eq_false_iff_eq.mp apart

/-- At the prompt nothing of a command has been typed, and nothing is left. -/
theorem responds_afterPrompt (result : Prompt × PromptEvent) (clear : editor.pending = {})
    (notTyping : editor.mode.isTyping = false) :
    Responds turns stores parts {} editor (editor.afterPrompt result) := by
  have prompt : editor.ClearAtPrompt := clearAtPrompt_of_pending clear
  unfold afterPrompt
  dsimp only
  split
  · exact .done ⟨clear, prompt⟩ id
  · exact ⟨nofun, fun _ _ => ⟨clear, clearAtPrompt_of_mode nofun⟩, nofun,
      fun _ gathered => Or.inl (gathered.alone notTyping)⟩
  · exact .done ⟨clear, clearAtPrompt_of_mode nofun⟩
      fun gathered => Or.inl (gathered.alone notTyping)
  · exact .unused ⟨rfl, rfl, rfl, rfl, rfl, rfl⟩

theorem responds_pressPrompt (key : Key) (prompt : editor.mode = .commandLine)
    (orderly : editor.Orderly) :
    Responds turns stores parts {} editor (editor.pressPrompt key) := by
  have notTyping : editor.mode.isTyping = false := prompt ▸ rfl
  have takes : editor.stopWaiting.mode.takesText = true := prompt ▸ rfl
  have clear : editor.stopWaiting.pending = {} := orderly.prompt prompt
  suffices responds : Responds turns stores parts {} editor.stopWaiting (editor.pressPrompt key)
    from responds.of_resembles ⟨rfl, rfl, rfl, rfl, rfl, rfl⟩ id
  unfold pressPrompt
  dsimp only
  split
  · exact clear ▸ editor.stopWaiting.responds_specialKey _ key takes orderly.prompt
  · exact IfAny.getD (editor.stopWaiting.responds_specialStart key takes orderly.prompt)
      (editor.stopWaiting.responds_afterPrompt _ clear notTyping)

/-- Select mode takes single keys only. -/
theorem awaits_select {editor : Editor} {kind : SelectionKind} {target : ReturnMode}
    (orderly : editor.Orderly) (select : editor.mode = .select kind target) :
    editor.pending.awaited = .command := by
  have awaits := orderly.awaits
  rw [select] at awaits
  cases awaited : editor.pending.awaited with
  | command => rfl
  | _ =>
    rw [awaited] at awaits
    cases awaits

/-- What is answered to a key in any mode. -/
theorem responds_pressInMode (key : Key) (orderly : editor.Orderly) :
    Responds (editor.turnsFirst key = true) (editor.storesScroll key = true)
      (editor.partsBlock key = true) (editor.commandLeft key) editor (editor.pressInMode key) := by
  have awaits := orderly.awaits
  have typing (typing : editor.mode.isTyping = true) :
      Responds (editor.turnsFirst key = true) (editor.storesScroll key = true)
        (editor.partsBlock key = true) (editor.commandLeft key) editor
        (editor.pressTyping key) := by
    refine editor.responds_pressTyping key typing ?_ ?_
    · intro still awaited shifted
      unfold turnsFirst at still
      rcases Mode.insert_or_replace typing with mode | mode <;> rw [mode, awaited] at still <;>
        simpa only [shifted, Bool.true_and, Bool.not_eq_true] using still
    · intro stays awaited moves gathered
      refine gathered.alone_of_typesAtBlock ?_
      unfold partsBlock at stays
      simpa only [awaited, moves, decide_true, Bool.and_true, Bool.not_eq_true] using stays
  unfold pressInMode
  split
  · rename_i normal
    refine editor.responds_pressNormal key normal awaits ?_ ?_
    · intro unstored awaited half
      unfold storesScroll at unstored
      rw [normal, awaited] at unstored
      simpa only [half, Bool.true_and, Option.not_isSome_iff_eq_none] using unstored
    · intro still awaited shifted
      unfold turnsFirst at still
      rw [normal, awaited] at still
      simpa only [shifted, Bool.true_and, Bool.not_eq_true] using still
  · rename_i operator target pending
    have left : editor.commandLeft key = {} := by
      unfold commandLeft keepsCommand
      rw [pending]
      rfl
    have turned : editor.turnsFirst key = true := by
      unfold turnsFirst
      rw [pending]
    exact left ▸ editor.responds_pressOperator operator target key pending turned
  · rename_i insert
    exact typing (insert ▸ rfl)
  · rename_i replace
    exact typing (replace ▸ rfl)
  · rename_i kind target visual
    refine editor.responds_pressVisual kind target key visual awaits ?_ ?_ ?_ ?_
    · intro unstored awaited half
      unfold storesScroll at unstored
      rw [visual, awaited] at unstored
      simpa only [half, Bool.true_and, Option.not_isSome_iff_eq_none] using unstored
    · intro still awaited cursor
      unfold turnsFirst at still
      rw [visual, awaited] at still
      simp only [Bool.or_eq_true, not_or, cursor, Bool.true_and, Bool.not_eq_true] at still
      exact Bool.or_eq_false_iff.mpr still.1.1.1
    · intro still awaited joins
      have notJoins : editor.joinsSelection kind key = false := by
        unfold turnsFirst at still
        rcases awaited with awaited | awaited
        · rw [visual, awaited] at still
          simp only [Bool.or_eq_true, not_or, Bool.not_eq_true] at still
          exact still.1.1.2
        · rw [visual, awaited] at still
          simpa only [Bool.not_eq_true] using still
      unfold joinsSelection at notJoins
      simpa only [joins, decide_true, Bool.true_and, Option.isSome_eq_false_iff,
        Option.isNone_iff_eq_none] using notJoins
    · intro still awaited
      unfold turnsFirst at still
      rw [visual, awaited] at still
      simp only [Bool.or_eq_true, not_or, decide_eq_true_eq] at still
      exact ⟨still.1.2, still.2⟩
  · rename_i kind target select
    refine editor.responds_pressSelect kind target key select (awaits_select orderly select) ?_
    intro still cursor
    unfold turnsFirst at still
    rw [select] at still
    simpa only [cursor, Bool.true_and, Bool.not_eq_true] using still
  · rename_i prompt
    have left : editor.commandLeft key = {} := by
      unfold commandLeft keepsCommand
      rw [prompt]
      rfl
    exact left ▸ editor.responds_pressPrompt key prompt orderly

/-- What the command being typed waits for goes with any mode, if none is typed. -/
theorem orderly_of_pending {editor : Editor} (clear : editor.pending = {}) : editor.Orderly := by
  constructor
  · rw [clear]
    rfl
  · exact clearAtPrompt_of_pending (congrArg (fun pending : Pending => { pending with
      awaited := .command }) clear)

theorem awaited_commandLeft (key : Key) : (editor.commandLeft key).awaited = .command := by
  unfold commandLeft
  split <;> rfl

theorem Completes.orderly {key : Key} (completes : Completes (editor.commandLeft key) after) :
    after.Orderly := by
  obtain ⟨left, prompt⟩ := completes
  have awaits : after.pending.awaited = .command :=
    (congrArg Pending.awaited left).trans (editor.awaited_commandLeft key)
  constructor
  · rw [awaits]
    rfl
  · intro isPrompt
    rw [pending_stopWaiting awaits]
    exact prompt isPrompt

theorem pending_dropCommand : editor.dropCommand.pending = {} := by
  unfold dropCommand
  dsimp only
  split <;> rfl

/-- Dropping the command changes nothing else, unless an operator waits. -/
theorem resembles_dropCommand
    (notPending : ∀ operator target, editor.mode ≠ .operatorPending operator target) :
    editor.Resembles editor.dropCommand := by
  unfold dropCommand
  dsimp only
  split
  · rename_i operator target pending
    exact absurd pending (notPending operator target)
  · exact ⟨rfl, rfl, rfl, rfl, rfl, rfl⟩

theorem gathered_dropCommand {editor : Editor} (gathered : editor.Gathered) :
    editor.dropCommand.Gathered := by
  unfold dropCommand
  dsimp only
  split
  · rename_i pending
    exact Or.inl (gathered.alone (pending ▸ rfl))
  · exact gathered.resized rfl rfl rfl

section InMode

variable {editor : Editor} (key : Key)

theorem pressInMode_normal (normal : editor.mode = .normal) :
    editor.pressInMode key = editor.pressNormal key := by
  unfold pressInMode
  rw [normal]

theorem pressInMode_operator {operator : Operator} {target : ReturnMode}
    (pending : editor.mode = .operatorPending operator target) :
    editor.pressInMode key = editor.pressOperator operator key := by
  unfold pressInMode
  rw [pending]

theorem pressInMode_typing (typing : editor.mode.isTyping = true) :
    editor.pressInMode key = editor.pressTyping key := by
  unfold pressInMode
  rcases Mode.insert_or_replace typing with mode | mode <;> rw [mode]

theorem pressInMode_visual {kind : SelectionKind} {target : ReturnMode}
    (visual : editor.mode = .visual kind target) :
    editor.pressInMode key = editor.pressVisual kind target key := by
  unfold pressInMode
  rw [visual]

theorem pressInMode_select {kind : SelectionKind} {target : ReturnMode}
    (select : editor.mode = .select kind target) :
    editor.pressInMode key = editor.pressSelect kind target key := by
  unfold pressInMode
  rw [select]

theorem pressInMode_prompt (prompt : editor.mode = .commandLine) :
    editor.pressInMode key = editor.pressPrompt key := by
  unfold pressInMode
  rw [prompt]

end InMode

section Answered

variable {editor after : Editor} {key : Key}

theorem press_of_pending (pressed : editor.pressInMode key = (after, .pending)) :
    editor.press key = (after, .pending) := by
  unfold press
  rw [pressed]

theorem press_of_done (pressed : editor.pressInMode key = after.done) :
    editor.press key = after.settle.done := by
  unfold press
  rw [pressed]
  rfl

theorem press_of_reject (pressed : editor.pressInMode key = after.reject) :
    editor.press key = after.dropCommand.settle.reject := by
  unfold press
  rw [pressed]
  rfl

end Answered

/-- A key is waited for, or cannot be used and drops the command, or completes one. -/
theorem press_cases (key : Key) :
    (editor.pressInMode key).2 = .pending ∧ editor.press key = editor.pressInMode key ∨
      (editor.pressInMode key).2 = .rejected ∧
        editor.press key = ((editor.pressInMode key).1.dropCommand.settle, .rejected) ∨
      (editor.pressInMode key).2 ≠ .rejected ∧ (editor.pressInMode key).2 ≠ .pending ∧
        editor.press key = ((editor.pressInMode key).1.settle, (editor.pressInMode key).2) := by
  unfold press
  generalize editor.pressInMode key = outcome
  obtain ⟨pressed, step⟩ := outcome
  cases step with
  | pending => exact Or.inl ⟨rfl, rfl⟩
  | rejected => exact Or.inr (Or.inl ⟨rfl, rfl⟩)
  | done | execute => exact Or.inr (Or.inr ⟨nofun, nofun, rfl⟩)

theorem step_press (key : Key) : (editor.press key).2 = (editor.pressInMode key).2 := by
  rcases editor.press_cases key with ⟨_, press⟩ | ⟨refused, press⟩ | ⟨_, _, press⟩
  · rw [press]
  · rw [press, refused]
  · rw [press]

/-- Settling and dropping the command leave the mode, unless an operator waits. -/
theorem mode_press (key : Key) (notPending : ∀ operator target,
      (editor.pressInMode key).1.mode ≠ .operatorPending operator target) :
    (editor.press key).1.mode = (editor.pressInMode key).1.mode := by
  rcases editor.press_cases key with ⟨_, press⟩ | ⟨_, press⟩ | ⟨_, _, press⟩
  · rw [press]
  · rw [press]
    exact (resembles_dropCommand _ notPending).mode
  · rw [press]
    rfl

/-- What is left of the command after a key. A key that cannot be used leaves nothing. -/
theorem pending_press (key : Key) (orderly : editor.Orderly)
    (answered : (editor.press key).2 ≠ .pending) :
    (editor.press key).1.pending =
      if (editor.press key).2 = .rejected then {} else editor.commandLeft key := by
  have responds := editor.responds_pressInMode key orderly
  rcases editor.press_cases key with ⟨waits, press⟩ | ⟨_, press⟩ | ⟨used, ended, press⟩
  · rw [press] at answered
    exact absurd waits answered
  · rw [press, if_pos rfl]
    exact pending_dropCommand _
  · rw [press, if_neg used]
    exact (responds.completes used ended).pending

theorem orderly_press (key : Key) (orderly : editor.Orderly) : (editor.press key).1.Orderly := by
  have responds := editor.responds_pressInMode key orderly
  rcases editor.press_cases key with ⟨waits, press⟩ | ⟨_, press⟩ | ⟨used, ended, press⟩
  · rw [press]
    exact (responds.waits waits).orderly
  · rw [press]
    exact orderly_of_pending (pending_dropCommand _)
  · rw [press]
    have completed := (responds.completes used ended).orderly
    exact ⟨completed.awaits, completed.prompt⟩

theorem unburdened_of_pending {editor : Editor} (clear : editor.pending = {}) :
    editor.Unburdened :=
  Or.inr (congrArg (fun pending : Pending => { pending with awaited := .command }) clear)

/-- Whether a key completes a command and leaves a count or a register that was typed for it. -/
def leavesCommand (editor : Editor) (key : Key) : Bool :=
  editor.mode.takesMotions && editor.keepsCommand key && editor.stopWaiting.pending != {}

/-- What is left of a command, if anything, was left already or is left by a key that does so. -/
theorem commandLeft_of_unburdened {key : Key} (unburdened : editor.Unburdened)
    (takes : editor.leavesCommand key = false) : editor.commandLeft key = {} := by
  unfold commandLeft
  split
  · rename_i keeps
    rcases unburdened with motions | clear
    · unfold leavesCommand at takes
      rw [motions, keeps] at takes
      exact bne_eq_false_iff_eq.mp takes
    · exact clear
  · rfl

theorem unburdened_press {key : Key} (orderly : editor.Orderly)
    (takes : editor.leavesCommand key = false) (unburdened : editor.Unburdened) :
    (editor.press key).1.Unburdened := by
  have responds := editor.responds_pressInMode key orderly
  rcases editor.press_cases key with ⟨waits, press⟩ | ⟨_, press⟩ | ⟨used, ended, press⟩
  · rw [press]
    exact (responds.waits waits).unburdened unburdened
  · rw [press]
    exact unburdened_of_pending (pending_dropCommand _)
  · rw [press]
    have left := (responds.completes used ended).pending
    exact unburdened_of_pending (left.trans (editor.commandLeft_of_unburdened unburdened takes))

theorem gathered_press (key : Key) (orderly : editor.Orderly)
    (stays : editor.partsBlock key = false) (gathered : editor.Gathered) :
    (editor.press key).1.Gathered := by
  have pressed : (editor.pressInMode key).1.Gathered :=
    (editor.responds_pressInMode key orderly).gathers (Bool.eq_false_iff.mp stays) gathered
  rcases editor.press_cases key with ⟨_, press⟩ | ⟨_, press⟩ | ⟨_, _, press⟩
  · rw [press]
    exact pressed
  · rw [press]
    exact (gathered_dropCommand pressed).settle
  · rw [press]
    exact pressed.settle

end Editor

end ModalEdit

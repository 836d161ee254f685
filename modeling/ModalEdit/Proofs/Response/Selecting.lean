import ModalEdit.Proofs.Response.Moving

/-!
What the ways into a selection and out of it answer. A key that turns to a selection before it is found
to be of no use there stays in it.
-/

set_option autoImplicit false

namespace ModalEdit

theorem ReturnMode.mode_ne_commandLine (target : ReturnMode) : target.mode ≠ .commandLine := by
  cases target <;> nofun

namespace Editor

variable {turns stores parts : Prop} {before after : Editor} (editor : Editor)

theorem size_clampCarets {editor : Editor} (alone : editor.carets.size = 1) :
    editor.clampCarets.carets.size = 1 :=
  CaretSet.size_merge ((CaretSet.size_map _ _).trans alone)

/-- Settling never brings carets together that were not one before, and never adds any. -/
theorem Gathered.settle {editor : Editor} (gathered : editor.Gathered) : editor.settle.Gathered := by
  rcases gathered with alone | typing
  · left
    rw [editor.standsAs_settle.carets]
    exact size_clampCarets alone
  · exact Or.inr typing

theorem spares_enterAgain (mode : Mode) :
    editor.Spares (editor.enterAgain mode).toWorkspace := by
  unfold enterAgain
  split
  · exact editor.spares_begin
  · exact ⟨rfl, rfl, rfl⟩

theorem pending_enterAgain (mode : Mode) : (editor.enterAgain mode).pending = editor.pending := by
  unfold enterAgain
  split <;> rfl

/-- Ending a selection changes nothing of the workspace but the carets and the history. -/
theorem spares_endSelection (target : ReturnMode) :
    ∃ space, editor.clearAnchors.Spares space ∧ (editor.endSelection target).toWorkspace =
      (clampCarets { editor with toWorkspace := space, mode := target.mode }).toWorkspace := by
  have same := editor.matches_remembered
  unfold endSelection
  dsimp only
  generalize (editor.mode.selectionKind?.map editor.rememberSelection).getD editor = remembered
    at same ⊢
  refine ⟨((remembered.update (·.clearAnchors)).enterAgain target.mode).toWorkspace, ?_, ?_⟩
  · have again := (remembered.update (·.clearAnchors)).spares_enterAgain target.mode
    rw [show (remembered.update (·.clearAnchors)).toWorkspace = editor.clearAnchors from
      congrArg Workspace.clearAnchors same.space] at again
    exact again
  · unfold clampCarets update
    rw [mode_enterAgain]

theorem refuses_endSelection (target : ReturnMode) (turned : turns) :
    Refuses turns stores editor (editor.endSelection target) := by
  obtain ⟨space, spares, ended⟩ := editor.spares_endSelection target
  have cleared : space.text = editor.clearAnchors.text := congrArg Window.text spares.window
  refine .ofTurned turned ?_ ?_ ?_
  · exact (congrArg Workspace.text ended).trans cleared
  · exact (congrArg Workspace.registers ended).trans spares.registers
  · exact (congrArg Workspace.options ended).trans spares.options

theorem size_endSelection {editor : Editor} (target : ReturnMode) (alone : editor.carets.size = 1) :
    (editor.endSelection target).carets.size = 1 := by
  obtain ⟨space, spares, ended⟩ := editor.spares_endSelection target
  rw [congrArg Workspace.carets ended]
  refine size_clampCarets ?_
  have cleared : space.carets = editor.clearAnchors.carets := congrArg Window.carets spares.window
  exact (congrArg CaretSet.size cleared).trans ((CaretSet.size_map _ _).trans alone)

theorem pending_endSelection (target : ReturnMode) :
    (editor.endSelection target).pending = editor.pending :=
  (pending_enterAgain _ _).trans editor.matches_remembered.pending

theorem completes_endSelection (target : ReturnMode) :
    Completes editor.pending (editor.endSelection target) := by
  refine ⟨editor.pending_endSelection target, clearAtPrompt_of_mode ?_⟩
  rw [editor.mode_endSelection]
  exact target.mode_ne_commandLine

theorem responds_endSelection (target : ReturnMode)
    (notTyping : editor.mode.isTyping = false) :
    Responds turns stores parts editor.pending editor (editor.endSelection target).done :=
  .done (editor.completes_endSelection target)
    fun gathered => Or.inl (size_endSelection target (gathered.alone notTyping))

/-- A selection begun at every caret. -/
theorem responds_enterVisual (kind : SelectionKind) (target : ReturnMode)
    (notTyping : editor.mode.isTyping = false) :
    Responds turns stores parts editor.pending editor (editor.enterVisual kind target).done :=
  .done ⟨rfl, clearAtPrompt_of_mode nofun⟩
    fun gathered => Or.inl ((CaretSet.size_map _ _).trans (gathered.alone notTyping))

theorem responds_enterSelect (kind : SelectionKind) (target : ReturnMode) (withCharacter : Bool)
    (notTyping : editor.mode.isTyping = false) :
    Responds turns stores parts editor.pending editor
      (editor.enterSelect kind target withCharacter).done :=
  .done ⟨rfl, clearAtPrompt_of_mode nofun⟩
    fun gathered => Or.inl ((CaretSet.size_map _ _).trans (gathered.alone notTyping))

theorem responds_selectAgain : Responds turns stores parts {} editor editor.selectAgain := by
  unfold selectAgain
  dsimp only
  split
  · exact .unused ⟨rfl, rfl, rfl, rfl, rfl, rfl⟩
  · exact .done ⟨rfl, clearAtPrompt_of_mode nofun⟩ fun _ => Or.inl rfl

/-- Every caret goes to the other end of the last character selected. The command stays as it was. -/
theorem responds_visualToSelect (kind : SelectionKind) (target : ReturnMode)
    (notTyping : editor.mode.isTyping = false) :
    Responds turns stores parts editor.pending editor (editor.visualToSelect kind target) := by
  unfold visualToSelect
  dsimp only
  split
  · exact .done ⟨rfl, clearAtPrompt_of_mode nofun⟩
      fun gathered => Or.inl (gathered.alone notTyping)
  · exact .done ⟨rfl, clearAtPrompt_of_mode nofun⟩
      fun gathered => Or.inl ((CaretSet.size_map _ _).trans (gathered.alone notTyping))

theorem responds_selectToVisual (kind : SelectionKind) (target : ReturnMode)
    (notTyping : editor.mode.isTyping = false) :
    Responds turns stores parts editor.pending editor (editor.selectToVisual kind target) := by
  unfold selectToVisual
  dsimp only
  split
  · exact .done ⟨rfl, clearAtPrompt_of_mode nofun⟩
      fun gathered => Or.inl (gathered.alone notTyping)
  · exact .done ⟨rfl, clearAtPrompt_of_mode nofun⟩
      fun gathered => Or.inl ((CaretSet.size_map _ _).trans (gathered.alone notTyping))

theorem responds_switchSelection (wanted kind : SelectionKind) (target : ReturnMode)
    (notTyping : editor.mode.isTyping = false) :
    Responds turns stores parts {} editor (editor.switchSelection wanted kind target) := by
  unfold switchSelection
  dsimp only
  split
  · exact .ofTaken (editor.clearPending.responds_endSelection target notTyping)
  · exact .done ⟨rfl, clearAtPrompt_of_mode nofun⟩
      fun gathered => Or.inl (gathered.alone notTyping)

theorem step_extendBy (key : Key) : (editor.extendBy key).2 ≠ .pending := by
  unfold extendBy
  split
  · exact step_doneIf _ _
  · exact step_doneIf _ _
  · cases key.motion? with
    | none => nofun
    | some motion => exact editor.step_moveBy motion

theorem responds_extendBy (key : Key) :
    Responds turns stores parts {} editor (editor.extendBy key) := by
  unfold extendBy
  split
  · exact editor.responds_scrollByPages false
  · exact editor.responds_scrollByPages true
  · exact IfAny.elim (.unused (.refl editor)) fun motion _ => editor.responds_moveBy motion

theorem responds_moveShifted (key : Key) :
    Responds turns stores parts {} editor (editor.moveShifted key) := by
  unfold moveShifted
  split
  · exact editor.responds_moveBy _
  · exact editor.responds_moveBy _
  · exact editor.responds_scrollByPages false
  · exact editor.responds_scrollByPages false
  · exact editor.responds_scrollByPages true
  · exact editor.responds_scrollByPages true
  · exact IfAny.elim (.unused (.refl editor)) fun motion _ => editor.responds_moveBy motion

/-- A named key with shift begins a selection first where the options say so. -/
theorem responds_shiftedKey (key : Key) (target : ReturnMode)
    (unturned : ¬turns → editor.options.hasToken "keymodel" "startsel" = false)
    (alone : editor.Gathered → editor.carets.size = 1) :
    Responds turns stores parts {} editor (editor.shiftedKey key target) := by
  unfold shiftedKey
  split
  · rename_i starts
    have turned : turns := by
      by_contra still
      rw [unturned still] at starts
      cases starts
    refine (responds_extendBy _ _).of_refuses ?_ (fun _ gathered => Or.inl ?_)
      fun pending => absurd pending (step_extendBy _ _)
    · refine .ofTurned turned ?_ ?_ ?_ <;> split <;> rfl
    · split
      · exact (CaretSet.size_map _ _).trans (alone gathered)
      · exact (CaretSet.size_map _ _).trans (alone gathered)
  · exact editor.responds_moveShifted key

end Editor

/-! ### While text is typed

What keys answer while text is typed. Most of them leave the command as it is, and all of them but the
cursor keys go on typing at the carets of a block.
-/

namespace Editor

variable {turns stores parts : Prop} {before after : Editor} (editor : Editor)

theorem responds_typeText (chars : List Char) (prompt : editor.ClearAtPrompt) :
    Responds turns stores parts editor.pending editor (editor.typeText chars) := by
  unfold typeText
  split
  · exact .done ⟨rfl, prompt⟩ fun gathered => gathered.resized rfl rfl rfl
  · have edits := edits_insertText chars editor
    exact .done (edits.completes prompt) edits.gathered

theorem Attempts.responds {editor : Editor} {outcome : Outcome} (attempts : editor.Attempts outcome)
    (prompt : editor.ClearAtPrompt) :
    Responds turns stores parts editor.pending editor outcome := by
  obtain ⟨edited, any, edits, idle, rfl⟩ := attempts
  refine .doneIf (fun none => .ofSpares ?_ fun _ => edits.mode) (fun _ => edits.completes prompt)
    edits.gathered
  rw [idle none]
  exact editor.spares_begin

theorem responds_shiftCaretLines (right : Bool) (prompt : editor.ClearAtPrompt) :
    Responds turns stores parts editor.pending editor (editor.shiftCaretLines right) := by
  have edits (lines : List Nat) : (editor.update (·.begin)).Edits
      ((editor.update (·.begin)).update fun space =>
        lines.foldl (fun space line => space.shiftLines line line right 1) space) :=
    ⟨Workspace.edited_foldl (fun space => space)
      (fun space line => space.edited_shiftLines line line right 1) _ _, rfl, rfl, rfl, rfl⟩
  exact .done ((edits _).completes prompt) (edits _).gathered

theorem responds_toggleReplace :
    Responds turns stores parts editor.pending editor editor.toggleReplace := by
  have toggled : editor.toggleReplace.1.mode.isTyping = true := by
    unfold toggleReplace
    dsimp only
    split <;> rfl
  refine .done ⟨rfl, clearAtPrompt_of_mode ?_⟩ ?_
  · split <;> nofun
  · rintro (alone | ⟨_, block⟩)
    · exact Or.inl alone
    · exact Or.inr ⟨toggled, block⟩

theorem responds_specialKey (awaited : Awaited) (key : Key)
    (takes : editor.mode.takesText = true) (prompt : editor.ClearAtPrompt) :
    Responds turns stores parts editor.pending editor (editor.specialKey awaited key) := by
  have stopped : editor.stopWaiting.ClearAtPrompt := by
    intro isPrompt
    unfold stopWaiting
    rw [prompt isPrompt]
  unfold specialKey
  split
  · exact .done ⟨rfl, prompt⟩ id
  · split
    · exact .await takes stopped
    · split
      · exact editor.responds_typeText _ prompt
      · exact editor.responds_typeText _ prompt
    · split
      · exact editor.responds_typeText _ prompt
      · exact .unused (.refl editor)
    · exact IfAny.elim (.unused (.refl editor)) fun c _ => editor.responds_typeText [c] prompt
    · exact .unused (.refl editor)

theorem responds_specialStart {left : Pending} (key : Key)
    (takes : editor.mode.takesText = true) (prompt : editor.stopWaiting.ClearAtPrompt) :
    IfAny (Responds turns stores parts left editor) (editor.specialStart? key) := by
  unfold specialStart?
  split
  · exact .ofSome (.await takes prompt)
  · split
    · exact .ofSome (.await takes prompt)
    · split
      · exact .ofSome (.await takes prompt)
      · exact .ofNone

theorem responds_typingControl (key : Key) (prompt : editor.ClearAtPrompt) :
    IfAny (Responds turns stores parts editor.pending editor) (editor.typingControl? key) := by
  unfold typingControl?
  split
  · exact .ofSome ((editor.attempts_deleteBack true).responds prompt)
  · split
    · exact .ofSome ((editor.attempts_deleteBack false).responds prompt)
    · split
      · exact .ofSome (editor.attempts_backspace.responds prompt)
      · split
        · exact .ofSome (editor.responds_typeText _ prompt)
        · split
          · exact .ofSome (editor.responds_shiftCaretLines _ prompt)
          · exact .ofNone

theorem responds_typedKey (key : Key) (prompt : editor.ClearAtPrompt) :
    Responds turns stores parts editor.pending editor (editor.typedKey key) := by
  unfold typedKey
  split
  · exact editor.responds_typeText _ prompt
  · exact editor.responds_typeText _ prompt
  · exact editor.attempts_backspace.responds prompt
  · exact editor.attempts_deleteUnder.responds prompt
  · exact editor.responds_toggleReplace
  · exact IfAny.elim (.unused (.refl editor)) fun c _ => editor.responds_typeText [c] prompt

/-- When typing ends, so do the carets of a block, and the command stays as it was. -/
theorem finishTyping_spec (editor : Editor) :
    editor.finishTyping.pending = editor.pending ∧ editor.finishTyping.mode = .normal ∧
      (editor.Gathered → editor.finishTyping.carets.size = 1) := by
  have typed (text : List Char) := edits_insertText text { editor with typing := {} }
  unfold finishTyping
  dsimp only
  generalize againEq : (if 1 < editor.typing.times ∧ editor.typing.typed ≠ [] then _ else _) = again
  have kept : again.pending = editor.pending ∧ again.carets.size = editor.carets.size := by
    rw [← againEq]
    split
    · exact ⟨(typed _).pending, (typed _).size⟩
    · exact ⟨rfl, rfl⟩
  obtain ⟨pending, size⟩ := kept
  split
  · exact ⟨pending, rfl, fun _ => CaretSet.size_map _ _⟩
  · rename_i single
    refine ⟨pending, rfl, fun gathered => (CaretSet.size_map _ _).trans (size.trans ?_)⟩
    exact gathered.resolve_right fun block => single block.2

theorem responds_finishTyping :
    Responds turns stores parts editor.pending editor editor.finishTyping.done := by
  obtain ⟨pending, normal, alone⟩ := editor.finishTyping_spec
  refine .done ⟨pending, clearAtPrompt_of_mode ?_⟩ fun gathered => Or.inl (alone gathered)
  rw [normal]
  nofun

/-- A cursor key ends what has been typed so far. With shift it may go on to a selection. -/
theorem pressTyping_of_moves {editor : Editor} {key : Key} (moves : key.moves = true)
    (awaits : editor.pending.awaited = .command) :
    editor.pressTyping key =
      if key.isShiftedNamed then
        (editor.stopWaiting.breakTyping.update (·.commit)).shiftedKey key
          editor.stopWaiting.mode.returnTo
      else editor.stopWaiting.breakTyping.extendBy key := by
  have noControl := Key.isCtrl_of_moves moves
  have notEscape := Key.ne_escape_of_moves moves
  unfold pressTyping specialStart? typingControl?
  simp only [awaits, noControl, notEscape, ne_eq, not_true_eq_false, ↓reduceIte,
    Bool.false_eq_true, or_self, Bool.or_self, Option.orElse_eq_orElse, Option.orElse_none,
    Option.getD_none]
  split
  · rfl
  · rename_i unshifted
    unfold Key.moves at moves
    rw [Bool.eq_false_iff.mpr unshifted, Bool.false_or] at moves
    rw [if_pos moves]

/-- What has been typed ends without anything to be seen of it, other than the carets of a block
being forgotten. -/
theorem spares_breakTyping : editor.Spares editor.breakTyping.toWorkspace :=
  editor.spares_commit.trans (Workspace.spares_begin _)

theorem commandLeft_typing {editor : Editor} (key : Key) (typing : editor.mode.isTyping = true) :
    editor.commandLeft key =
      if editor.pending.awaited = .command ∧ key.moves = true then {}
      else editor.stopWaiting.pending := by
  have keeps : editor.keepsCommand key = !(editor.pending.awaited = .command && key.moves) := by
    unfold keepsCommand
    rcases Mode.insert_or_replace typing with mode | mode <;> rw [mode]
  unfold commandLeft
  rw [keeps]
  by_cases awaits : editor.pending.awaited = .command
  · rw [decide_eq_true awaits]
    cases key.moves with
    | true => exact (if_pos ⟨awaits, rfl⟩).symm
    | false => exact (if_neg fun both => nomatch both.2).symm
  · rw [decide_eq_false awaits]
    exact (if_neg fun both => awaits both.1).symm

theorem responds_pressTyping (key : Key) (typing : editor.mode.isTyping = true)
    (unturned : ¬turns → editor.pending.awaited = .command → key.isShiftedNamed = true →
      editor.options.hasToken "keymodel" "startsel" = false)
    (together : ¬parts → editor.pending.awaited = .command → key.moves = true →
      editor.Gathered → editor.carets.size = 1) :
    Responds turns stores parts (editor.commandLeft key) editor (editor.pressTyping key) := by
  have takes := Mode.takesText_of_isTyping typing
  suffices responds : Responds turns stores parts (editor.commandLeft key) editor.stopWaiting
      (editor.pressTyping key) from responds.of_resembles ⟨rfl, rfl, rfl, rfl, rfl, rfl⟩ id
  have clear : editor.stopWaiting.ClearAtPrompt :=
    clearAtPrompt_of_mode (Mode.ne_commandLine_of_isTyping typing)
  rw [commandLeft_typing key typing]
  -- The keys that move the carets are the only ones that take the command.
  by_cases moves : editor.pending.awaited = .command ∧ key.moves = true
  · obtain ⟨awaits, moves⟩ := moves
    rw [if_pos ⟨awaits, moves⟩, pressTyping_of_moves moves awaits]
    have alone (stays : ¬parts) (gathered : editor.Gathered) :
        editor.stopWaiting.breakTyping.carets.size = 1 := by
      have carets := congrArg Window.carets editor.stopWaiting.spares_breakTyping.window
      exact (congrArg CaretSet.size carets).trans (together stays awaits moves gathered)
    have broken := editor.stopWaiting.spares_breakTyping
    split
    · rename_i shifted
      have committed := broken.trans (Workspace.spares_commit _)
      have first : Refuses turns stores editor.stopWaiting
          (editor.stopWaiting.breakTyping.update (·.commit)) := .ofSpares committed fun _ => rfl
      refine .of_refuses (responds_shiftedKey _ key _ (fun still => ?_) ?_) first
        (fun stays gathered => Or.inl (alone stays gathered)) fun _ => id
      · have options : (editor.stopWaiting.breakTyping.update (·.commit)).options =
            editor.options := committed.options
        rw [options]
        exact unturned still awaits shifted
      · exact fun gathered => gathered.resolve_right fun block => nomatch block.2
    · exact (responds_extendBy _ key).of_refuses (.ofSpares broken fun _ => rfl)
        (fun stays gathered => Or.inl (alone stays gathered)) fun _ => id
  · rw [if_neg moves]
    unfold pressTyping
    dsimp only
    split
    · exact editor.stopWaiting.responds_specialKey _ key takes clear
    · split
      · exact editor.stopWaiting.responds_finishTyping
      · refine IfAny.getD (.orElse (editor.stopWaiting.responds_specialStart key takes clear)
          (editor.stopWaiting.responds_typingControl key clear)) ?_
        rename_i commanded _
        have awaits : editor.pending.awaited = .command := of_not_not commanded
        have stays : ¬key.moves = true := fun still => moves ⟨awaits, still⟩
        unfold Key.moves at stays
        rw [Bool.or_eq_true, not_or] at stays
        rw [if_neg stays.1, if_neg stays.2]
        exact editor.stopWaiting.responds_typedKey key clear

end Editor

end ModalEdit

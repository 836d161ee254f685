import ModalEdit.Proofs.Response.Selecting

/-!
What keys answer in normal mode and behind an operator.
-/

set_option autoImplicit false

namespace ModalEdit

theorem Key.selectsBehindG_of_printable? {key : Key} {c : Char} (typed : key.printable? = some c) :
    key.selectsBehindG = (c == 'h' || c == 'H') := by
  have notCtrl : key.isCtrl 'h' = false := Editor.isCtrl_of_types (Or.inl (typed ▸ rfl)) 'h'
  unfold Key.selectsBehindG
  rw [notCtrl, typed]
  simp only [Option.some.injEq, Bool.false_or, beq_eq_decide]

namespace Editor

variable {turns stores parts : Prop} {before after : Editor} (editor : Editor)

theorem isTyping_of_normal {editor : Editor} (normal : editor.mode = .normal) :
    editor.mode.isTyping = false :=
  normal ▸ rfl

theorem responds_startInsert (place : InsertPlace) (times : Nat) (normal : editor.mode = .normal) :
    Responds turns stores parts editor.pending editor (editor.startInsert place times) := by
  refine .done ⟨rfl, clearAtPrompt_of_mode nofun⟩ fun gathered => Or.inl ?_
  exact (Workspace.size_begin _).trans
    ((CaretSet.size_map _ _).trans (gathered.alone (isTyping_of_normal normal)))

theorem responds_openLine (below : Bool) (times : Nat) (normal : editor.mode = .normal) :
    Responds turns stores parts editor.pending editor (editor.openLine below times) := by
  obtain ⟨opened, edits, outcome⟩ := editor.openLine_cases below times
  rw [outcome]
  refine .done ⟨edits.pending, clearAtPrompt_of_mode nofun⟩ fun gathered => Or.inl ?_
  exact edits.size.trans (gathered.alone (isTyping_of_normal normal))

theorem Transacts.responds {editor : Editor} {outcome : Outcome}
    (transacts : editor.Transacts outcome) (prompt : editor.ClearAtPrompt) :
    Responds turns stores parts editor.pending editor outcome := by
  obtain ⟨space, any, edited, idle, rfl⟩ := transacts
  refine .doneIf (fun none => .ofSpares (Workspace.spares_transaction (idle none)) fun _ => rfl)
    (fun _ => ⟨rfl, prompt⟩) fun gathered => gathered.resized ?_ rfl rfl
  exact edited.size.trans editor.size_begin

/-- Undo leaves the mode and the command as they are, and the primary caret alone unless there is
nothing to take back. -/
theorem undo_keeps (count : Nat) (redo : Bool) :
    let undone := (editor.undo count redo).1
    undone.mode = editor.mode ∧ undone.pending = editor.pending ∧ undone.typing = editor.typing := by
  unfold undo
  dsimp only
  split <;> exact ⟨rfl, rfl, rfl⟩

theorem gathered_undo {editor : Editor} (count : Nat) (redo : Bool) (gathered : editor.Gathered) :
    (editor.undo count redo).1.Gathered := by
  have carets := (runHistory_spec redo (max count 1) none editor.inTransaction_commit).2.2
  unfold undo
  dsimp only
  generalize runHistory redo (max count 1) none editor.commit = undone at carets ⊢
  split
  · exact gathered.resized (congrArg CaretSet.size carets) rfl rfl
  · rename_i place _
    exact Or.inl (undone.1.carets.retainPrimary.size_modifyPrimary (·.moveTo place))

/-- Where there is nothing to undo or redo, nothing is different but the report. -/
theorem responds_undo (count : Nat) (redo : Bool) (prompt : editor.ClearAtPrompt) :
    Responds turns stores parts editor.pending editor (editor.undo count redo) := by
  have idle := @runHistory_idle redo (max count 1) none editor.commit
  have gathers : editor.Gathered → (editor.undo count redo).1.Gathered := gathered_undo count redo
  unfold undo at gathers ⊢
  dsimp only at gathers ⊢
  generalize runHistory redo (max count 1) none editor.commit = undone at idle gathers ⊢
  split
  · rename_i none
    rw [none] at gathers
    have spares := editor.spares_commit.trans (idle none).2
    exact .reject (.ofSpares spares fun _ => rfl) gathers
  · rename_i place some
    rw [some] at gathers
    exact .done ⟨rfl, prompt⟩ gathers

/-- The prompt opens once nothing of a command is left. -/
theorem responds_openPrompt (input : List Char) (clear : editor.pending = {})
    (notTyping : editor.mode.isTyping = false) :
    Responds turns stores parts editor.pending editor (editor.openPrompt input).done :=
  .done ⟨rfl, clearAtPrompt_of_pending clear⟩ fun gathered => Or.inl (gathered.alone notTyping)

theorem responds_startOperator {left : Pending} (operator : Operator)
    (awaits : editor.pending.awaited = .command) (notTyping : editor.mode.isTyping = false) :
    Responds turns stores parts left editor (editor.startOperator operator) := by
  refine ⟨nofun, fun _ absurd => (absurd rfl).elim,
    fun _ => ⟨⟨?_, clearAtPrompt_of_mode nofun⟩, fun _ => Or.inl rfl⟩,
    fun _ gathered => Or.inl (gathered.alone notTyping)⟩
  rw [show (editor.startOperator operator).1.pending.awaited = .command from awaits]
  rfl

theorem responds_commandOfChar (c : Char) (count? : Option Nat) (register? : Option Char)
    (normal : editor.mode = .normal) (clear : editor.pending = {}) :
    Responds turns stores parts editor.pending editor
      (editor.commandOfChar c count? register?) := by
  have notTyping := isTyping_of_normal normal
  have prompt := editor.clearAtPrompt_of_pending clear
  have operate (operator : Operator) (motion : Motion) (count : Nat) :
      Responds turns stores parts editor.pending editor
        (editor.operate operator (.motion motion) (some count) register?) :=
    editor.responds_operate operator _ _ _ notTyping fun _ => normal
  have operateLines (operator : Operator) (count : Nat) :
      Responds turns stores parts editor.pending editor
        (editor.operateLines operator count register?) :=
    editor.responds_operateLines operator _ _ notTyping fun _ => normal
  unfold commandOfChar
  dsimp only
  split
  · exact editor.responds_openPrompt _ clear notTyping
  · exact editor.responds_startInsert _ _ normal
  · exact editor.responds_startInsert _ _ normal
  · exact editor.responds_startInsert _ _ normal
  · exact editor.responds_startInsert _ _ normal
  · exact editor.responds_openLine _ _ normal
  · exact editor.responds_openLine _ _ normal
  · exact .done ⟨rfl, clearAtPrompt_of_mode nofun⟩
      fun gathered => Or.inl (editor.size_begin.trans (gathered.alone notTyping))
  · exact operate _ _ _
  · exact operate _ _ _
  · exact operate _ _ _
  · exact operate _ _ _
  · split
    · exact editor.responds_startInsert _ _ normal
    · exact operate _ _ _
  · exact operateLines _ _
  · exact operateLines _ _
  · exact (editor.transacts_putRegister _ _ _).responds prompt
  · exact (editor.transacts_putRegister _ _ _).responds prompt
  · exact (editor.transacts_editCarets fun _ _ _ _ => Workspace.lands_toggleCase).responds prompt
  · exact (editor.transacts_joinAtCarets _ _).responds prompt
  · exact editor.responds_undo _ _ prompt
  · exact editor.responds_enterVisual _ _ notTyping
  · exact editor.responds_enterVisual _ _ notTyping
  · exact .unused (.refl editor)

theorem responds_normalCommand (key : Key) (normal : editor.mode = .normal) :
    Responds turns stores parts {} editor (editor.normalCommand key) := by
  have prompt : editor.clearPending.ClearAtPrompt := clearAtPrompt_of_pending rfl
  refine .ofTaken ?_
  unfold normalCommand takePending
  dsimp only
  split
  · exact editor.clearPending.responds_undo _ _ prompt
  · split
    · exact editor.clearPending.responds_enterVisual _ _ (isTyping_of_normal normal)
    · split
      · exact editor.clearPending.responds_operate _ _ _ _ (isTyping_of_normal normal)
          fun _ => normal
      · split
        · exact editor.clearPending.responds_startInsert _ _ normal
        · exact IfAny.elim (.unused (.refl _)) fun c _ =>
            editor.clearPending.responds_commandOfChar c _ _ normal rfl

/-- The keys behind `g` that begin a selection for typed text leave the command as it is, and all
others take it. -/
theorem responds_normalAfterG {left : Pending} (key : Key) (normal : editor.mode = .normal)
    (awaits : editor.pending.awaited = .command)
    (leaves : key.selectsBehindG = true → left = editor.pending)
    (takes : key.selectsBehindG = false → left = {}) :
    Responds turns stores parts left editor (editor.normalAfterG key) := by
  have notTyping := isTyping_of_normal normal
  have select (kind : SelectionKind) (selects : key.selectsBehindG = true) :
      Responds turns stores parts left editor (editor.enterSelect kind .normal true).done :=
    leaves selects ▸ editor.responds_enterSelect kind .normal true notTyping
  unfold normalAfterG takePending
  dsimp only
  split
  · rename_i ctrl
    refine select .block ?_
    unfold Key.selectsBehindG
    rw [ctrl]
    rfl
  · split
    all_goals rename_i typed
    all_goals first | have selects := Key.selectsBehindG_of_printable? typed | skip
    · rw [takes selects]
      exact editor.responds_moveBy _
    · exact editor.responds_startOperator _ awaits notTyping
    · exact editor.responds_startOperator _ awaits notTyping
    · exact editor.responds_startOperator _ awaits notTyping
    · exact select .character selects
    · exact select .line selects
    · rw [takes selects]
      exact editor.responds_selectAgain
    · rw [takes selects]
      exact .ofTaken ((editor.clearPending.transacts_joinAtCarets _ _).responds
        (clearAtPrompt_of_pending rfl))
    · rw [takes selects]
      exact .ofTaken (editor.clearPending.responds_startInsert _ _ normal)
    · exact .unused (.refl editor)

theorem responds_replacementKey (key : Key) :
    Responds turns stores parts {} editor (editor.replacementKey key) := by
  have prompt : editor.clearPending.ClearAtPrompt := clearAtPrompt_of_pending rfl
  unfold replacementKey takePending
  split
  · exact .done ⟨rfl, prompt⟩ id
  · split
    · exact .unused (.refl editor)
    · exact .ofTaken ((editor.clearPending.transacts_editCarets
        fun _ _ _ inside => Workspace.lands_replaceChars inside).responds prompt)

theorem responds_markToSetKey (key : Key) :
    Responds turns stores parts {} editor (editor.markToSetKey key) := by
  unfold markToSetKey
  dsimp only
  split
  · exact .unused ⟨rfl, rfl, rfl, rfl, rfl, rfl⟩
  · split
    · exact .done ⟨rfl, clearAtPrompt_of_pending rfl⟩ id
    · exact .unused ⟨rfl, rfl, rfl, rfl, rfl, rfl⟩

theorem responds_commandStart {left : Pending} (key : Key)
    (takes : editor.mode.takesCommands = true) :
    IfAny (Responds turns stores parts left editor) (editor.commandStart? key) := by
  have prompt : editor.stopWaiting.ClearAtPrompt := by
    refine clearAtPrompt_of_mode fun isPrompt => ?_
    rw [show editor.mode = .commandLine from isPrompt] at takes
    cases takes
  unfold commandStart?
  split
  · exact .ofSome (.await takes prompt)
  · exact .ofSome (.await takes prompt)
  · exact .ofSome (.await takes prompt)
  · exact .ofNone

theorem responds_normalKey (key : Key) (normal : editor.mode = .normal)
    (awaits : editor.pending.awaited = .command)
    (uncounted : ¬stores → (key.isCtrl 'd' || key.isCtrl 'u') = true →
      editor.pending.effectiveCount? = none)
    (unturned : ¬turns → key.isShiftedNamed = true →
      editor.options.hasToken "keymodel" "startsel" = false) :
    Responds turns stores parts {} editor (editor.normalKey key) := by
  have notTyping := isTyping_of_normal normal
  have notPrompt : editor.mode ≠ .commandLine := normal ▸ nofun
  have takesCommands : editor.mode.takesCommands = true := normal ▸ rfl
  have takesMotions : editor.mode.takesMotions = true := normal ▸ rfl
  have marks : IfAny (Responds turns stores parts {} editor)
      (if key.printable? = some 'm' then some (editor.await .markToSet) else none) := by
    split
    · refine .ofSome (.await ?_ (clearAtPrompt_of_mode notPrompt))
      rw [normal]
      rfl
    · exact .ofNone
  unfold normalKey
  split
  · refine .doneIf (fun _ => ⟨rfl, rfl, fun _ => rfl, fun _ => rfl, fun _ => rfl⟩)
      (fun _ => ⟨rfl, clearAtPrompt_of_pending rfl⟩) id
  · refine IfAny.getD ?_ ?_
    · refine .orElse (editor.responds_countKey key awaits takesMotions) (.orElse ?_ (.orElse ?_
        (.orElse (editor.responds_commandStart key takesCommands) (.orElse marks
          (editor.responds_scrollKey key uncounted)))))
      · exact editor.responds_motionStart key none takesMotions fun _ => rfl
      · exact .map fun operator _ => editor.responds_startOperator operator awaits notTyping
    · split
      · rename_i shifted
        exact editor.responds_shiftedKey key _ (fun still => unturned still shifted)
          fun gathered => gathered.alone notTyping
      · exact IfAny.getD (.map fun motion _ => editor.responds_moveBy motion)
          (editor.responds_normalCommand key normal)

/-- A cursor key without shift needs no other key. -/
theorem step_normalKey_cursor {key : Key} (cursor : key.isCursorKey = true)
    (unshifted : key.isShiftedNamed = false) : (editor.normalKey key).2 ≠ .pending := by
  have moves := Key.moves_of_isCursorKey cursor
  have noDelete : (key.code == .delete) = false := by
    unfold Key.isCursorKey at cursor
    cases code : key.code <;> first | rfl | (rw [code] at cursor; cases cursor)
  have noInsert : (key.code == .insert) = false := by
    unfold Key.isCursorKey at cursor
    cases code : key.code <;> first | rfl | (rw [code] at cursor; cases cursor)
  have command : (editor.normalCommand key).2 ≠ .pending := by
    unfold normalCommand takePending
    simp only [Key.isCtrl_of_moves moves, Key.printable?_of_moves moves, noDelete, noInsert,
      Bool.false_eq_true, ↓reduceIte, Bool.and_false, Option.elim_none]
    nofun
  unfold normalKey countKey? motionStart? commandStart? Key.operator?
  simp only [Key.ne_escape_of_moves moves, Key.printable?_of_moves moves, unshifted,
    Bool.false_eq_true, ↓reduceIte, Option.orElse_eq_orElse, Option.orElse_none, Option.map_none,
    reduceCtorEq]
  refine IfAny.getD (editor.step_scrollKey key) ?_
  cases key.motion? with
  | none => exact command
  | some motion => exact editor.step_moveBy motion

theorem commandLeft_normal {editor : Editor} (key : Key) (normal : editor.mode = .normal) :
    editor.commandLeft key =
      if editor.pending.awaited = .afterG ∧ key.selectsBehindG = true then
        editor.stopWaiting.pending
      else {} := by
  unfold commandLeft keepsCommand
  rw [normal]
  simp only [Bool.and_eq_true, decide_eq_true_eq]

theorem responds_pressNormal (key : Key) (normal : editor.mode = .normal)
    (awaits : editor.mode.awaits editor.pending.awaited = true)
    (uncounted : ¬stores → editor.pending.awaited = .command →
      (key.isCtrl 'd' || key.isCtrl 'u') = true → editor.pending.effectiveCount? = none)
    (unturned : ¬turns → editor.pending.awaited = .command → key.isShiftedNamed = true →
      editor.options.hasToken "keymodel" "startsel" = false) :
    Responds turns stores parts (editor.commandLeft key) editor (editor.pressNormal key) := by
  have notTyping := isTyping_of_normal normal
  have takes : editor.stopWaiting.mode.takesMotions = true := normal ▸ rfl
  suffices responds : Responds turns stores parts (editor.commandLeft key) editor.stopWaiting
      (editor.pressNormal key) from responds.of_resembles
      ⟨rfl, rfl, rfl, rfl, rfl, rfl⟩ id
  unfold pressNormal
  dsimp only
  rw [commandLeft_normal key normal]
  rw [normal] at awaits
  cases awaited : editor.pending.awaited with
  | afterG =>
    refine editor.stopWaiting.responds_normalAfterG key normal rfl ?_ ?_
    · intro selects
      rw [if_pos ⟨rfl, selects⟩]
    · intro others
      rw [others, if_neg fun both => nomatch both.2]
  | afterZ => exact editor.stopWaiting.responds_scrollAfterZ key
  | registerName => exact editor.stopWaiting.responds_registerKey key rfl takes
  | findTarget forward till =>
    exact editor.stopWaiting.responds_findKey key _ _ none notTyping fun _ => rfl
  | replacement => exact editor.stopWaiting.responds_replacementKey key
  | markToSet => exact editor.stopWaiting.responds_markToSetKey key
  | markToReach linewise =>
    exact editor.stopWaiting.responds_markKey key _ none notTyping fun _ => rfl
  | command =>
    exact editor.stopWaiting.responds_normalKey key normal rfl
      (fun unstored => uncounted unstored awaited) fun still => unturned still awaited
  | digraphFirst | digraphSecond | registerToType | literal =>
    rw [awaited] at awaits
    cases awaits

theorem responds_operatorAfterG (operator : Operator) (key : Key) (turned : turns)
    (notTyping : editor.mode.isTyping = false) :
    Responds turns stores parts {} editor (editor.operatorAfterG operator key) := by
  unfold operatorAfterG takePending
  dsimp only
  split
  · exact editor.responds_go _ _ notTyping fun still => absurd turned still
  · apply iteInduction (motive := Responds turns stores parts {} editor)
    · exact fun _ => .ofTaken (editor.clearPending.responds_operateLines _ _ _ notTyping
        fun still => absurd turned still)
    · exact fun _ => .unused (.refl editor)
  · exact .unused (.refl editor)

theorem responds_operatorKey (operator : Operator) (key : Key) (turned : turns)
    (takes : editor.mode.takesMotions = true) (notTyping : editor.mode.isTyping = false)
    (awaits : editor.pending.awaited = .command) :
    Responds turns stores parts {} editor (editor.operatorKey operator key) := by
  have alone : ¬turns → some operator = none := fun still => absurd turned still
  unfold operatorKey takePending
  split
  · exact .done ⟨rfl, clearAtPrompt_of_pending rfl⟩
      fun gathered => Or.inl (gathered.alone notTyping)
  · refine IfAny.getD (editor.responds_countKey key awaits takes) ?_
    dsimp only
    split
    · exact .ofTaken (editor.clearPending.responds_operateLines _ _ _ notTyping
        fun still => absurd turned still)
    · exact IfAny.getD (editor.responds_motionStart key _ takes alone)
        (IfAny.elim (.unused (.refl editor)) fun motion _ => editor.responds_go _ _ notTyping alone)

/-- A key behind an operator leaves nothing of the command, and the operator goes with it. -/
theorem responds_pressOperator (operator : Operator) (target : ReturnMode) (key : Key)
    (pending : editor.mode = .operatorPending operator target) (turned : turns) :
    Responds turns stores parts {} editor (editor.pressOperator operator key) := by
  have notTyping : editor.mode.isTyping = false := pending ▸ rfl
  have alone : ¬turns → some operator = none := fun still => absurd turned still
  suffices responds : Responds turns stores parts {} editor.stopWaiting
      (editor.pressOperator operator key) from responds.of_resembles
      ⟨rfl, rfl, rfl, rfl, rfl, rfl⟩ id
  unfold pressOperator
  dsimp only
  split
  · exact editor.stopWaiting.responds_operatorAfterG operator key turned notTyping
  · exact editor.stopWaiting.responds_findKey key _ _ _ notTyping alone
  · exact editor.stopWaiting.responds_markKey key _ _ notTyping alone
  · exact editor.stopWaiting.responds_operatorKey operator key turned (pending ▸ rfl) notTyping rfl

end Editor

end ModalEdit

import ModalEdit.Editor.Normal
import ModalEdit.Proofs.Editor.Typing

/-!
Every key keeps the editor sound in normal mode and behind an operator.
-/

set_option autoImplicit false

namespace ModalEdit

namespace Editor

variable {start : Journal} {editor before after : Editor}

theorem Sound.closed_normal (sound : editor.Sound start) (normal : editor.mode = .normal) :
    editor.history.inTransaction = false :=
  sound.closed (normal ▸ rfl)

theorem Sound.uncounted_normal (sound : editor.Sound start) (normal : editor.mode = .normal) :
    editor.pending.operatorCount? = none := by
  apply sound.uncounted
  intro operator target mode
  rw [normal] at mode
  cases mode

theorem Sound.ready_normal (sound : editor.Sound start) (normal : editor.mode = .normal) :
    editor.Ready start :=
  sound.ready (normal ▸ rfl) (sound.uncounted_normal normal)

theorem Ready.moved {f : Caret → Caret} (ready : editor.Ready start)
    (keeps : ∀ caret, (f caret).anchor? = caret.anchor?) :
    (editor.update (·.mapCarets f)).Ready start := by
  refine ⟨ready.recorded.leadsTo (.refl _) rfl, ?_, ready.uncounted⟩
  intro caret member
  obtain ⟨old, stood, rfl⟩ := CaretSet.mem_map.mp member
  rw [keeps]
  exact ready.selects old stood

theorem keeps_startInsert (place : InsertPlace) (times : Nat) (ready : editor.Ready start) :
    Keeps start before (editor.startInsert place times) := by
  have moved := ready.moved (f := fun caret : Caret =>
    caret.moveTo (place.resolve editor.text caret.offset)) fun _ => rfl
  exact .done (moved.begin.startTyping _ rfl times false)

/-- Lines are opened in the transaction that text is typed in then. -/
theorem openLine_cases (editor : Editor) (below : Bool) (times : Nat) :
    ∃ opened, (editor.update (·.begin)).Edits opened ∧
      editor.openLine below times = (opened.startTyping .insert times true).done := by
  refine ⟨_, .ofSpace ?_, rfl⟩
  refine Workspace.edited_foldl (fun space => space) ?_ _ _
  intro space index
  dsimp only
  split
  · have inside := space.text.lineEnd_le (space.text.lineOf (space.carets.offsetAt index))
    refine .moveCaret index (space.edited_replace _ ['\n'] fun _ => inside) fun _ => ?_
    exact space.text.start_add_length_le_replace _ _ ['\n'] inside
  · have inside := space.text.lineStart_le (space.text.lineOf (space.carets.offsetAt index))
    refine .moveCaret index (space.edited_replace _ ['\n'] fun _ => inside) fun _ => ?_
    exact Document.le_length_replace _ ['\n'] inside (Nat.le_refl _)

theorem keeps_openLine (below : Bool) (times : Nat) (ready : editor.Ready start)
    (inText : editor.InText) : Keeps start before (editor.openLine below times) := by
  obtain ⟨opened, edits, outcome⟩ := editor.openLine_cases below times
  rw [outcome]
  exact .done ((ready.edits inText edits).startTyping _ rfl times true)

/-- Edits made as one transaction. -/
theorem Sound.transacted {space : Workspace} (sound : editor.Sound start) (inText : editor.InText)
    (edited : editor.begin.Edited space) :
    Sound start { editor with toWorkspace := space.commit } := by
  refine sound.withSpace ?_ ?_ (edited.leadsTo_committed inText)
  · intro selecting selects
    exact edited.selects (Workspace.selects_begin selects)
  · intro opened
    exact nomatch space.inTransaction_commit.symm.trans opened

/-- An edit tried at every caret as a transaction that ends then. Where it can be made at none, nothing
has been edited. -/
def Transacts (editor : Editor) (outcome : Outcome) : Prop :=
  ∃ space any, editor.begin.Edited space ∧ (any = false → space = editor.begin) ∧
    outcome = { editor with toWorkspace := space.commit }.doneIf any

theorem Transacts.keeps {outcome : Outcome} (transacts : editor.Transacts outcome)
    (sound : editor.Sound start) (inText : editor.InText) : Keeps start before outcome := by
  obtain ⟨space, any, edited, _, rfl⟩ := transacts
  exact .doneIf (sound.transacted inText edited) any

theorem transacts_editCarets (editor : Editor)
    {edit : Workspace → Nat → Option (Workspace × Nat)}
    (lands : ∀ space offset landed, (space.InText → offset ≤ space.text.length) →
      edit space offset = some landed → space.Lands landed) :
    editor.Transacts (editor.editCarets edit) :=
  ⟨_, _, Workspace.edited_editAtCarets lands editor.begin, Workspace.editAtCarets_idle, rfl⟩

theorem transacts_putRegister (editor : Editor) (register? : Option Char) (putAfter : Bool)
    (count : Nat) : editor.Transacts (editor.putRegister register? putAfter count) :=
  editor.transacts_editCarets fun _ _ _ inside puts => Workspace.lands_paste inside puts

theorem edited_joinAt (count : Nat) (spaces : Bool) (state : Workspace × Bool × List Nat)
    (index : Nat) : state.1.Edited (joinAt count spaces state index).1 := by
  obtain ⟨space, any, finished⟩ := state
  unfold joinAt
  dsimp only
  split
  · exact .refl
  · split
    · rename_i joined place joins
      exact (Workspace.lands_joinLines joins).moveCaret index
    · exact .refl

theorem joinAt_idle (count : Nat) (spaces : Bool) (state : Workspace × Bool × List Nat)
    (index : Nat) (idle : (joinAt count spaces state index).2.1 = false) :
    state.2.1 = false ∧ (joinAt count spaces state index).1 = state.1 := by
  obtain ⟨space, any, finished⟩ := state
  unfold joinAt at idle ⊢
  dsimp only at idle ⊢
  split at idle
  · rename_i known
    rw [if_pos known]
    exact ⟨idle, rfl⟩
  · rename_i unknown
    rw [if_neg unknown]
    split at idle
    · cases idle
    · exact ⟨idle, rfl⟩

theorem transacts_joinAtCarets (editor : Editor) (count : Nat) (spaces : Bool) :
    editor.Transacts (editor.joinAtCarets count spaces) := by
  refine ⟨_, _, ?_, fun none => ?_, rfl⟩
  · exact Workspace.edited_foldl Prod.fst (edited_joinAt count spaces) _ (editor.begin, false, [])
  · exact (@Workspace.foldl_idle _ _ _ _ (fun state => state.2.1) Prod.fst
      (joinAt_idle count spaces) _ (editor.begin, false, []) none).2

end Editor

namespace History

theorem inTransaction_close (history : History) : history.close.inTransaction = false := by
  unfold close
  cases opened : history.open? with
  | none => simp only [inTransaction, opened, Option.isSome_none]
  | some transaction =>
    dsimp only
    split <;> rfl

theorem inTransaction_undo (history : History) (text : Document) :
    (history.undo text).1.inTransaction = false := by
  have closed := history.inTransaction_close
  unfold undo
  dsimp only
  split <;> exact closed

theorem inTransaction_redo {history : History} (text : Document)
    (closed : history.inTransaction = false) : (history.redo text).1.inTransaction = false := by
  unfold redo
  split <;> exact closed

theorem text_undo_of_none {history : History} {text : Document}
    (none : (history.undo text).2.2 = none) : (history.undo text).2.1 = text := by
  unfold undo at none ⊢
  dsimp only at none ⊢
  split at none
  · rfl
  · cases none

theorem text_redo_of_none {history : History} {text : Document}
    (none : (history.redo text).2.2 = none) : (history.redo text).2.1 = text := by
  unfold redo at none ⊢
  split at none
  · rfl
  · cases none

end History

namespace Editor

variable {start : Journal} {editor before after : Editor}

/-- Undoing and redoing leave the carets where they are and need no open transaction. -/
theorem runHistory_spec (redo : Bool) (count : Nat) (caret? : Option Nat) {space : Workspace}
    (closed : space.history.inTransaction = false) :
    space.journal.LeadsTo (runHistory redo count caret? space).1.journal ∧
      (runHistory redo count caret? space).1.history.inTransaction = false ∧
      (runHistory redo count caret? space).1.carets = space.carets := by
  induction count generalizing caret? space with
  | zero => exact ⟨.refl _, closed, rfl⟩
  | succ count ih =>
    unfold runHistory
    dsimp only
    generalize stepEq : (if redo then space.history.redo space.text else
      space.history.undo space.text) = step
    have stepped : space.journal.LeadsTo ⟨step.1, step.2.1⟩ ∧ step.1.inTransaction = false := by
      rw [← stepEq]
      cases redo with
      | false => exact ⟨.apply .undo trivial, space.history.inTransaction_undo space.text⟩
      | true => exact ⟨.apply .redo closed, History.inTransaction_redo space.text closed⟩
    obtain ⟨leads, stepClosed⟩ := stepped
    split
    · rename_i place found
      obtain ⟨leadsOn, last, carets⟩ := @ih (some place) { space with
        history := step.1, window := { space.window with text := step.2.1 } } stepClosed
      exact ⟨leads.trans leadsOn, last, carets⟩
    · exact ⟨leads, stepClosed, rfl⟩

/-- Where there is nothing to take back or to make again, nothing is different but the history. -/
theorem runHistory_idle (redo : Bool) (count : Nat) (caret? : Option Nat) {space : Workspace}
    (idle : (runHistory redo count caret? space).2 = none) :
    caret? = none ∧ space.Spares (runHistory redo count caret? space).1 := by
  induction count generalizing caret? space with
  | zero => exact ⟨idle, ⟨rfl, rfl, rfl⟩⟩
  | succ count ih =>
    unfold runHistory at idle ⊢
    dsimp only at idle ⊢
    generalize stepEq : (if redo then space.history.redo space.text else
      space.history.undo space.text) = step at idle ⊢
    have still : step.2.2 = none → step.2.1 = space.text := by
      rw [← stepEq]
      cases redo with
      | false => exact History.text_undo_of_none
      | true => exact History.text_redo_of_none
    split at idle
    · cases (ih _ idle).1
    · rename_i none
      refine ⟨idle, ?_, rfl, rfl⟩
      rw [still none]
      rfl

theorem keeps_undo (count : Nat) (redo : Bool) (sound : editor.Sound start) :
    Keeps start before (editor.undo count redo) := by
  have closed := editor.inTransaction_commit
  obtain ⟨leads, undoneClosed, carets⟩ := runHistory_spec redo (max count 1) none closed
  unfold undo
  dsimp only
  generalize runHistory redo (max count 1) none editor.commit = undone
    at leads undoneClosed carets ⊢
  have opened : undone.1.history.inTransaction = true → editor.history.inTransaction = true :=
    fun opened => nomatch undoneClosed.symm.trans opened
  have recorded := editor.leadsTo_commit.trans leads
  have selects : ∀ selecting, editor.Selects selecting → undone.1.Selects selecting := by
    intro selecting selects
    unfold Workspace.Selects
    rw [carets]
    exact selects
  split
  · have changed : Sound start { editor with toWorkspace := undone.1 } :=
      sound.withSpace selects opened recorded
    exact .reject (changed.ofMatches ⟨rfl, rfl, rfl, rfl⟩)
  · refine .done (sound.withSpace ?_ opened recorded)
    intro selecting before caret member
    rw [List.mem_singleton.mp member]
    exact selects selecting before undone.1.carets.primary undone.1.carets.primary_mem

theorem keeps_startOperator (operator : Operator) (sound : editor.Sound start)
    (normal : editor.mode = .normal) : Keeps start editor (editor.startOperator operator) := by
  have ready := sound.ready_normal normal
  have closed := sound.closed_normal normal
  refine ⟨⟨ready.selects, fun opened => (nomatch closed.symm.trans opened),
    fun _ => ⟨operator, .normal, rfl⟩, nofun, sound.recorded.leadsTo (.refl _) rfl⟩, fun _ => ?_⟩
  refine StandsAs.staysPut ⟨rfl, rfl, ?_, nofun⟩
  rw [normal]
  rfl

theorem sound_openPrompt (input : List Char) (ready : editor.Ready start)
    (closed : editor.history.inTransaction = false) : (editor.openPrompt input).Sound start :=
  .plain (ready.recorded.leadsTo (.refl _) rfl) ready.selects rfl
    (fun opened => nomatch closed.symm.trans opened) ready.uncounted

theorem keeps_commandOfChar (c : Char) (count? : Option Nat) (register? : Option Char)
    (sound : editor.Sound start) (inText : editor.InText) (normal : editor.mode = .normal) :
    Keeps start before (editor.commandOfChar c count? register?) := by
  have ready := sound.ready_normal normal
  have closed := sound.closed_normal normal
  have uncounted := sound.uncounted_normal normal
  have operate (operator : Operator) (motion : Motion) (count : Nat) :
      Keeps start before (editor.operate operator (.motion motion) (some count) register?) :=
    keeps_operate operator _ _ _ ready inText
  unfold commandOfChar
  dsimp only
  split
  · exact .done (sound_openPrompt _ ready closed)
  · exact keeps_startInsert _ _ ready
  · exact keeps_startInsert _ _ ready
  · exact keeps_startInsert _ _ ready
  · exact keeps_startInsert _ _ ready
  · exact keeps_openLine _ _ ready inText
  · exact keeps_openLine _ _ ready inText
  · exact .done (ready.begin.startTyping _ rfl _ _)
  · exact operate _ _ _
  · exact operate _ _ _
  · exact operate _ _ _
  · exact operate _ _ _
  · split
    · exact keeps_startInsert _ _ ready
    · exact operate _ _ _
  · exact keeps_operateLines _ _ _ ready closed inText
  · exact keeps_operateLines _ _ _ ready closed inText
  · exact (editor.transacts_putRegister _ _ _).keeps sound inText
  · exact (editor.transacts_putRegister _ _ _).keeps sound inText
  · exact (editor.transacts_editCarets fun _ _ _ _ => Workspace.lands_toggleCase).keeps sound inText
  · exact (editor.transacts_joinAtCarets _ _).keeps sound inText
  · exact keeps_undo _ _ sound
  · exact .done (sound_enterVisual _ _ sound closed uncounted)
  · exact .done (sound_enterVisual _ _ sound closed uncounted)
  · exact .reject sound

theorem keeps_normalCommand (key : Key) (sound : editor.Sound start) (inText : editor.InText)
    (normal : editor.mode = .normal) : Keeps start before (editor.normalCommand key) := by
  have taken := sound.clearPending
  have closed := sound.closed_normal normal
  unfold normalCommand takePending
  dsimp only
  split
  · exact keeps_undo _ _ taken
  · split
    · exact .done (sound_enterVisual _ _ taken closed rfl)
    · split
      · exact keeps_operate _ _ _ _ (taken.ready_normal normal) inText
      · split
        · exact keeps_startInsert _ _ (taken.ready_normal normal)
        · exact IfAny.elim (.reject taken) fun c _ => keeps_commandOfChar c _ _ taken inText normal

theorem keeps_normalAfterG (key : Key) (sound : editor.Sound start) (inText : editor.InText)
    (normal : editor.mode = .normal) (awaits : editor.pending.awaited = .command) :
    Keeps start editor (editor.normalAfterG key) := by
  have taken := sound.clearPending
  have closed := sound.closed_normal normal
  have uncounted := sound.uncounted_normal normal
  unfold normalAfterG takePending
  dsimp only
  split
  · exact .done (sound_enterSelect _ _ _ sound closed uncounted awaits)
  · split
    · exact keeps_moveBy _ sound
    · exact keeps_startOperator _ sound normal
    · exact keeps_startOperator _ sound normal
    · exact keeps_startOperator _ sound normal
    · exact .done (sound_enterSelect _ _ _ sound closed uncounted awaits)
    · exact .done (sound_enterSelect _ _ _ sound closed uncounted awaits)
    · exact keeps_selectAgain sound closed
    · exact (transacts_joinAtCarets _ _ _).keeps taken inText
    · exact keeps_startInsert _ _ (taken.ready_normal normal)
    · exact .reject sound

theorem keeps_replacementKey (key : Key) (sound : editor.Sound start) (inText : editor.InText) :
    Keeps start before (editor.replacementKey key) := by
  unfold replacementKey takePending
  split
  · exact .done sound.clearPending
  · split
    · exact .reject sound
    · exact (transacts_editCarets _ fun _ _ _ inside => Workspace.lands_replaceChars inside).keeps
        sound.clearPending inText

theorem keeps_markToSetKey (key : Key) (sound : editor.Sound start) :
    Keeps start before (editor.markToSetKey key) := by
  have taken := sound.clearPending
  unfold markToSetKey
  dsimp only
  split
  · exact .reject taken
  · split
    · exact .done (taken.ofMatches ⟨rfl, rfl, rfl, rfl⟩)
    · exact .reject taken

theorem keepsIf_commandStart (key : Key) (sound : editor.Sound start)
    (unselecting : editor.mode.isSelect = false) :
    KeepsIf start editor (editor.commandStart? key) := by
  unfold commandStart?
  split
  · exact .ofSome (.await sound unselecting _)
  · exact .ofSome (.await sound unselecting _)
  · exact .ofSome (.await sound unselecting _)
  · exact .ofNone

theorem keeps_normalKey (key : Key) (sound : editor.Sound start) (inText : editor.InText)
    (normal : editor.mode = .normal) (awaits : editor.pending.awaited = .command) :
    Keeps start editor (editor.normalKey key) := by
  have unselecting : editor.mode.isSelect = false := normal ▸ rfl
  have marks : KeepsIf start editor
      (if key.printable? = some 'm' then some (editor.await .markToSet) else none) := by
    split
    · exact .ofSome (.await sound unselecting _)
    · exact .ofNone
  unfold normalKey
  split
  · exact .doneIf sound.clearPending _
  · refine IfAny.getD ?_ ?_
    · refine .orElse (keepsIf_countKey key sound) (.orElse ?_ (.orElse ?_ (.orElse ?_ (.orElse marks
        (keepsIf_scrollKey key sound)))))
      · exact keepsIf_motionStart key none sound inText unselecting fun absurd => nomatch absurd rfl
      · exact .map fun operator _ => keeps_startOperator operator sound normal
      · exact keepsIf_commandStart key sound unselecting
    · split
      · exact keeps_shiftedKey key _ sound (sound.closed_normal normal)
          (sound.uncounted_normal normal) awaits
      · exact IfAny.getD (.map fun motion _ => keeps_moveBy motion sound)
          (keeps_normalCommand key sound inText normal)

theorem keeps_pressNormal (key : Key) (sound : editor.Sound start) (inText : editor.InText)
    (normal : editor.mode = .normal) : Keeps start editor (editor.pressNormal key) := by
  have rest := sound.stopWaiting
  have fits {operator? : Option Operator} :
      operator? ≠ none → editor.stopWaiting.mode.selectionKind? = none := fun _ => normal ▸ rfl
  suffices keeps : Keeps start editor.stopWaiting (editor.pressNormal key) from
    keeps.of_standsAs ⟨rfl, rfl, rfl, id⟩
  unfold pressNormal
  dsimp only
  split
  · exact keeps_normalAfterG key rest inText normal rfl
  · exact keeps_scrollAfterZ key rest
  · exact keeps_registerKey key rest
  · exact keeps_findKey key _ _ none rest inText fits
  · exact keeps_replacementKey key rest inText
  · exact keeps_markToSetKey key rest
  · exact keeps_markKey key _ none rest inText fits
  · exact keeps_normalKey key rest inText normal rfl

theorem keeps_operatorAfterG (operator : Operator) (key : Key) (sound : editor.Sound start)
    (inText : editor.InText) (closed : editor.history.inTransaction = false)
    (unselecting : editor.mode.selectionKind? = none) :
    Keeps start before (editor.operatorAfterG operator key) := by
  unfold operatorAfterG takePending
  dsimp only
  split
  · exact keeps_go _ _ sound inText fun _ => unselecting
  · have ready := sound.clearPending.ready unselecting rfl
    apply iteInduction (motive := Keeps start before)
    · exact fun _ => keeps_operateLines _ _ _ ready closed inText
    · exact fun _ => .reject sound
  · exact .reject sound

theorem keeps_operatorKey (operator : Operator) (key : Key) (sound : editor.Sound start)
    (inText : editor.InText) (closed : editor.history.inTransaction = false)
    (unselecting : editor.mode.selectionKind? = none) (notSelect : editor.mode.isSelect = false) :
    Keeps start editor (editor.operatorKey operator key) := by
  have ready := sound.clearPending.ready unselecting rfl
  unfold operatorKey takePending
  split
  · exact .done (ready.closed closed rfl)
  · refine IfAny.getD (keepsIf_countKey key sound) ?_
    dsimp only
    split
    · exact keeps_operateLines _ _ _ ready closed inText
    · refine IfAny.getD ?_ (IfAny.elim (.reject sound) ?_)
      · exact keepsIf_motionStart key _ sound inText notSelect fun _ => unselecting
      · exact fun motion _ => keeps_go _ _ sound inText fun _ => unselecting

theorem keeps_pressOperator (operator : Operator) (target : ReturnMode) (key : Key)
    (sound : editor.Sound start) (inText : editor.InText)
    (pending : editor.mode = .operatorPending operator target) :
    Keeps start editor (editor.pressOperator operator key) := by
  have rest := sound.stopWaiting
  have closed : editor.history.inTransaction = false := sound.closed (pending ▸ rfl)
  have unselecting : editor.mode.selectionKind? = none := pending ▸ rfl
  have notSelect : editor.mode.isSelect = false := pending ▸ rfl
  suffices keeps : Keeps start editor.stopWaiting (editor.pressOperator operator key) from
    keeps.of_standsAs ⟨rfl, rfl, rfl, id⟩
  unfold pressOperator
  dsimp only
  split
  · exact keeps_operatorAfterG operator key rest inText closed unselecting
  · exact keeps_findKey key _ _ _ rest inText fun _ => unselecting
  · exact keeps_markKey key _ _ rest inText fun _ => unselecting
  · exact keeps_operatorKey operator key rest inText closed unselecting notSelect

end Editor

end ModalEdit

import ModalEdit.Editor.Press
import ModalEdit.Proofs.Edit.Settings
import ModalEdit.Proofs.Editor.Sound
import ModalEdit.Session.Handlers

/-!
No key touches the settings, but for the number of lines to scroll, which is kept in an option.
-/

set_option autoImplicit false

namespace ModalEdit

namespace Editor

variable {editor : Editor}

/-- Whether an outcome has the settings of an editor. -/
def SameSettings (editor : Editor) (outcome : Outcome) : Prop :=
  outcome.1.settings = editor.settings

@[simp] theorem settings_update (f : Workspace → Workspace) :
    (editor.update f).settings = (f editor.toWorkspace).settings := rfl

@[simp] theorem settings_startTyping (mode : Mode) (times : Nat) (newLine : Bool) :
    (editor.startTyping mode times newLine).settings = editor.settings := rfl

@[simp] theorem settings_stopWaiting : editor.stopWaiting.settings = editor.settings := rfl

@[simp] theorem settings_clearPending : editor.clearPending.settings = editor.settings := rfl

@[simp] theorem settings_done : editor.done.1.settings = editor.settings := rfl

@[simp] theorem settings_reject : editor.reject.1.settings = editor.settings := rfl

@[simp] theorem settings_openPrompt (input : List Char) :
    (editor.openPrompt input).settings = editor.settings := rfl

@[simp] theorem settings_doneIf (any : Bool) : (editor.doneIf any).1.settings = editor.settings := rfl

@[simp] theorem settings_countStrays : editor.countStrays.settings = editor.settings := rfl

@[simp] theorem settings_clampCarets : editor.clampCarets.settings = editor.settings := rfl

@[simp] theorem settings_settle : editor.settle.settings = editor.settings := by
  simp [settle, Workspace.settings, clampCarets, update, Workspace.setCarets]

@[simp] theorem settings_enterAgain (mode : Mode) :
    (editor.enterAgain mode).settings = editor.settings := by
  unfold enterAgain
  split <;> simp

@[simp] theorem settings_rememberSelection (kind : SelectionKind) :
    (editor.rememberSelection kind).settings = editor.settings := by
  unfold rememberSelection
  dsimp only
  split <;> rfl

theorem settings_remembered :
    ((editor.mode.selectionKind?.map editor.rememberSelection).getD editor).settings =
      editor.settings := by
  cases editor.mode.selectionKind? with
  | none => rfl
  | some kind => exact settings_rememberSelection kind

@[simp] theorem settings_endSelection (target : ReturnMode) :
    (editor.endSelection target).settings = editor.settings := by
  simp [endSelection, settings_remembered]

@[simp] theorem settings_reset : editor.reset.settings = editor.settings := by
  simp [reset]

@[simp] theorem settings_placeCarets (places : List Nat) :
    (editor.placeCarets places).settings = editor.settings := by
  cases places <;> rfl

section Moving

variable (operator : Operator) (destination : Destination) (count? : Option Nat)
  (register? : Option Char)

@[simp] theorem settings_moveCarets :
    (editor.moveCarets destination count?).1.settings = editor.settings := rfl

@[simp] theorem settings_applyAt (index : Nat) (span : Span) (steps : Nat) :
    (editor.applyAt index operator span register? steps).1.settings = editor.settings := by
  unfold applyAt
  dsimp only
  cases reportOf? .. <;> exact Workspace.settings_applyOperator _ _ _ _

/-- A loop whose state holds an editor keeps the settings when each round does. -/
theorem settings_foldl {State Item : Type} {step : State → Item → State} (holds : State → Editor)
    (each : ∀ state item, (holds (step state item)).settings = (holds state).settings)
    (items : List Item) (state : State) :
    (holds (items.foldl step state)).settings = (holds state).settings :=
  Workspace.settings_foldl (fun state => (holds state).toWorkspace) each items state

@[simp] theorem settings_operate :
    (editor.operate operator destination count? register?).1.settings = editor.settings := by
  unfold operate
  dsimp only
  generalize folds : List.foldl _ _ _ = folded
  have kept : folded.1.settings = editor.settings := by
    rw [← folds]
    refine (settings_foldl Prod.fst ?_ _ _).trans Workspace.settings_begin
    rintro ⟨state, any⟩ index
    dsimp only
    split
    · exact settings_applyAt _ _ _ _ _
    · rfl
  split
  · exact Workspace.settings_commit.trans kept
  · split
    · exact kept
    · exact Workspace.settings_commit.trans kept

@[simp] theorem settings_operateLines (count : Nat) :
    (editor.operateLines operator count register?).1.settings = editor.settings := by
  unfold operateLines
  dsimp only
  split
  · rfl
  · generalize folds : List.foldl _ _ _ = folded
    have kept : folded.1.settings = editor.settings := by
      rw [← folds]
      refine (settings_foldl Prod.fst ?_ _ _).trans Workspace.settings_begin
      rintro ⟨state, finished⟩ index
      dsimp only
      split
      · rfl
      · exact settings_applyAt _ _ _ _ _
    split
    · exact kept
    · exact Workspace.settings_commit.trans kept

@[simp] theorem settings_go (operator? : Option Operator) :
    (editor.go destination operator?).1.settings = editor.settings := by
  cases operator? with
  | none => rfl
  | some operator => exact settings_operate operator destination _ _

@[simp] theorem settings_moveBy (motion : Motion) :
    (editor.moveBy motion).1.settings = editor.settings := rfl

@[simp] theorem settings_findKey (key : Key) (forward till : Bool) (operator? : Option Operator) :
    (editor.findKey key forward till operator?).1.settings = editor.settings := by
  unfold findKey
  split
  · rfl
  · exact settings_go _ operator?

@[simp] theorem settings_markKey (key : Key) (linewise : Bool) (operator? : Option Operator) :
    (editor.markKey key linewise operator?).1.settings = editor.settings := by
  unfold markKey
  split
  · rfl
  · split
    · rfl
    · exact settings_go _ operator?

@[simp] theorem settings_registerKey (key : Key) :
    (editor.registerKey key).1.settings = editor.settings := by
  unfold registerKey
  split
  · split <;> rfl
  · rfl

theorem settings_countKey (key : Key) : IfAny editor.SameSettings (editor.countKey? key) := by
  unfold countKey?
  split
  · exact .ofNone
  · split
    · exact .ofSome rfl
    · exact .ofNone

theorem settings_motionStart (key : Key) (operator? : Option Operator) :
    IfAny editor.SameSettings (editor.motionStart? key operator?) := by
  have found (find : Find → Destination) : (editor.lastFind?.elim editor.reject fun last =>
      editor.go (find last) operator?).1.settings = editor.settings := by
    cases editor.lastFind? with
    | none => rfl
    | some last => exact settings_go _ operator?
  unfold motionStart?
  split
  case h_8 | h_9 => exact .ofSome (found _)
  case h_10 => exact .ofNone
  all_goals exact .ofSome rfl

end Moving

section Selecting

variable (kind : SelectionKind) (target : ReturnMode) (key : Key)

@[simp] theorem settings_setWindow {window : Window}
    (kept : window.tabWidth = editor.window.tabWidth) :
    (editor.setWindow window).settings = editor.settings := by
  show (editor.options, window.tabWidth, editor.history.limit) = editor.settings
  rw [kept]
  rfl

@[simp] theorem settings_afterScroll {result : Window × Movement}
    (kept : result.1.tabWidth = editor.window.tabWidth) :
    (editor.afterScroll result).1.settings = editor.settings :=
  settings_setWindow kept

@[simp] theorem settings_scrollByPages (down : Bool) :
    (editor.scrollByPages down).1.settings = editor.settings :=
  settings_afterScroll (Window.tabWidth_scrollPages _ _ _)

@[simp] theorem settings_scrollByLines (down : Bool) :
    (editor.scrollByLines down).1.settings = editor.settings :=
  settings_afterScroll (Window.tabWidth_scrollLines _ _ _)

@[simp] theorem settings_scrollAfterZ : (editor.scrollAfterZ key).1.settings = editor.settings := by
  unfold scrollAfterZ
  dsimp only [takePending]
  split
  case h_1 | h_4 | h_5 | h_6 | h_7 | h_8 =>
    exact settings_setWindow (Window.tabWidth_scrollLineTo _ _ _ _)
  case h_13 | h_14 => exact settings_setWindow (Window.tabWidth_scrollColumnToEdge _ _)
  case h_15 => rfl
  all_goals exact settings_afterScroll (Window.tabWidth_scrollColumns _ _ _)

@[simp] theorem settings_enterVisual : (editor.enterVisual kind target).settings = editor.settings :=
  rfl

@[simp] theorem settings_enterSelect (withCharacter : Bool) :
    (editor.enterSelect kind target withCharacter).settings = editor.settings := rfl

@[simp] theorem settings_selectAgain : editor.selectAgain.1.settings = editor.settings := by
  unfold selectAgain
  dsimp only
  split <;> rfl

@[simp] theorem settings_visualToSelect :
    (editor.visualToSelect kind target).1.settings = editor.settings := by
  unfold visualToSelect
  dsimp only
  split <;> rfl

@[simp] theorem settings_selectToVisual :
    (editor.selectToVisual kind target).1.settings = editor.settings := by
  unfold selectToVisual
  dsimp only
  split <;> rfl

@[simp] theorem settings_switchSelection (wanted : SelectionKind) :
    (editor.switchSelection wanted kind target).1.settings = editor.settings := by
  unfold switchSelection
  dsimp only
  split
  · exact settings_endSelection target
  · rfl

@[simp] theorem settings_motion (motion? : Option Motion) :
    (motion?.elim editor.reject editor.moveBy).1.settings = editor.settings := by
  cases motion? <;> rfl

@[simp] theorem settings_extendBy : (editor.extendBy key).1.settings = editor.settings := by
  unfold extendBy
  split
  · exact settings_scrollByPages false
  · exact settings_scrollByPages true
  · exact settings_motion _

@[simp] theorem settings_moveShifted : (editor.moveShifted key).1.settings = editor.settings := by
  unfold moveShifted
  split
  · rfl
  · rfl
  · exact settings_scrollByPages false
  · exact settings_scrollByPages false
  · exact settings_scrollByPages true
  · exact settings_scrollByPages true
  · exact settings_motion _

@[simp] theorem settings_shiftedKey : (editor.shiftedKey key target).1.settings = editor.settings := by
  unfold shiftedKey
  split
  · dsimp only
    split <;> exact settings_extendBy _
  · exact settings_moveShifted key

end Selecting

section Typing

variable (key : Key)

theorem settings_typeOver (index : Nat) (chars : List Char) (state : Editor × Nat) :
    (chars.foldl (typeOver index) state).1.settings = state.1.settings :=
  settings_foldl Prod.fst (fun _ _ => Workspace.settings_replace _ _ _) chars state

@[simp] theorem settings_insertText (chars : List Char) :
    (editor.insertText chars).settings = editor.settings := by
  refine (settings_foldl (fun editor => editor) ?_ _ _).trans Workspace.settings_begin
  intro editor index
  unfold typeAt
  dsimp only
  split
  · exact settings_typeOver _ _ _
  · simp

@[simp] theorem settings_typeText (chars : List Char) :
    (editor.typeText chars).1.settings = editor.settings := by
  unfold typeText
  split
  · rfl
  · exact settings_insertText chars

@[simp] theorem settings_backspace : editor.backspace.1.settings = editor.settings := by
  unfold backspace
  dsimp only
  rw [settings_doneIf]
  refine (settings_foldl Prod.fst ?_ _ (editor.update (·.begin), false)).trans
    Workspace.settings_begin
  rintro ⟨editor, any⟩ index
  unfold backspaceAt
  dsimp only
  split
  · rfl
  · split
    · split
      · simp
      · simp
      · split <;> rfl
    · simp

@[simp] theorem settings_deleteUnder : editor.deleteUnder.1.settings = editor.settings := by
  refine (settings_foldl Prod.fst ?_ _ (editor.update (·.begin), false)).trans
    Workspace.settings_begin
  rintro ⟨editor, any⟩ index
  dsimp only
  split
  · exact Workspace.settings_remove _ _
  · rfl

@[simp] theorem settings_deleteBack (word : Bool) :
    (editor.deleteBack word).1.settings = editor.settings := by
  have keeps : Workspace.KeepsSettings fun space offset =>
      let start := deletionStart space.text word offset
      if start < offset then some (space.remove start offset, start) else none := by
    intro space offset edited removed
    dsimp only at removed
    split at removed
    · cases removed
      exact Workspace.settings_remove _ _
    · cases removed
  have kept := (Workspace.settings_editAtCarets keeps).trans (editor.settings_begin)
  exact kept

@[simp] theorem settings_shiftCaretLines (right : Bool) :
    (editor.shiftCaretLines right).1.settings = editor.settings :=
  (Workspace.settings_foldl (fun space => space)
    (fun _ _ => Workspace.settings_shiftLines _ _ _ _) _ _).trans Workspace.settings_begin

@[simp] theorem settings_breakTyping : editor.breakTyping.settings = editor.settings := by
  simp [breakTyping]

@[simp] theorem settings_finishTyping : editor.finishTyping.settings = editor.settings := by
  unfold finishTyping stepBack
  dsimp only
  split <;> split <;> simp

@[simp] theorem settings_specialKey (awaited : Awaited) :
    (editor.specialKey awaited key).1.settings = editor.settings := by
  unfold specialKey
  split
  · rfl
  · split
    · rfl
    · split <;> exact settings_typeText _
    · split
      · exact settings_typeText _
      · rfl
    · cases key.literal? with
      | none => rfl
      | some c => exact settings_typeText _
    · rfl

@[simp] theorem settings_toggleReplace : editor.toggleReplace.1.settings = editor.settings := rfl

theorem settings_typingControl : IfAny editor.SameSettings (editor.typingControl? key) := by
  unfold typingControl?
  split
  · exact .ofSome (settings_deleteBack true)
  · split
    · exact .ofSome (settings_deleteBack false)
    · split
      · exact .ofSome settings_backspace
      · split
        · exact .ofSome (settings_typeText _)
        · split
          · exact .ofSome (settings_shiftCaretLines _)
          · exact .ofNone

theorem settings_specialStart : IfAny editor.SameSettings (editor.specialStart? key) := by
  unfold specialStart?
  split
  · exact .ofSome rfl
  · split
    · exact .ofSome rfl
    · split
      · exact .ofSome rfl
      · exact .ofNone

@[simp] theorem settings_typedKey : (editor.typedKey key).1.settings = editor.settings := by
  unfold typedKey
  split
  · exact settings_typeText _
  · exact settings_typeText _
  · exact settings_backspace
  · exact settings_deleteUnder
  · rfl
  · cases key.printable? with
    | none => rfl
    | some c => exact settings_typeText _

@[simp] theorem settings_pressTyping : (editor.pressTyping key).1.settings = editor.settings := by
  unfold pressTyping
  dsimp only
  split
  · exact settings_specialKey key _
  · split
    · exact settings_finishTyping
    · have special : IfAny editor.SameSettings
          (editor.stopWaiting.specialStart? key <|> editor.stopWaiting.typingControl? key) :=
        .orElse (settings_specialStart key) (settings_typingControl key)
      apply special.getD
      unfold SameSettings
      split
      · simp
      · split
        · simp
        · exact settings_typedKey key

end Typing

section Normal

variable (key : Key) (count times : Nat) (count? : Option Nat) (register? : Option Char)

@[simp] theorem settings_startInsert (place : InsertPlace) :
    (editor.startInsert place times).1.settings = editor.settings := by
  simp [startInsert]

@[simp] theorem settings_openLine (below : Bool) :
    (editor.openLine below times).1.settings = editor.settings := by
  refine (Workspace.settings_foldl (fun space => space) ?_ _ _).trans editor.settings_begin
  intro space index
  dsimp only
  split <;> simp

theorem settings_editCarets {edit : Workspace → Nat → Option (Workspace × Nat)}
    (keeps : Workspace.KeepsSettings edit) :
    (editor.editCarets edit).1.settings = editor.settings :=
  Workspace.settings_commit.trans ((Workspace.settings_editAtCarets keeps).trans editor.settings_begin)

@[simp] theorem settings_putRegister (after : Bool) :
    (editor.putRegister register? after count).1.settings = editor.settings :=
  settings_editCarets (Workspace.keepsSettings_paste register? after count)

@[simp] theorem settings_joinAtCarets (spaces : Bool) :
    (editor.joinAtCarets count spaces).1.settings = editor.settings := by
  refine Workspace.settings_commit.trans ((Workspace.settings_foldl Prod.fst ?_ _
    (editor.begin, false, [])).trans editor.settings_begin)
  rintro ⟨space, any, finished⟩ index
  unfold joinAt
  dsimp only
  split
  · rfl
  · split
    · rename_i joined place joins
      exact Workspace.settings_joinLines joins
    · rfl

theorem settings_runHistory (redo : Bool) (caret? : Option Nat) (space : Workspace) :
    (runHistory redo count caret? space).1.settings = space.settings := by
  induction count generalizing caret? space with
  | zero => rfl
  | succ count ih =>
    unfold runHistory
    cases redo with
    | true =>
      dsimp only
      split
      · rw [ih]
        simp [Workspace.settings]
      · simp [Workspace.settings]
    | false =>
      dsimp only
      split
      · rw [ih]
        simp [Workspace.settings]
      · simp [Workspace.settings]

@[simp] theorem settings_undo (redo : Bool) :
    (editor.undo count redo).1.settings = editor.settings := by
  have kept := (settings_runHistory (max count 1) redo none editor.commit).trans
    Workspace.settings_commit
  unfold undo
  dsimp only
  split <;> exact kept

@[simp] theorem settings_commandOfChar (c : Char) :
    (editor.commandOfChar c count? register?).1.settings = editor.settings := by
  unfold commandOfChar
  dsimp only
  split
  case h_13 => split <;> simp
  case h_18 => exact settings_editCarets (Workspace.keepsSettings_toggleCase _)
  all_goals simp

@[simp] theorem settings_normalCommand :
    (editor.normalCommand key).1.settings = editor.settings := by
  unfold normalCommand takePending
  dsimp only
  split
  · simp
  · split
    · rfl
    · split
      · simp
      · split
        · simp
        · cases key.printable? with
          | none => rfl
          | some c => exact settings_commandOfChar _ _ c

@[simp] theorem settings_startOperator (operator : Operator) :
    (editor.startOperator operator).1.settings = editor.settings := rfl

@[simp] theorem settings_normalAfterG : (editor.normalAfterG key).1.settings = editor.settings := by
  unfold normalAfterG takePending
  dsimp only
  split
  · rfl
  · split <;> simp

@[simp] theorem settings_replacementKey :
    (editor.replacementKey key).1.settings = editor.settings := by
  unfold replacementKey
  split
  · rfl
  · split
    · rfl
    · exact settings_editCarets (Workspace.keepsSettings_replaceChars _ _)

@[simp] theorem settings_markToSetKey :
    (editor.markToSetKey key).1.settings = editor.settings := by
  unfold markToSetKey
  dsimp only
  split
  · rfl
  · split <;> rfl

theorem settings_commandStart : IfAny editor.SameSettings (editor.commandStart? key) := by
  unfold commandStart?
  split
  · exact .ofSome rfl
  · exact .ofSome rfl
  · exact .ofSome rfl
  · exact .ofNone

@[simp] theorem settings_operatorAfterG (operator : Operator) :
    (editor.operatorAfterG operator key).1.settings = editor.settings := by
  unfold operatorAfterG takePending
  dsimp only
  split
  · exact settings_go _ _
  · apply iteInduction (motive := editor.SameSettings)
    · exact fun _ => settings_operateLines _ _ _
    · exact fun _ => settings_reject
  · rfl

@[simp] theorem settings_operatorKey (operator : Operator) :
    (editor.operatorKey operator key).1.settings = editor.settings := by
  unfold operatorKey takePending
  split
  · rfl
  · apply (settings_countKey key).getD
    unfold SameSettings
    split
    · simp
    · apply (settings_motionStart key (some operator)).getD
      exact IfAny.elim rfl fun motion _ => settings_go _ (some operator)

@[simp] theorem settings_pressOperator (operator : Operator) :
    (editor.pressOperator operator key).1.settings = editor.settings := by
  unfold pressOperator
  dsimp only
  split <;> simp

end Normal

section Visual

variable (kind : SelectionKind) (target : ReturnMode) (key : Key) (register? : Option Char)

@[simp] theorem settings_operateOnSelections (operator : Operator) (steps : Nat) (toLineEnd : Bool) :
    (editor.operateOnSelections operator kind target register? steps toLineEnd).1.settings =
      editor.settings := by
  unfold operateOnSelections
  dsimp only
  generalize folds : List.foldl _ _ _ = folded
  have kept : folded.1.settings = editor.settings := by
    rw [← folds]
    refine (settings_foldl Prod.fst ?_ _ _).trans
      (Workspace.settings_begin.trans settings_remembered)
    rintro ⟨editor, places⟩ index
    unfold operateOnCaret
    dsimp only
    split
    · rfl
    · split
      · exact settings_applyAt _ _ _ _ _
      · split <;> rfl
  split
  · split
    · exact (settings_placeCarets _).trans kept
    · exact kept
  · exact (settings_enterAgain _).trans (Workspace.settings_commit.trans kept)

@[simp] theorem settings_joinSelection (spaces : Bool) :
    (editor.joinSelection kind target spaces).1.settings = editor.settings := by
  unfold joinSelection
  dsimp only
  split
  · exact settings_rememberSelection kind
  · split
    · simp
    · rename_i joined place joins
      refine Workspace.settings_commit.trans ((Workspace.settings_joinLines joins).trans ?_)
      simp

@[simp] theorem settings_putOnSelections :
    (editor.putOnSelections kind target register?).1.settings = editor.settings := by
  unfold putOnSelections
  dsimp only
  generalize folds : List.foldl _ _ _ = folded
  have kept : folded.1.settings = editor.settings := by
    rw [← folds]
    refine (settings_foldl Prod.fst ?_ _ _).trans
      (Workspace.settings_begin.trans (settings_rememberSelection kind))
    rintro ⟨editor, any⟩ index
    unfold putOnCaret
    dsimp only
    split
    · rename_i put place replaced
      obtain ⟨span, _, replaced⟩ := Option.bind_eq_some_iff.mp replaced
      exact Workspace.settings_replaceWithRegister replaced
    · rfl
  exact Workspace.settings_commit.trans kept

@[simp] theorem settings_fillKey : (editor.fillKey kind target key).1.settings = editor.settings := by
  unfold fillKey
  dsimp only
  split
  · rfl
  · split
    · rfl
    · generalize folds : List.foldl _ _ _ = filled
      have kept : filled.settings = editor.settings := by
        rw [← folds]
        refine (settings_foldl (fun editor => editor) ?_ _ _).trans
          (Workspace.settings_begin.trans (settings_rememberSelection kind))
        intro editor index
        unfold fillAtCaret
        dsimp only
        split
        · exact Workspace.settings_mapSpan _ _
        · rfl
      exact Workspace.settings_commit.trans kept

@[simp] theorem settings_insertAtBlock (append : Bool) :
    (editor.insertAtBlock append).1.settings = editor.settings := by
  unfold insertAtBlock
  dsimp only
  split
  · split
    · exact settings_rememberSelection .block
    · exact Workspace.settings_begin.trans
        ((settings_placeCarets _).trans (settings_rememberSelection .block))
  · exact settings_rememberSelection .block

@[simp] theorem settings_swapEnds : editor.swapEnds.1.settings = editor.settings := rfl

@[simp] theorem settings_selectionCommandOfChar (c : Char) (count : Nat) :
    (editor.selectionCommandOfChar kind target c count register?).1.settings = editor.settings := by
  unfold selectionCommandOfChar
  dsimp only
  split
  all_goals
    first
    | simp
    | split <;> simp

@[simp] theorem settings_selectionCommand :
    (editor.selectionCommand kind target key).1.settings = editor.settings := by
  unfold selectionCommand takePending
  dsimp only
  split
  · simp
  · cases key.printable? with
    | none => rfl
    | some c => exact settings_selectionCommandOfChar kind target _ c _

@[simp] theorem settings_visualAfterG :
    (editor.visualAfterG kind target key).1.settings = editor.settings := by
  unfold visualAfterG
  split <;> simp

@[simp] theorem settings_pressPrompt : (editor.pressPrompt key).1.settings = editor.settings := by
  unfold pressPrompt
  dsimp only
  split
  · exact settings_specialKey key _
  · apply (settings_specialStart key).getD
    unfold afterPrompt
    dsimp only
    split <;> rfl

end Visual

/-- Whether an outcome has the settings of an editor, but for a number of lines to scroll that may have
been stored. -/
def SparesSettings (editor : Editor) (outcome : Outcome) : Prop :=
  editor.SameSettings outcome ∨ ∃ lines, outcome.1.settings =
    ((editor.options.set .local "scroll" (.number lines)).1, editor.settings.2)

section Scrolling

variable (kind : SelectionKind) (target : ReturnMode) (key : Key)

/-- What comes before and does not touch the settings does not count. -/
theorem SparesSettings.of_settings {before : Editor} {outcome : Outcome}
    (spares : editor.SparesSettings outcome) (same : editor.settings = before.settings) :
    before.SparesSettings outcome := by
  have options : editor.options = before.options := congrArg Prod.fst same
  unfold SparesSettings SameSettings at *
  rwa [← same, ← options]

theorem IfAny.spares {outcome? : Option Outcome} (same : IfAny editor.SameSettings outcome?) :
    IfAny editor.SparesSettings outcome? :=
  fun outcome answered => Or.inl (same outcome answered)

theorem sparesSettings_scrollByHalf (down : Bool) : editor.SparesSettings (editor.scrollByHalf down) := by
  unfold scrollByHalf takePending
  dsimp only
  cases editor.pending.effectiveCount? with
  | none => exact Or.inl (settings_afterScroll (Window.tabWidth_scrollHalfPage _ _ _))
  | some count =>
    exact Or.inr ⟨_, settings_afterScroll (Window.tabWidth_scrollHalfPage _ _ _)⟩

theorem sparesSettings_scrollKey : IfAny editor.SparesSettings (editor.scrollKey? key) := by
  unfold scrollKey?
  split
  · exact .ofSome (Or.inl (settings_scrollByPages true))
  · split
    · exact .ofSome (Or.inl (settings_scrollByPages false))
    · split
      · exact .ofSome (sparesSettings_scrollByHalf _)
      · split
        · exact .ofSome (Or.inl (settings_scrollByLines _))
        · exact .ofNone

theorem sparesSettings_normalKey : editor.SparesSettings (editor.normalKey key) := by
  have marks : IfAny editor.SameSettings
      (if key.printable? = some 'm' then some (editor.await .markToSet) else none) := by
    split
    · exact .ofSome rfl
    · exact .ofNone
  unfold normalKey
  split
  · exact Or.inl rfl
  · refine IfAny.getD (.orElse (settings_countKey key).spares
      (.orElse (settings_motionStart key none).spares (.orElse (.map fun operator _ => Or.inl rfl)
        (.orElse (settings_commandStart key).spares
          (.orElse marks.spares (sparesSettings_scrollKey key)))))) ?_
    left
    unfold SameSettings
    split
    · exact settings_shiftedKey .normal key
    · have moves : IfAny editor.SameSettings (key.motion?.map editor.moveBy) :=
        .map fun motion _ => settings_moveBy motion
      exact moves.getD (settings_normalCommand key)

theorem sparesSettings_pressNormal : editor.SparesSettings (editor.pressNormal key) := by
  unfold pressNormal
  dsimp only
  split
  case h_8 => exact (sparesSettings_normalKey key).of_settings rfl
  all_goals
    left
    unfold SameSettings
    simp

theorem sparesSettings_pressAgain : editor.SparesSettings (editor.pressAgain key) := by
  unfold pressAgain
  split
  · exact Or.inl (settings_pressTyping key)
  · exact sparesSettings_pressNormal key

/-- What a cursor key does to a selection: it goes on, or it ends and the key is taken again. -/
theorem sparesSettings_cursorKey (goesOn ends : Bool) :
    IfAny editor.SparesSettings
      (if key.isShiftedNamed then
        some (if goesOn then editor.extendBy key.unshifted else editor.moveShifted key)
      else if key.isCursorKey then
        some (if ends then (editor.endSelection target).pressAgain key else editor.extendBy key)
      else none) := by
  split
  · refine .ofSome (Or.inl ?_)
    split
    · exact settings_extendBy _
    · exact settings_moveShifted _
  · split
    · apply IfAny.ofSome
      split
      · exact (sparesSettings_pressAgain key).of_settings (settings_endSelection target)
      · exact Or.inl (settings_extendBy _)
    · exact .ofNone

theorem sparesSettings_visualCursorKey :
    IfAny editor.SparesSettings (editor.visualCursorKey? target key) := by
  unfold visualCursorKey?
  exact sparesSettings_cursorKey target key _ _

theorem sparesSettings_selectCursorKey :
    IfAny editor.SparesSettings (editor.selectCursorKey? target key) := by
  unfold selectCursorKey?
  exact sparesSettings_cursorKey target key _ _

theorem sparesSettings_visualKey : editor.SparesSettings (editor.visualKey kind target key) := by
  unfold visualKey
  split
  · exact Or.inl (settings_endSelection target)
  · apply (settings_countKey key).spares.getD
    split
    · exact Or.inl (settings_switchSelection _ _ _)
    · split
      · exact Or.inl (settings_visualToSelect _ _)
      · exact IfAny.getD (.orElse (sparesSettings_visualCursorKey target key)
          (.orElse (settings_motionStart key none).spares (.orElse (settings_commandStart key).spares
            (.orElse (sparesSettings_scrollKey key)
              (.map fun motion _ => Or.inl (settings_moveBy motion))))))
          (Or.inl (settings_selectionCommand kind target key))

theorem sparesSettings_pressVisual : editor.SparesSettings (editor.pressVisual kind target key) := by
  unfold pressVisual
  dsimp only
  split
  case h_7 => exact (sparesSettings_visualKey kind target key).of_settings rfl
  all_goals
    left
    unfold SameSettings
    simp

theorem sparesSettings_pressSelect : editor.SparesSettings (editor.pressSelect kind target key) := by
  unfold pressSelect
  dsimp only
  split
  · exact Or.inl (settings_endSelection target)
  · split
    · exact Or.inl (settings_selectToVisual kind target)
    · refine (sparesSettings_selectCursorKey target key).getD (Or.inl ?_)
      split
      · exact settings_operateOnSelections _ _ _ _ _ _
      · split
        · show _ = _
          rw [settings_pressTyping, settings_countStrays, settings_operateOnSelections]
        · exact settings_reject

theorem sparesSettings_pressInMode : editor.SparesSettings (editor.pressInMode key) := by
  unfold pressInMode
  split
  · exact sparesSettings_pressNormal key
  · exact Or.inl (settings_pressOperator key _)
  · exact Or.inl (settings_pressTyping key)
  · exact Or.inl (settings_pressTyping key)
  · exact sparesSettings_pressVisual _ _ key
  · exact sparesSettings_pressSelect _ _ key
  · exact Or.inl (settings_pressPrompt key)

@[simp] theorem settings_dropCommand : editor.dropCommand.settings = editor.settings := by
  unfold dropCommand
  dsimp only
  split
  · exact Workspace.settings_commit
  · rfl

theorem sparesSettings_press : editor.SparesSettings (editor.press key) := by
  have same : (editor.press key).1.settings = (editor.pressInMode key).1.settings := by
    unfold press
    dsimp only
    split
    · rfl
    · exact settings_settle.trans settings_dropCommand
    · exact settings_settle
  unfold SparesSettings SameSettings
  rw [same]
  exact sparesSettings_pressInMode key

end Scrolling

@[simp] theorem settings_escape : editor.escape.settings = editor.settings := by
  unfold escape
  dsimp only
  rw [settings_settle, settings_clearPending]
  split
  · exact settings_finishTyping
  · exact settings_finishTyping
  · split <;> simp
  · split <;> simp
  all_goals rfl

@[simp] theorem settings_undoOnce (redo : Bool) :
    (editor.undoOnce redo).1.settings = editor.settings :=
  settings_settle.trans (settings_undo 1 redo)

@[simp] theorem settings_applyToLines (operator : Operator) (first last : Nat)
    (register? : Option Char) :
    (Session.applyToLines editor operator first last register?).1.settings = editor.settings := by
  unfold Session.applyToLines
  dsimp only
  refine settings_settle.trans (Workspace.settings_commit.trans ?_)
  split <;> simp

end Editor

end ModalEdit

import ModalEdit.Editor.Selection
import ModalEdit.Proofs.Editor.Edits

/-!
Ways into a selection and out of it. Each of them sets or takes the anchors together with the mode.
-/

set_option autoImplicit false

namespace ModalEdit

namespace Editor

variable {start : Journal} {editor before after : Editor}

theorem selects_clearAnchors (space : Workspace) : space.clearAnchors.Selects false := by
  intro caret member
  obtain ⟨old, _, rfl⟩ := CaretSet.mem_map.mp member
  rfl

/-- Without its selections an editor may go to any mode. -/
theorem Sound.cleared (sound : editor.Sound start)
    (uncounted : editor.pending.operatorCount? = none) :
    (editor.update (·.clearAnchors)).Ready start :=
  ⟨sound.recorded.leadsTo (.refl _) rfl, selects_clearAnchors _, uncounted⟩

/-- A mode with selections, once every caret has an anchor. -/
theorem Sound.selecting (recorded : editor.Recorded start) (selects : editor.Selects true)
    (kind : editor.mode.selectionKind?.isSome = true)
    (closed : editor.history.inTransaction = false)
    (uncounted : editor.pending.operatorCount? = none)
    (awaits : editor.mode.isSelect = true → editor.pending.awaited = .command) :
    editor.Sound start := by
  refine ⟨?_, fun opened => (nomatch closed.symm.trans opened),
    fun counted => absurd uncounted counted, awaits, recorded⟩
  rw [kind]
  exact selects

theorem sound_enterVisual (kind : SelectionKind) (target : ReturnMode) (sound : editor.Sound start)
    (closed : editor.history.inTransaction = false)
    (uncounted : editor.pending.operatorCount? = none) :
    (editor.enterVisual kind target).Sound start := by
  refine .selecting (sound.recorded.leadsTo (.refl _) rfl) ?_ rfl closed uncounted nofun
  intro caret member
  obtain ⟨old, _, rfl⟩ := CaretSet.mem_map.mp member
  rfl

theorem sound_enterSelect (kind : SelectionKind) (target : ReturnMode) (withCharacter : Bool)
    (sound : editor.Sound start) (closed : editor.history.inTransaction = false)
    (uncounted : editor.pending.operatorCount? = none)
    (awaits : editor.pending.awaited = .command) :
    (editor.enterSelect kind target withCharacter).Sound start := by
  refine .selecting (sound.recorded.leadsTo (.refl _) rfl) ?_ rfl closed uncounted fun _ => awaits
  intro caret member
  obtain ⟨old, _, rfl⟩ := CaretSet.mem_map.mp member
  rfl

theorem keeps_selectAgain (sound : editor.Sound start)
    (closed : editor.history.inTransaction = false) : Keeps start before editor.selectAgain := by
  unfold selectAgain
  dsimp only
  split
  · exact .reject sound.clearPending
  · refine .done (.selecting (sound.recorded.leadsTo (.refl _) rfl) ?_ rfl closed rfl nofun)
    intro caret member
    rw [List.mem_singleton.mp member]
    rfl

/-- In a mode with selections every caret has an anchor. -/
theorem Sound.selects_true (sound : editor.Sound start)
    (kind : editor.mode.selectionKind?.isSome = true) : editor.Selects true := by
  have selects := sound.selects
  rw [kind] at selects
  exact selects

theorem keeps_visualToSelect (kind : SelectionKind) (target : ReturnMode)
    (sound : editor.Sound start) (selecting : editor.mode.selectionKind?.isSome = true)
    (closed : editor.history.inTransaction = false)
    (uncounted : editor.pending.operatorCount? = none)
    (awaits : editor.pending.awaited = .command) :
    Keeps start before (editor.visualToSelect kind target) := by
  have selects := sound.selects_true selecting
  unfold visualToSelect
  dsimp only
  split
  · exact .done (.selecting (sound.recorded.leadsTo (.refl _) rfl) selects rfl closed uncounted
      fun _ => awaits)
  · refine .done (.selecting (sound.recorded.leadsTo (.refl _) rfl) ?_ rfl closed uncounted
      fun _ => awaits)
    intro caret member
    obtain ⟨old, stood, rfl⟩ := CaretSet.mem_map.mp member
    split
    · exact selects old stood
    · exact selects old stood

theorem keeps_selectToVisual (kind : SelectionKind) (target : ReturnMode)
    (sound : editor.Sound start) (selecting : editor.mode.selectionKind?.isSome = true)
    (closed : editor.history.inTransaction = false)
    (uncounted : editor.pending.operatorCount? = none) :
    Keeps start before (editor.selectToVisual kind target) := by
  have selects := sound.selects_true selecting
  unfold selectToVisual
  dsimp only
  split
  · exact .done (.selecting (sound.recorded.leadsTo (.refl _) rfl) selects rfl closed uncounted
      nofun)
  · refine .done (.selecting (sound.recorded.leadsTo (.refl _) rfl) ?_ rfl closed uncounted nofun)
    intro caret member
    obtain ⟨old, stood, rfl⟩ := CaretSet.mem_map.mp member
    split
    · exact selects old stood
    · exact selects old stood

theorem matches_rememberSelection (editor : Editor) (kind : SelectionKind) :
    editor.Matches (editor.rememberSelection kind) := by
  unfold rememberSelection
  dsimp only
  split <;> exact ⟨rfl, rfl, rfl, rfl⟩

/-- The selection is remembered in the modes that have one. -/
theorem matches_remembered (editor : Editor) :
    editor.Matches ((editor.mode.selectionKind?.map editor.rememberSelection).getD editor) := by
  cases editor.mode.selectionKind? with
  | none => exact ⟨rfl, rfl, rfl, rfl⟩
  | some kind => exact editor.matches_rememberSelection kind

theorem sound_enterAgain (target : ReturnMode) (ready : editor.Ready start)
    (closed : editor.history.inTransaction = false) :
    (editor.enterAgain target.mode).Sound start := by
  unfold enterAgain
  split
  · rename_i typing
    exact ready.begin.startTyping _ typing 1 false
  · refine ready.closed closed ?_
    cases target <;> rfl

theorem mode_enterAgain (target : ReturnMode) :
    (editor.enterAgain target.mode).mode = target.mode := by
  unfold enterAgain
  split <;> rfl

theorem mode_endSelection (editor : Editor) (target : ReturnMode) :
    (editor.endSelection target).mode = target.mode :=
  mode_enterAgain target

theorem placed_endSelection (editor : Editor) (target : ReturnMode) :
    (editor.endSelection target).Placed :=
  placed_clampCarets _

theorem rested_endSelection (editor : Editor) (target : ReturnMode) :
    (editor.endSelection target).Rested :=
  rested_clampCarets _

theorem sound_endSelection (target : ReturnMode) (sound : editor.Sound start)
    (closed : editor.history.inTransaction = false)
    (uncounted : editor.pending.operatorCount? = none) :
    (editor.endSelection target).Sound start := by
  have same := editor.matches_remembered
  have remembered := sound.ofMatches same
  refine (sound_enterAgain target (remembered.cleared ?_) ?_).clampCarets
  · rw [same.pending]
    exact uncounted
  · exact (congrArg (·.history.inTransaction) same.space).trans closed

theorem sound_reset (sound : editor.Sound start) : editor.reset.Sound start := by
  refine Sound.clampCarets (.plain ?_ (selects_clearAnchors _) rfl ?_ rfl)
  · exact sound.recorded.leadsTo editor.clearAnchors.leadsTo_commit rfl
  · intro opened
    exact nomatch editor.clearAnchors.inTransaction_commit.symm.trans opened

theorem keeps_switchSelection (wanted kind : SelectionKind) (target : ReturnMode)
    (sound : editor.Sound start) (selecting : editor.mode.selectionKind?.isSome = true)
    (closed : editor.history.inTransaction = false) :
    Keeps start before (editor.switchSelection wanted kind target) := by
  unfold switchSelection
  dsimp only
  split
  · exact .done (sound_endSelection target sound.clearPending closed rfl)
  · exact .done (.selecting (sound.recorded.leadsTo (.refl _) rfl) (sound.selects_true selecting)
      rfl closed rfl nofun)

theorem keeps_extendBy (key : Key) (sound : editor.Sound start) :
    Keeps start before (editor.extendBy key) := by
  unfold extendBy
  split
  · exact keeps_scrollByPages false sound
  · exact keeps_scrollByPages true sound
  · exact IfAny.elim (.reject sound) fun motion _ => keeps_moveBy motion sound

theorem keeps_moveShifted (key : Key) (sound : editor.Sound start) :
    Keeps start before (editor.moveShifted key) := by
  unfold moveShifted
  split
  · exact keeps_moveBy _ sound
  · exact keeps_moveBy _ sound
  · exact keeps_scrollByPages false sound
  · exact keeps_scrollByPages false sound
  · exact keeps_scrollByPages true sound
  · exact keeps_scrollByPages true sound
  · exact IfAny.elim (.reject sound) fun motion _ => keeps_moveBy motion sound

theorem keeps_shiftedKey (key : Key) (target : ReturnMode) (sound : editor.Sound start)
    (closed : editor.history.inTransaction = false)
    (uncounted : editor.pending.operatorCount? = none)
    (awaits : editor.pending.awaited = .command) :
    Keeps start before (editor.shiftedKey key target) := by
  unfold shiftedKey
  split
  · refine keeps_extendBy _ ?_
    split
    · exact sound_enterSelect _ _ _ sound closed uncounted awaits
    · exact sound_enterVisual _ _ sound closed uncounted
  · exact keeps_moveShifted key sound

theorem toList_addAll (carets : CaretSet) (places : List Nat) :
    (places.foldl (fun carets offset => carets.add (.ofOffset offset)) carets).toList =
      carets.toList ++ places.map Caret.ofOffset := by
  induction places generalizing carets with
  | nil => exact (List.append_nil _).symm
  | cons place rest ih =>
    rw [List.foldl_cons, ih, CaretSet.toList_add, List.append_assoc]
    rfl

/-- The carets put at places select nothing. -/
theorem selects_placeCarets {places : List Nat} (placed : places ≠ []) :
    (editor.placeCarets places).Selects false := by
  cases places with
  | nil => exact absurd rfl placed
  | cons first rest =>
    intro caret member
    rcases List.mem_append.mp (toList_addAll _ rest ▸ member) with here | added
    · rw [List.mem_singleton.mp here]
      rfl
    · obtain ⟨place, _, rfl⟩ := List.mem_map.mp added
      rfl

theorem journal_placeCarets (places : List Nat) :
    (editor.placeCarets places).journal = editor.journal := by
  cases places <;> rfl

end Editor

end ModalEdit

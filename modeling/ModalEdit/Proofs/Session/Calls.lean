import ModalEdit.Editor.Press
import ModalEdit.Proofs.Editor.Visual
import ModalEdit.Session.Handlers

/-!
Every key keeps the editor sound in every mode, and puts the carets to rest when a command is
completed or given up. Keys are one kind of what a session asks of its editor: keys and command lines come
down to these calls, one after the other. What every call keeps holds of every editor that is reached.
-/

set_option autoImplicit false

namespace ModalEdit

namespace Editor

variable {start : Journal} {atRest : Prop} {editor before after : Editor}

/-! ### Keys -/

theorem keeps_afterPrompt (result : Prompt × PromptEvent) (sound : editor.Sound start)
    (prompt : editor.mode = .commandLine) : Keeps start before (editor.afterPrompt result) := by
  have edited : Sound start { editor with prompt := result.1 } :=
    sound.ofMatches ⟨rfl, rfl, rfl, rfl⟩
  have closed : editor.history.inTransaction = false := sound.closed (prompt ▸ rfl)
  have uncounted : editor.pending.operatorCount? = none := by
    apply sound.uncounted
    intro operator target mode
    rw [prompt] at mode
    cases mode
  have ready : Ready start { editor with prompt := result.1 } :=
    edited.ready (prompt ▸ rfl) uncounted
  have left : Sound start { editor with prompt := result.1, mode := .normal } :=
    ready.closed closed rfl
  unfold afterPrompt
  dsimp only
  split
  · exact .done edited
  · exact ⟨left, nofun⟩
  · exact .done left
  · exact .reject edited

theorem keeps_pressPrompt (key : Key) (sound : editor.Sound start) (inText : editor.InText)
    (prompt : editor.mode = .commandLine) : Keeps start editor (editor.pressPrompt key) := by
  have rest := sound.stopWaiting
  have unselecting : editor.mode.isSelect = false := prompt ▸ rfl
  suffices keeps : Keeps start editor.stopWaiting (editor.pressPrompt key) from
    keeps.of_standsAs ⟨rfl, rfl, rfl, id⟩
  unfold pressPrompt
  dsimp only
  split
  · exact keeps_specialKey _ key rest inText (Or.inr prompt) unselecting
  · exact IfAny.getD (keepsIf_specialStart key rest unselecting)
      (keeps_afterPrompt _ rest prompt)

theorem keeps_pressInMode (key : Key) (sound : editor.Sound start) (inText : editor.InText) :
    Keeps start editor (editor.pressInMode key) := by
  unfold pressInMode
  split
  · rename_i mode
    exact keeps_pressNormal key sound inText mode
  · rename_i mode
    exact keeps_pressOperator _ _ key sound inText mode
  · rename_i mode
    exact keeps_pressTyping key sound (mode ▸ rfl) inText
  · rename_i mode
    exact keeps_pressTyping key sound (mode ▸ rfl) inText
  · rename_i mode
    exact keeps_pressVisual _ _ key sound inText mode
  · rename_i mode
    exact keeps_pressSelect _ _ key sound inText mode
  · rename_i mode
    exact keeps_pressPrompt key sound inText mode

/-- An operator that waits for its motion goes together with the command. -/
theorem sound_dropCommand (sound : editor.Sound start) : editor.dropCommand.Sound start := by
  unfold dropCommand
  dsimp only
  split
  · rename_i mode
    have ready : editor.clearPending.Ready start := sound.clearPending.ready (mode ▸ rfl) rfl
    exact @Ready.committed _ _ .normal ready rfl
  · exact sound.clearPending

/-- What holds between any two keys. The carets are at rest, if they were so at first. -/
structure Steady (start : Journal) (atRest : Prop) (editor : Editor) : Prop where
  sound : editor.Sound start
  placed : editor.Placed
  rested : atRest → editor.Rested

theorem Sound.steady_settle (sound : editor.Sound start) : editor.settle.Steady start atRest :=
  ⟨sound.settle, editor.placed_settle, fun _ => editor.rested_settle⟩

theorem steady_press (key : Key) (steady : editor.Steady start atRest) :
    (editor.press key).1.Steady start atRest := by
  have keeps := keeps_pressInMode key steady.sound steady.placed.offsets
  unfold press
  dsimp only
  split
  · rename_i pending
    have stays := keeps.waits pending
    exact ⟨keeps.sound, stays.placed steady.placed, fun held => stays.rested (steady.rested held)⟩
  · exact (sound_dropCommand keeps.sound).steady_settle
  · exact keeps.sound.steady_settle

theorem steady_reset (steady : editor.Steady start atRest) : editor.reset.Steady start atRest :=
  ⟨sound_reset steady.sound, placed_clampCarets _, fun _ => rested_clampCarets _⟩

theorem steady_undoOnce (redo : Bool) (steady : editor.Steady start atRest) :
    (editor.undoOnce redo).1.Steady start atRest := by
  have undone : Keeps start editor (editor.undo 1 redo) := keeps_undo 1 redo steady.sound
  exact undone.sound.steady_settle

theorem Sound.leaveTyping (sound : editor.Sound start) (typing : editor.mode.isTyping = true)
    (inText : editor.InText) : editor.finishTyping.Sound start :=
  sound_finishTyping (sound.readyTyping typing) inText

/-- Leaving a mode in which keys do not type. -/
theorem Sound.leave (sound : editor.Sound start) (notTyping : editor.mode.isTyping = false)
    (unselecting : editor.mode.selectionKind? = none) :
    Sound start { editor.clearPending with prompt := {}, mode := .normal } := by
  have closed : editor.history.inTransaction = false := sound.closed notTyping
  have left : Sound start { editor.clearPending with mode := .normal } :=
    (sound.clearPending.ready unselecting rfl).closed closed rfl
  exact left.ofMatches ⟨rfl, rfl, rfl, rfl⟩

theorem Sound.leaveSelection (target : ReturnMode) (sound : editor.Sound start)
    (selecting : editor.mode.selectionKind?.isSome = true) :
    (if (editor.endSelection target).mode.isTyping then (editor.endSelection target).finishTyping
      else editor.endSelection target).Sound start := by
  have left := sound_endSelection target sound (sound.closed_selecting selecting)
    (sound.uncounted_selecting selecting)
  split
  · rename_i typing
    exact left.leaveTyping typing (editor.placed_endSelection target).offsets
  · exact left

theorem steady_escape (steady : editor.Steady start atRest) :
    editor.escape.Steady start atRest := by
  obtain ⟨sound, placed, _⟩ := steady
  unfold escape
  dsimp only
  refine Sound.steady_settle ?_
  split
  · rename_i mode
    exact (sound.leaveTyping (mode ▸ rfl) placed.offsets).clearPending
  · rename_i mode
    exact (sound.leaveTyping (mode ▸ rfl) placed.offsets).clearPending
  · rename_i mode
    exact (sound.leaveSelection _ (mode ▸ rfl)).clearPending
  · rename_i mode
    exact (sound.leaveSelection _ (mode ▸ rfl)).clearPending
  · rename_i mode
    exact sound.leave (mode ▸ rfl) (mode ▸ rfl)
  · rename_i mode
    exact sound.leave (mode ▸ rfl) (mode ▸ rfl)
  · rename_i mode
    exact sound.leave (mode ▸ rfl) (mode ▸ rfl)

/-- Other options, registers, digraphs or tab stops, and a history with another limit. -/
structure Retunes (before after : Editor) : Prop where
  carets : after.carets = before.carets
  text : after.text = before.text
  mode : after.mode = before.mode
  pending : after.pending = before.pending
  typing : after.typing = before.typing
  strays : after.strays = before.strays
  history : after.history = before.history ∨ ∃ limit, after.history = before.history.setLimit limit

theorem Retunes.leadsTo (retunes : before.Retunes after) :
    before.journal.LeadsTo after.journal := by
  unfold Workspace.journal
  rw [retunes.text]
  rcases retunes.history with same | ⟨limit, limited⟩
  · rw [same]
    exact .refl _
  · rw [limited]
    exact .apply (.setLimit limit) trivial

theorem Retunes.inTransaction (retunes : before.Retunes after) :
    after.history.inTransaction = before.history.inTransaction := by
  rcases retunes.history with same | ⟨limit, limited⟩
  · rw [same]
  · rw [limited]
    rfl

theorem Retunes.sound (retunes : before.Retunes after) (sound : before.Sound start) :
    after.Sound start := by
  constructor
  · unfold Workspace.Selects
    rw [retunes.carets, retunes.mode]
    exact sound.selects
  · rw [retunes.inTransaction, retunes.mode]
    exact sound.typing
  · rw [retunes.pending, retunes.mode]
    exact sound.counting
  · rw [retunes.pending, retunes.mode]
    exact sound.command
  · exact sound.recorded.leadsTo retunes.leadsTo retunes.strays

theorem Retunes.standsAs (retunes : before.Retunes after) : before.StandsAs after :=
  ⟨retunes.carets, retunes.text, congrArg Mode.caretPastEnd retunes.mode,
    fun visual => retunes.mode ▸ visual⟩

theorem Steady.retune (steady : before.Steady start atRest) (retunes : before.Retunes after) :
    after.Steady start atRest :=
  ⟨retunes.sound steady.sound, retunes.standsAs.placed steady.placed,
    fun held => retunes.standsAs.rested (steady.rested held)⟩

/-! ### Calls -/

/-- What can be asked of an editor. -/
inductive Call where
  | press (key : Key)
  | escape
  | reset
  | undoOnce (redo : Bool)
  | applyToLines (operator : Operator) (first last : Nat) (register? : Option Char)
  | goto (place : Nat)
  /-- Other options, registers, digraphs, tab stops or reports. -/
  | retune

/-- What a call leads to. Only what may be retuned is left open. -/
inductive Answers (before : Editor) : Call → Editor → Prop where
  | press (key : Key) : Answers before (.press key) (before.press key).1
  | escape : Answers before .escape before.escape
  | reset : Answers before .reset before.reset
  | undoOnce (redo : Bool) : Answers before (.undoOnce redo) (before.undoOnce redo).1
  | applyToLines (operator : Operator) (first last : Nat) (register? : Option Char) :
      Answers before (.applyToLines operator first last register?)
        (Session.applyToLines before operator first last register?).1
  | goto (place : Nat) :
      Answers before (.goto place)
        (before.update fun space => space.moveCaret space.carets.primaryIndex place).settle
  | retune {after : Editor} (retunes : before.Retunes after) : Answers before .retune after

/-- The editors that calls lead to from a window, as long as each call is allowed where it is made. -/
inductive Reached (allows : Editor → Call → Prop) (window : Window) : Editor → Prop where
  | start : Reached allows window (Session.ofWindow window).editor
  | call {before after : Editor} {call : Call} (reached : Reached allows window before)
      (allowed : allows before call) (answers : before.Answers call after) :
      Reached allows window after

/-- The editor after keys, one after the other. -/
def pressAll (editor : Editor) (keys : List Key) : Editor :=
  keys.foldl (fun editor key => (editor.press key).1) editor

/-- Any call, anywhere. -/
def anyCall (_ : Editor) (_ : Call) : Prop :=
  True

/-- Whether what holds of an editor holds after every call. -/
def KeptByCalls (holds : Editor → Prop) : Prop :=
  ∀ before call after, holds before → before.Answers call after → holds after

variable {allows : Editor → Call → Prop} {window : Window}

theorem keptByCalls_reached : KeptByCalls (Reached anyCall window) := by
  intro before call after reached answers
  exact reached.call trivial answers

theorem Reached.press (reached : Reached allows window editor) (key : Key)
    (allowed : allows editor (.press key)) : Reached allows window (editor.press key).1 :=
  reached.call allowed (.press key)

theorem Reached.pressAll {keys : List Key} (reached : Reached allows window editor)
    (allowed : ∀ editor key, key ∈ keys → allows editor (.press key)) :
    Reached allows window (editor.pressAll keys) := by
  induction keys generalizing editor with
  | nil => exact reached
  | cons key rest ih =>
    refine ih (reached.press key (allowed editor key List.mem_cons_self)) ?_
    exact fun editor other member => allowed editor other (List.mem_cons_of_mem key member)

theorem Reached.mono {permits : Editor → Call → Prop}
    (permitted : ∀ editor call, allows editor call → permits editor call)
    (reached : Reached allows window editor) : Reached permits window editor := by
  induction reached with
  | start => exact .start
  | call _ allowed answers ih => exact ih.call (permitted _ _ allowed) answers

/-- What holds at first and after every call that is allowed holds of all that is reached. -/
theorem Reached.holds {holds : Editor → Prop} (first : holds (Session.ofWindow window).editor)
    (keeps : ∀ before call after, holds before → allows before call → before.Answers call after →
      holds after)
    (reached : Reached allows window editor) : holds editor := by
  induction reached with
  | start => exact first
  | call _ allowed answers ih => exact keeps _ _ _ ih allowed answers

/-- Lines are edited as one transaction, in whatever mode. -/
theorem steady_applyToLines (operator : Operator) (first last : Nat) (register? : Option Char)
    (steady : editor.Steady start atRest) :
    (Session.applyToLines editor operator first last register?).1.Steady start atRest := by
  have lands := editor.begin.lands_applyOperator operator (.lines first last) register? 0
    fun _ => trivial
  unfold Session.applyToLines
  dsimp only
  refine (steady.sound.transacted steady.placed.offsets ?_).steady_settle
  split
  · exact lands.moveCaret _
  · exact lands.edited

theorem steady_goto (place : Nat) (steady : editor.Steady start atRest) :
    (editor.update fun space =>
      space.moveCaret space.carets.primaryIndex place).settle.Steady start atRest := by
  refine Sound.steady_settle (steady.sound.withSpace ?_ id (.refl _))
  exact fun _ selects => Workspace.selects_moveCaret _ _ selects

theorem keptByCalls_steady : KeptByCalls (Steady start atRest) := by
  intro before call after steady answers
  cases answers with
  | press key => exact steady_press key steady
  | escape => exact steady_escape steady
  | reset => exact steady_reset steady
  | undoOnce redo => exact steady_undoOnce redo steady
  | applyToLines operator first last register? =>
    exact steady_applyToLines operator first last register? steady
  | goto place => exact steady_goto place steady
  | retune retunes => exact steady.retune retunes

/-- Over a selection the carets are at rest, wherever they stood before it began. -/
structure RestsVisual (start : Journal) (editor : Editor) : Prop where
  steady : editor.Steady start False
  rested : editor.mode.isVisual = true → editor.Rested

theorem restsVisual_press (key : Key) (rests : editor.RestsVisual start) :
    (editor.press key).1.RestsVisual start := by
  obtain ⟨steady, rested⟩ := rests
  refine ⟨steady_press key steady, ?_⟩
  have keeps := keeps_pressInMode key steady.sound steady.placed.offsets
  unfold press
  dsimp only
  split
  · rename_i pending
    have stays := keeps.waits pending
    exact fun visual => stays.rested (rested (stays.visual visual))
  · exact fun _ => rested_settle _
  · exact fun _ => rested_settle _

/-- All but a key that waits for others and a change of options put the carets to rest. -/
theorem keptByCalls_restsVisual : KeptByCalls (RestsVisual start) := by
  intro before call after rests answers
  have steady := keptByCalls_steady before call after rests.steady answers
  cases answers with
  | press key => exact restsVisual_press key rests
  | escape => exact ⟨steady, fun _ => rested_settle _⟩
  | reset => exact ⟨steady, fun _ => rested_clampCarets _⟩
  | undoOnce redo => exact ⟨steady, fun _ => rested_settle _⟩
  | applyToLines operator first last register? => exact ⟨steady, fun _ => rested_settle _⟩
  | goto place => exact ⟨steady, fun _ => rested_settle _⟩
  | retune retunes =>
    refine ⟨steady, fun visual => retunes.standsAs.rested (rests.rested ?_)⟩
    exact retunes.mode ▸ visual

end Editor

end ModalEdit

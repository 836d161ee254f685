import ModalEdit.Proofs.Response.Refusal
import ModalEdit.Proofs.Session.Reachable

/-!
What a key answers in every editor that calls lead to: what it leaves of the command being typed, what
it has done if it cannot be used, and where the carets that were added for a block have gone.
-/

set_option autoImplicit false

namespace ModalEdit

namespace Editor

variable {editor before after : Editor} {allows : Editor → Call → Prop} {window : Window}

/-- The mode is the same, and so is the command being typed. -/
theorem Orderly.resembles (orderly : before.Orderly) (mode : after.mode = before.mode)
    (pending : after.pending = before.pending) : after.Orderly := by
  obtain ⟨awaits, prompt⟩ := orderly
  constructor
  · rw [mode, pending]
    exact awaits
  · intro isPrompt
    have clear := prompt (mode.symm.trans isPrompt)
    unfold stopWaiting at clear ⊢
    rw [pending]
    exact clear

theorem keptByCalls_orderly : KeptByCalls Orderly := by
  intro before call after orderly answers
  cases answers with
  | press key => exact before.orderly_press key orderly
  | escape => exact orderly_of_pending rfl
  | reset => exact orderly_of_pending rfl
  | undoOnce redo =>
    obtain ⟨mode, pending, _⟩ := before.undo_keeps 1 redo
    exact orderly.resembles mode pending
  | applyToLines operator first last register? => exact orderly.resembles rfl rfl
  | goto place => exact orderly.resembles rfl rfl
  | retune retunes => exact orderly.resembles retunes.mode retunes.pending

theorem Reached.orderly (reached : Reached allows window editor) : editor.Orderly := by
  refine reached.holds (orderly_of_pending rfl) ?_
  exact fun before call after holds _ => keptByCalls_orderly before call after holds

theorem Reached.steady {atRest : Prop} (unselected : window.Unselected)
    (rested : atRest → (Session.ofWindow window).editor.Rested)
    (reached : Reached allows window editor) :
    editor.Steady (Session.firstJournal window) atRest := by
  refine reached.holds (Session.steady_ofWindow unselected rested) ?_
  exact fun before call after holds _ => keptByCalls_steady before call after holds

theorem Reached.restsVisual (unselected : window.Unselected)
    (reached : Reached allows window editor) :
    editor.RestsVisual (Session.firstJournal window) := by
  refine reached.holds ⟨Session.steady_ofWindow unselected False.elim, nofun⟩ ?_
  exact fun before call after holds _ => keptByCalls_restsVisual before call after holds

/-- The calls that leave nothing of a command they complete. -/
def takesCommand (editor : Editor) : Call → Prop
  | .press key => editor.leavesCommand key = false
  | _ => True

theorem unburdened_answers {call : Call} (orderly : before.Orderly)
    (takes : before.takesCommand call) (answers : before.Answers call after)
    (unburdened : before.Unburdened) : after.Unburdened := by
  have same (mode : after.mode = before.mode) (pending : after.pending = before.pending) :
      after.Unburdened := by
    unfold Unburdened stopWaiting
    rw [mode, pending]
    exact unburdened
  cases answers with
  | press key => exact before.unburdened_press orderly takes unburdened
  | escape => exact unburdened_of_pending rfl
  | reset => exact unburdened_of_pending rfl
  | undoOnce redo =>
    obtain ⟨mode, pending, _⟩ := before.undo_keeps 1 redo
    exact same mode pending
  | applyToLines operator first last register? => exact same rfl rfl
  | goto place => exact same rfl rfl
  | retune retunes => exact same retunes.mode retunes.pending

theorem Reached.unburdened (reached : Reached takesCommand window editor) : editor.Unburdened := by
  -- By induction on the calls, along which the awaited key goes with the mode as well.
  induction reached with
  | start => exact Or.inl rfl
  | call reached takes answers ih => exact unburdened_answers reached.orderly takes answers ih

/-- What is left of the command once a key has completed one or cannot be used. As long as no key that
begins a selection for typed text was pressed behind a count or a register, nothing is left. -/
theorem Reached.command_left (reached : Reached allows window editor) (key : Key)
    (answered : (editor.press key).2 ≠ .pending) :
    ((editor.press key).1.pending =
      if (editor.press key).2 = .rejected then {} else editor.commandLeft key) ∧
    ((∀ editor call, allows editor call → takesCommand editor call) →
      editor.leavesCommand key = false → (editor.press key).1.pending = {}) := by
  have left := editor.pending_press key reached.orderly answered
  refine ⟨left, ?_⟩
  intro takes taken
  have unburdened := (reached.mono takes).unburdened
  rw [left, editor.commandLeft_of_unburdened unburdened taken]
  exact ite_self _

/-- A count in front of the keys that begin a selection for typed text is left, and one in front of a
deletion is not. -/
theorem Reached.command_left_counted :
    let window : Window := { text := ['a', 'b', 'c'], carets := .single (.ofOffset 0) }
    (∃ editor, Reached anyCall window editor ∧ (editor.press (.ofChar 'h')).2 = .done ∧
      editor.leavesCommand (.ofChar 'h') = true ∧
      (editor.press (.ofChar 'h')).1.pending = { count? := some 3 }) ∧
    ∃ editor, Reached takesCommand window editor ∧ editor.pending = { count? := some 2 } ∧
      (editor.press (.ofChar 'x')).1.text = ['c'] ∧ (editor.press (.ofChar 'x')).1.pending = {} := by
  intro window
  refine ⟨?_, ?_⟩
  · have reached : Reached anyCall window
        ((Session.ofWindow window).editor.pressAll [.ofChar '3', .ofChar 'g']) :=
      Reached.start.pressAll fun _ _ _ => trivial
    generalize editorEq : (Session.ofWindow window).editor.pressAll _ = editor at reached
    have answers : (editor.press (.ofChar 'h')).2 = .done ∧
        editor.leavesCommand (.ofChar 'h') = true ∧
        editor.commandLeft (.ofChar 'h') = { count? := some 3 } := by
      rw [← editorEq]
      decide +kernel
    obtain ⟨done, leaves, left⟩ := answers
    obtain ⟨pending, _⟩ := Reached.command_left reached (.ofChar 'h') (by rw [done]; nofun)
    rw [done, if_neg nofun, left] at pending
    exact ⟨editor, reached, done, leaves, pending⟩
  · have first : takesCommand (Session.ofWindow window).editor (.press (.ofChar '2')) := by
      show leavesCommand _ _ = false
      decide +kernel
    have reached : Reached takesCommand window
        ((Session.ofWindow window).editor.pressAll [.ofChar '2']) :=
      Reached.start.press (.ofChar '2') first
    generalize editorEq : (Session.ofWindow window).editor.pressAll _ = editor at reached
    have answers : editor.pending = { count? := some 2 } ∧
        (editor.press (.ofChar 'x')).2 = .done ∧
        (editor.press (.ofChar 'x')).1.text = ['c'] ∧
        editor.leavesCommand (.ofChar 'x') = false := by
      rw [← editorEq]
      decide +kernel
    obtain ⟨counted, done, text, takes⟩ := answers
    obtain ⟨_, cleared⟩ := Reached.command_left reached (.ofChar 'x') (by rw [done]; nofun)
    exact ⟨editor, reached, counted, text, cleared (fun _ _ => id) takes⟩

/-- A key that cannot be used leaves the text, the registers and the options, but for a count stored for
scrolling, and nothing of the command. The carets and the mode are the same as well, unless the key
turns to another mode before it turns out to be of no use. -/
theorem Reached.refused (unselected : window.Unselected)
    (rested : (Session.ofWindow window).editor.Rested) (reached : Reached allows window editor)
    (key : Key) (notPending : ∀ operator target, editor.mode ≠ .operatorPending operator target)
    (rejected : (editor.press key).2 = .rejected) :
    let after := (editor.press key).1
    after.text = editor.text ∧ after.registers = editor.registers ∧
      after.options = editor.optionsStored key ∧ after.pending = {} ∧
      (editor.turnsFirst key = false → after.carets = editor.carets ∧ after.mode = editor.mode) ∧
      (editor.turnsFirst key = true → after.mode ≠ editor.mode) := by
  have orderly := reached.orderly
  have steady : editor.Steady (Session.firstJournal window) True :=
    reached.steady unselected fun _ => rested
  obtain ⟨text, registers, options, pending⟩ := spares_press orderly rejected
  refine ⟨text, registers, options, pending, ?_, ?_⟩
  · intro still
    exact stays_press orderly rejected steady.placed (steady.rested trivial) notPending still
  · intro turns same
    have selects := selects_press orderly rejected turns notPending
    rw [same] at selects
    cases kind : editor.mode.selectionKind?.isSome <;> rw [kind] at selects <;> cases selects

/-- The lines of a selection cannot be joined on the last line, and the selection is left all the
same. -/
theorem Reached.refused_join :
    let window : Window := { text := ['a', 'b', 'c'], carets := .single (.ofOffset 0) }
    ∃ editor, Reached anyCall window editor ∧
      (editor.press (.ofChar 'J')).2 = .rejected ∧
      (editor.press (.ofChar 'J')).1.text = editor.text ∧
      (editor.press (.ofChar 'J')).1.options = editor.options ∧
      (editor.press (.ofChar 'J')).1.mode ≠ editor.mode := by
  intro window
  have reached : Reached anyCall window ((Session.ofWindow window).editor.pressAll [.ofChar 'v']) :=
    Reached.start.pressAll fun _ _ _ => trivial
  generalize editorEq : (Session.ofWindow window).editor.pressAll _ = editor at reached
  have answers : editor.mode = .visual .character .normal ∧
      (editor.press (.ofChar 'J')).2 = .rejected ∧
      editor.turnsFirst (.ofChar 'J') = true ∧ editor.storesScroll (.ofChar 'J') = false := by
    rw [← editorEq]
    decide +kernel
  obtain ⟨visual, rejected, turns, unstored⟩ := answers
  obtain ⟨text, _, options, _, _, turned⟩ := Reached.refused ⟨by decide, by decide⟩
    (Session.rested_of_single rfl (by decide)) reached (.ofChar 'J')
    (fun operator target pending => nomatch visual.symm.trans pending) rejected
  unfold optionsStored at options
  rw [unstored] at options
  exact ⟨editor, reached, rejected, text, options, turned turns⟩

/-- Whether a call parts with the carets of a block before what is typed at them has ended. -/
def partsWithBlock (editor : Editor) : Call → Bool
  | .press key => editor.partsBlock key
  | .reset => editor.typesAtBlock
  | _ => false

/-- The calls that leave the carets of a block together. -/
def keepsBlock (editor : Editor) (call : Call) : Prop :=
  editor.partsWithBlock call = false

instance (editor : Editor) : DecidablePred editor.keepsBlock :=
  fun call => inferInstanceAs (Decidable (editor.partsWithBlock call = false))

theorem gathered_escape (gathered : editor.Gathered) : editor.escape.Gathered := by
  unfold escape
  dsimp only
  refine Gathered.settle (Or.inl ?_)
  have ended (target : ReturnMode) (notTyping : editor.mode.isTyping = false) :
      (if (editor.endSelection target).mode.isTyping then (editor.endSelection target).finishTyping
        else editor.endSelection target).carets.size = 1 := by
    have alone := size_endSelection target (gathered.alone notTyping)
    split
    · exact (editor.endSelection target).finishTyping_spec.2.2 (Or.inl alone)
    · exact alone
  cases mode : editor.mode with
  | insert | replace => exact editor.finishTyping_spec.2.2 gathered
  | visual kind target | select kind target => exact ended target (mode ▸ rfl)
  | operatorPending | commandLine | normal => exact gathered.alone (mode ▸ rfl)

theorem gathered_reset (apart : editor.typesAtBlock = false) (gathered : editor.Gathered) :
    editor.reset.Gathered := by
  have alone := gathered.alone_of_typesAtBlock apart
  refine Or.inl (size_clampCarets ?_)
  exact (CaretSet.size_map _ _).trans alone

theorem gathered_applyToLines (operator : Operator) (first last : Nat) (register? : Option Char)
    (gathered : editor.Gathered) :
    (Session.applyToLines editor operator first last register?).1.Gathered := by
  have lands := editor.begin.lands_applyOperator operator (.lines first last) register? 0
    fun _ => trivial
  unfold Session.applyToLines
  dsimp only
  refine Gathered.settle (gathered.resized ?_ rfl rfl)
  have edited := lands.edited.size.trans editor.size_begin
  split
  · exact (CaretSet.size_modify _ _ _).trans edited
  · exact edited

theorem Retunes.gathered (retunes : before.Retunes after) (gathered : before.Gathered) :
    after.Gathered :=
  gathered.resized (congrArg CaretSet.size retunes.carets) retunes.mode
    (congrArg Typing.block retunes.typing)

/-- One call more, and there is one caret still, or carets for a block that is being typed. -/
theorem gathered_answers {call : Call} (orderly : before.Orderly) (keeps : before.keepsBlock call)
    (answers : before.Answers call after) (gathered : before.Gathered) : after.Gathered := by
  cases answers with
  | press key => exact before.gathered_press key orderly keeps gathered
  | escape => exact gathered_escape gathered
  | reset => exact gathered_reset keeps gathered
  | undoOnce redo => exact (gathered_undo 1 redo gathered).settle
  | applyToLines operator first last register? =>
    exact gathered_applyToLines operator first last register? gathered
  | goto place =>
    exact Gathered.settle (gathered.resized (CaretSet.size_modify _ _ _) rfl rfl)
  | retune retunes => exact retunes.gathered gathered

theorem Reached.gathered (alone : window.carets.size = 1)
    (reached : Reached keepsBlock window editor) : editor.Gathered := by
  induction reached with
  | start => exact Or.inl alone
  | call reached keeps answers ih => exact gathered_answers reached.orderly keeps answers ih

/-- From a single caret, there is a single caret in normal mode and wherever no text is typed at a
block, as long as no call has parted with the carets of one. -/
theorem Reached.single_caret (alone : window.carets.size = 1)
    (reached : Reached keepsBlock window editor) :
    (editor.mode = .normal → editor.carets.size = 1) ∧
      (editor.carets.size ≠ 1 → editor.mode.isTyping = true ∧ editor.typing.block = true) := by
  have gathered := reached.gathered alone
  constructor
  · intro normal
    exact gathered.alone (normal ▸ rfl)
  · intro several
    exact gathered.resolve_left several

/-- Text typed in front of a block of two lines. -/
theorem Reached.single_caret_behind_block :
    let window : Window :=
      { text := ['a', 'b', '\n', 'a', 'b'], carets := .single (.ofOffset 0) }
    ∃ editor, Reached keepsBlock window editor ∧ editor.mode = .normal ∧
      editor.text = ['x', 'a', 'b', '\n', 'x', 'a', 'b'] ∧ editor.carets.size = 1 := by
  intro window
  have first : Reached keepsBlock window (Session.ofWindow window).editor := .start
  have selected := (first.press (.ctrl 'v') (by decide +kernel)).press (.ofChar 'j')
    (by decide +kernel)
  have typed := (selected.press (.ofChar 'I') (by decide +kernel)).press (.ofChar 'x')
    (by decide +kernel)
  have reached : Reached keepsBlock window ((Session.ofWindow window).editor.pressAll
      [.ctrl 'v', .ofChar 'j', .ofChar 'I', .ofChar 'x', .escape]) :=
    typed.press .escape (by decide +kernel)
  generalize editorEq : (Session.ofWindow window).editor.pressAll _ = editor at reached
  have typed : editor.mode = .normal ∧ editor.text = ['x', 'a', 'b', '\n', 'x', 'a', 'b'] := by
    rw [← editorEq]
    decide +kernel
  obtain ⟨normal, text⟩ := typed
  obtain ⟨alone, _⟩ := Reached.single_caret rfl reached
  exact ⟨editor, reached, normal, text, alone normal⟩

end Editor

end ModalEdit

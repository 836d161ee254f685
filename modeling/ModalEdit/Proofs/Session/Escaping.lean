import ModalEdit.Proofs.Session.Answering

/-!
Getting out: escape leads to normal mode from anywhere. Each time it is pressed, it ends the key that is
waited for, the selection, the typing or the command, and there are never more than three of these.
-/

set_option autoImplicit false

namespace ModalEdit

namespace Editor

variable {editor before after : Editor} {allows : Editor → Call → Prop} {window : Window}
  {key : Key}

/-- Nothing is going on: no command, no selection and no typing. -/
structure Free (editor : Editor) : Prop where
  normal : editor.mode = .normal
  pending : editor.pending = {}
  anchors : ∀ caret ∈ editor.carets.toList, caret.anchor? = none
  closed : editor.history.inTransaction = false

/-- How often escape has yet to be pressed. -/
def escapesLeft (editor : Editor) : Nat :=
  let waiting := if editor.pending.awaited = .command then 0 else 1
  match editor.mode with
  | .normal => if editor.pending = {} then 0 else 1
  | .operatorPending .. => 1
  | .commandLine => 1 + waiting
  | .insert | .replace => 1 + waiting + if editor.stopWaiting.pending = {} then 0 else 1
  | .visual .. => 2 + waiting
  | .select .. => 3

theorem escapesLeft_le (editor : Editor) : editor.escapesLeft ≤ 3 := by
  have single (never : Prop) [Decidable never] : (if never then 0 else 1) ≤ 1 := by
    split <;> omega
  have waiting := single (editor.pending.awaited = .command)
  have typed := single (editor.stopWaiting.pending = {})
  have begun := single (editor.pending = {})
  unfold escapesLeft
  dsimp only
  split <;> omega

/-- A key that leaves nothing of the command, whether it can be used or not. -/
theorem press_clears (orderly : editor.Orderly) (answered : (editor.pressInMode key).2 ≠ .pending)
    (taken : editor.commandLeft key = {}) (notPending : ∀ operator target,
      (editor.pressInMode key).1.mode ≠ .operatorPending operator target) :
    (editor.press key).1.pending = {} ∧
      (editor.press key).1.mode = (editor.pressInMode key).1.mode := by
  rw [← editor.step_press key] at answered
  refine ⟨?_, editor.mode_press key notPending⟩
  rw [editor.pending_press key orderly answered, taken, ite_self]

theorem escapesLeft_settle (editor : Editor) : editor.settle.escapesLeft = editor.escapesLeft := rfl

theorem escapesLeft_normal (normal : editor.mode = .normal) :
    editor.escapesLeft = if editor.pending = {} then 0 else 1 := by
  unfold escapesLeft
  rw [normal]

/-- In the mode that a selection came from, it takes one more escape at most to end the typing, and one
for what is left of a command. -/
theorem escapesLeft_returnTo {target : ReturnMode} (mode : editor.mode = target.mode)
    (awaits : editor.pending.awaited = .command) :
    editor.escapesLeft ≤ 1 + if editor.pending = {} then 0 else 1 := by
  have stopped := pending_stopWaiting awaits
  unfold escapesLeft
  rw [mode, stopped, awaits]
  cases target with
  | normal => exact Nat.le_add_left _ 1
  | insert | replace => exact Nat.le_refl _

/-- Escape ends an operator, whatever it waits for. -/
theorem press_escape_operator {operator : Operator} {target : ReturnMode}
    (pending : editor.mode = .operatorPending operator target) :
    (editor.press .escape).1.pending = {} ∧ (editor.press .escape).1.mode = .normal := by
  have pressed := pressInMode_operator .escape pending
  have dropped : editor.stopWaiting.dropCommand.mode = .normal := by
    unfold dropCommand
    dsimp only
    rw [show editor.stopWaiting.clearPending.mode = _ from pending]
  unfold pressOperator at pressed
  cases awaited : editor.pending.awaited with
  | afterG | findTarget | markToReach =>
    rw [awaited] at pressed
    have left : (editor.press .escape).1 = editor.stopWaiting.dropCommand.settle :=
      congrArg Prod.fst (press_of_reject pressed)
    rw [left]
    exact ⟨pending_dropCommand _, dropped⟩
  | _ =>
    rw [awaited] at pressed
    have left : (editor.press .escape).1 =
        ({ editor.stopWaiting with mode := .normal }.clearPending).settle :=
      congrArg Prod.fst (press_of_done pressed)
    rw [left]
    exact ⟨rfl, rfl⟩

/-- Where keys are text, escape ends the key that is waited for, or the mode. -/
theorem press_of_text {ended : Editor}
    (pressed : editor.pressInMode key =
      if editor.pending.awaited ≠ .command then editor.stopWaiting.done else ended.done) :
    (editor.press key).1 =
      if editor.pending.awaited = .command then ended.settle else editor.stopWaiting.settle := by
  by_cases awaits : editor.pending.awaited = .command
  · rw [if_neg (not_not_intro awaits)] at pressed
    rw [if_pos awaits]
    exact congrArg Prod.fst (press_of_done pressed)
  · rw [if_pos awaits] at pressed
    rw [if_neg awaits]
    exact congrArg Prod.fst (press_of_done pressed)

theorem press_escape_typing (typing : editor.mode.isTyping = true) :
    (editor.press .escape).1 =
      if editor.pending.awaited = .command then editor.stopWaiting.finishTyping.settle
      else editor.stopWaiting.settle := by
  refine press_of_text ?_
  rw [pressInMode_typing .escape typing]
  rfl

theorem press_escape_prompt (prompt : editor.mode = .commandLine) :
    (editor.press .escape).1 =
      if editor.pending.awaited = .command then
        Editor.settle { editor.stopWaiting with mode := .normal }
      else editor.stopWaiting.settle := by
  refine press_of_text ?_
  rw [pressInMode_prompt .escape prompt]
  rfl

/-- Escape ends the selection, or the key that is waited for. -/
theorem press_escape_visual {kind : SelectionKind} {target : ReturnMode} (orderly : editor.Orderly)
    (visual : editor.mode = .visual kind target) :
    (editor.press .escape).1.pending = {} ∧ (editor.press .escape).1.mode =
      if editor.pending.awaited = .command then target.mode else .visual kind target := by
  have pressed := pressInMode_visual .escape visual
  have ends : (editor.pressVisual kind target .escape).2 ≠ .pending ∧
      (editor.pressVisual kind target .escape).1.mode =
        if editor.pending.awaited = .command then target.mode else .visual kind target := by
    have awaits := orderly.awaits
    rw [visual] at awaits
    unfold pressVisual
    cases awaited : editor.pending.awaited with
    | command => exact ⟨nofun, mode_endSelection _ target⟩
    | afterG | afterZ | registerName | findTarget | replacement | markToReach =>
      exact ⟨nofun, visual⟩
    | markToSet | digraphFirst | digraphSecond | registerToType | literal =>
      rw [awaited] at awaits
      cases awaits
  have taken : editor.commandLeft .escape = {} := by
    rw [commandLeft_visual .escape visual, if_neg fun both => nomatch both.2]
  rw [← pressed] at ends
  rw [← ends.2]
  refine press_clears orderly ends.1 taken ?_
  rw [ends.2]
  split
  · cases target <;> nofun
  · nofun

/-- Escape leaves what has been typed of a command when it ends a selection for typed text. -/
theorem press_escape_select {kind : SelectionKind} {target : ReturnMode}
    (select : editor.mode = .select kind target) :
    (editor.press .escape).1.pending = editor.pending ∧
      (editor.press .escape).1.mode = target.mode := by
  have pressed : editor.pressInMode .escape = (editor.endSelection target).done :=
    pressInMode_select .escape select
  rw [press_of_done pressed]
  exact ⟨editor.pending_endSelection target, editor.mode_endSelection target⟩

/-- Escape ends any command that is typed in normal mode. -/
theorem press_escape_normal (orderly : editor.Orderly) (normal : editor.mode = .normal) :
    (editor.press .escape).1.pending = {} ∧ (editor.press .escape).1.mode = .normal := by
  have pressed := pressInMode_normal .escape normal
  have ends : (editor.pressNormal .escape).2 ≠ .pending ∧
      (editor.pressNormal .escape).1.mode = .normal := by
    have awaits := orderly.awaits
    rw [normal] at awaits
    unfold pressNormal
    cases awaited : editor.pending.awaited with
    | command => exact ⟨step_doneIf _ _, normal⟩
    | afterG | afterZ | registerName | findTarget | replacement | markToSet | markToReach =>
      exact ⟨nofun, normal⟩
    | digraphFirst | digraphSecond | registerToType | literal =>
      rw [awaited] at awaits
      cases awaits
  have taken : editor.commandLeft .escape = {} := by
    rw [commandLeft_normal .escape normal, if_neg fun both => nomatch both.2]
  rw [← pressed] at ends
  rw [← ends.2]
  refine press_clears orderly ends.1 taken ?_
  rw [ends.2]
  nofun

theorem escapesLeft_press_typing (typing : editor.mode.isTyping = true) :
    (editor.press .escape).1.escapesLeft ≤ editor.escapesLeft - 1 := by
  have rank (editor : Editor) (typing : editor.mode.isTyping = true) :
      editor.escapesLeft = (1 + if editor.pending.awaited = .command then 0 else 1) +
        if editor.stopWaiting.pending = {} then 0 else 1 := by
    unfold escapesLeft
    rcases Mode.insert_or_replace typing with mode | mode <;> rw [mode]
  rw [press_escape_typing typing, rank editor typing]
  split
  · obtain ⟨pending, normal, _⟩ := editor.stopWaiting.finishTyping_spec
    rw [escapesLeft_settle, escapesLeft_normal normal, pending]
    omega
  · have stopped : editor.stopWaiting.escapesLeft =
        1 + if editor.stopWaiting.pending = {} then 0 else 1 :=
      rank editor.stopWaiting typing
    rw [escapesLeft_settle, stopped]
    omega

/-- Each escape gets one step further out. -/
theorem escapesLeft_press (orderly : editor.Orderly) :
    (editor.press .escape).1.escapesLeft ≤ editor.escapesLeft - 1 := by
  cases mode : editor.mode with
  | normal =>
    obtain ⟨clear, normal⟩ := press_escape_normal orderly mode
    rw [escapesLeft_normal normal, if_pos clear]
    exact Nat.zero_le _
  | operatorPending operator target =>
    obtain ⟨clear, normal⟩ := press_escape_operator mode
    rw [escapesLeft_normal normal, if_pos clear]
    exact Nat.zero_le _
  | insert | replace => exact escapesLeft_press_typing (mode ▸ rfl)
  | visual kind target =>
    obtain ⟨clear, ended⟩ := press_escape_visual orderly mode
    have before : editor.escapesLeft =
        2 + if editor.pending.awaited = .command then 0 else 1 := by
      unfold escapesLeft
      rw [mode]
    rw [before]
    by_cases awaits : editor.pending.awaited = .command
    · rw [if_pos awaits] at ended ⊢
      have left := escapesLeft_returnTo ended (congrArg Pending.awaited clear)
      rw [if_pos clear] at left
      exact left
    · rw [if_neg awaits] at ended ⊢
      -- Only the key that was waited for is given up, and the selection stays.
      unfold escapesLeft
      rw [ended, clear]
      exact Nat.le_refl 2
  | select kind target =>
    -- What was typed of a command may be left, and ending a selection may begin to take text again.
    obtain ⟨kept, ended⟩ := press_escape_select mode
    have awaits := (congrArg Pending.awaited kept).trans (awaits_select orderly mode)
    have left := escapesLeft_returnTo ended awaits
    have before : editor.escapesLeft = 3 := by
      unfold escapesLeft
      rw [mode]
    rw [before]
    refine left.trans ?_
    split <;> omega
  | commandLine =>
    rw [press_escape_prompt mode]
    have before : editor.escapesLeft =
        1 + if editor.pending.awaited = .command then 0 else 1 := by
      unfold escapesLeft
      rw [mode]
    have clear : editor.stopWaiting.pending = {} := orderly.prompt mode
    rw [before]
    split
    · rw [escapesLeft_settle, escapesLeft_normal rfl]
      exact Nat.le_of_eq (if_pos clear)
    · rw [escapesLeft_settle]
      unfold escapesLeft
      rw [show editor.stopWaiting.mode = .commandLine from mode]
      exact Nat.le_refl 1

/-- By induction on how often escape is pressed. -/
theorem escapesLeft_pressAll (times : Nat) (orderly : editor.Orderly) :
    (editor.pressAll (List.replicate times .escape)).escapesLeft ≤ editor.escapesLeft - times := by
  induction times generalizing editor with
  | zero => exact Nat.le_refl _
  | succ times ih =>
    have next := ih (editor.orderly_press .escape orderly)
    have step := escapesLeft_press orderly
    have pressed : editor.pressAll (List.replicate (times + 1) .escape) =
        (editor.press .escape).1.pressAll (List.replicate times .escape) := rfl
    rw [pressed]
    omega

/-- In normal mode nothing is selected, and no transaction is open. -/
theorem Sound.free {start : Journal} (sound : editor.Sound start) (normal : editor.mode = .normal)
    (clear : editor.pending = {}) : editor.Free := by
  refine ⟨normal, clear, ?_, sound.closed (normal ▸ rfl)⟩
  intro caret member
  have selects := sound.selects caret member
  rw [normal] at selects
  exact Option.isNone_iff_eq_none.mp (Option.isSome_eq_false_iff.mp selects)

theorem mode_escape (editor : Editor) : editor.escape.mode = .normal := by
  have ended (target : ReturnMode) :
      (if (editor.endSelection target).mode.isTyping then (editor.endSelection target).finishTyping
        else editor.endSelection target).mode = .normal := by
    have mode := editor.mode_endSelection target
    split
    · exact (editor.endSelection target).finishTyping_spec.2.1
    · rename_i notTyping
      rw [mode] at notTyping ⊢
      cases target with
      | normal => rfl
      | insert | replace => exact absurd rfl notTyping
  unfold escape
  dsimp only
  cases editor.mode with
  | insert | replace => exact editor.finishTyping_spec.2.1
  | visual kind target | select kind target => exact ended target
  | operatorPending | commandLine | normal => rfl

/-- Where escape need not be pressed, nothing is going on. -/
theorem free_of_escapesLeft {start : Journal} (sound : editor.Sound start)
    (none : editor.escapesLeft = 0) : editor.Free := by
  have out : editor.mode = .normal ∧ editor.pending = {} := by
    unfold escapesLeft at none
    cases mode : editor.mode with
    | normal =>
      rw [mode] at none
      refine ⟨rfl, by_contra fun typed => ?_⟩
      rw [if_neg typed] at none
      cases none
    | _ =>
      rw [mode] at none
      dsimp only at none
      omega
  exact sound.free out.1 out.2

/-- Escape pressed three times leads out of everything, and so does leaving at once. -/
theorem Reached.escapes (unselected : window.Unselected)
    (reached : Reached allows window editor) :
    (editor.pressAll [.escape, .escape, .escape]).Free ∧ editor.escape.Free := by
  have steady : editor.Steady (Session.firstJournal window) False :=
    reached.steady unselected False.elim
  constructor
  · have pressed : Reached anyCall window (editor.pressAll [.escape, .escape, .escape]) :=
      (reached.mono fun _ _ _ => trivial).pressAll fun _ _ _ => trivial
    have sound := (pressed.steady unselected (False.elim : False → _)).sound
    have left : (editor.pressAll [.escape, .escape, .escape]).escapesLeft ≤
        editor.escapesLeft - 3 :=
      escapesLeft_pressAll 3 reached.orderly
    have bound := editor.escapesLeft_le
    exact free_of_escapesLeft sound (by omega)
  · exact (steady_escape steady).sound.free editor.mode_escape rfl

/-- A count in front of a selection for typed text is left by the first escape. -/
theorem Reached.escapes_counted :
    let window : Window := { text := ['a', 'b', 'c'], carets := .single (.ofOffset 0) }
    ∃ editor, Reached anyCall window editor ∧ editor.mode = .select .character .normal ∧
      (editor.press .escape).1.pending = { count? := some 3 } ∧
      (editor.pressAll [.escape, .escape, .escape]).Free ∧ editor.escape.Free := by
  intro window
  have reached : Reached anyCall window
      ((Session.ofWindow window).editor.pressAll [.ofChar '3', .ofChar 'g', .ofChar 'h']) :=
    Reached.start.pressAll fun _ _ _ => trivial
  generalize editorEq : (Session.ofWindow window).editor.pressAll _ = editor at reached
  have selects : editor.mode = .select .character .normal ∧
      (editor.press .escape).1.pending = { count? := some 3 } := by
    rw [← editorEq]
    decide +kernel
  obtain ⟨select, left⟩ := selects
  exact ⟨editor, reached, select, left, Reached.escapes ⟨by decide, by decide⟩ reached⟩

end Editor

end ModalEdit

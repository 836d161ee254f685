import ModalEdit.Proofs.Response.Basic

/-!
What motions, operators and scrolling answer, and the keys that begin them.
-/

set_option autoImplicit false

namespace ModalEdit

namespace Editor

variable {turns stores parts : Prop} {before after : Editor} (editor : Editor)

section

variable {editor : Editor} (edits : (editor.update (·.begin)).Edits after)

include edits

theorem Edits.size : after.carets.size = editor.carets.size :=
  edits.space.size.trans editor.size_begin

theorem Edits.gathered (gathered : editor.Gathered) : after.Gathered :=
  gathered.resized edits.size edits.mode edits.block

theorem Edits.completes (prompt : editor.ClearAtPrompt) : Completes editor.pending after :=
  ⟨edits.pending, fun isPrompt => edits.pending.trans (prompt (edits.mode.symm.trans isPrompt))⟩

end

/-- Carets that cannot be moved stay where they are. -/
theorem responds_moveCarets (destination : Destination) (count? : Option Nat)
    (prompt : editor.ClearAtPrompt) :
    Responds turns stores parts editor.pending editor (editor.moveCarets destination count?) := by
  refine .doneIf ?_ (fun _ => ⟨rfl, prompt⟩)
    (fun gathered => gathered.resized (CaretSet.size_map _ _) rfl rfl)
  intro none
  refine ⟨rfl, rfl, fun _ => rfl, fun _ => CaretSet.map_of_fixed ?_, fun _ => rfl⟩
  intro caret member
  have stuck := List.any_eq_false.mp none caret member
  dsimp only at stuck ⊢
  split
  · rename_i target reached
    rw [reached] at stuck
    exact absurd rfl stuck
  · rfl

theorem responds_moveBy (motion : Motion) :
    Responds turns stores parts {} editor (editor.moveBy motion) :=
  .ofTaken (editor.clearPending.responds_moveCarets _ _ (clearAtPrompt_of_pending rfl))

/-- An operator that acts on nothing leaves the text alone, and goes to normal mode. -/
theorem responds_operate (operator : Operator) (destination : Destination) (count? : Option Nat)
    (register? : Option Char) (notTyping : editor.mode.isTyping = false)
    (normal : ¬turns → editor.mode = .normal) :
    Responds turns stores parts editor.pending editor
      (editor.operate operator destination count? register?) := by
  obtain ⟨applied, any, edits, idle, outcome⟩ :=
    editor.operate_cases operator destination count? register?
  have gathers : editor.Gathered → applied.carets.size = 1 :=
    fun gathered => edits.size.trans (gathered.alone notTyping)
  rw [outcome]
  split
  · rename_i none
    refine .reject (.ofSpares ?_ fun unturned => (normal unturned).symm)
      fun gathered => Or.inl (gathers gathered)
    exact Workspace.spares_transaction (congrArg toWorkspace (idle none))
  · split
    · exact .done ⟨edits.pending, clearAtPrompt_of_mode nofun⟩
        fun gathered => Or.inl (gathers gathered)
    · exact .done ⟨edits.pending, clearAtPrompt_of_mode nofun⟩
        fun gathered => Or.inl (gathers gathered)

theorem responds_operateLines (operator : Operator) (count : Nat) (register? : Option Char)
    (notTyping : editor.mode.isTyping = false) (normal : ¬turns → editor.mode = .normal) :
    Responds turns stores parts editor.pending editor
      (editor.operateLines operator count register?) := by
  rcases editor.operateLines_cases operator count register? with refused | ⟨applied, edits, outcome⟩
  · rw [refused]
    exact .reject ⟨rfl, rfl, fun _ => rfl, fun _ => rfl, fun unturned => (normal unturned).symm⟩
      fun gathered => Or.inl (gathered.alone notTyping)
  · have gathers : editor.Gathered → applied.carets.size = 1 :=
      fun gathered => edits.size.trans (gathered.alone notTyping)
    rw [outcome]
    split
    · exact .done ⟨edits.pending, clearAtPrompt_of_mode nofun⟩
        fun gathered => Or.inl (gathers gathered)
    · exact .done ⟨edits.pending, clearAtPrompt_of_mode nofun⟩
        fun gathered => Or.inl (gathers gathered)

/-- A motion on its own stays in the mode, and one for an operator ends it. -/
theorem responds_go (destination : Destination) (operator? : Option Operator)
    (notTyping : editor.mode.isTyping = false) (alone : ¬turns → operator? = none) :
    Responds turns stores parts {} editor (editor.go destination operator?) := by
  unfold go takePending
  dsimp only
  refine .ofTaken ?_
  cases operator? with
  | none => exact editor.clearPending.responds_moveCarets _ _ (clearAtPrompt_of_pending rfl)
  | some operator =>
    exact editor.clearPending.responds_operate operator _ _ _ notTyping
      fun unturned => nomatch alone unturned

theorem responds_findKey (key : Key) (forward till : Bool) (operator? : Option Operator)
    (notTyping : editor.mode.isTyping = false) (alone : ¬turns → operator? = none) :
    Responds turns stores parts {} editor (editor.findKey key forward till operator?) := by
  unfold findKey
  split
  · exact .unused (.refl editor)
  · refine .of_resembles (responds_go _ _ _ ?_ alone) ⟨rfl, rfl, rfl, rfl, rfl, rfl⟩ id
    exact notTyping

theorem responds_markKey (key : Key) (linewise : Bool) (operator? : Option Operator)
    (notTyping : editor.mode.isTyping = false) (alone : ¬turns → operator? = none) :
    Responds turns stores parts {} editor (editor.markKey key linewise operator?) := by
  unfold markKey
  split
  · exact .unused (.refl editor)
  · split
    · exact .unused ⟨rfl, rfl, rfl, rfl, rfl, rfl⟩
    · exact editor.responds_go _ _ notTyping alone

/-- More of the command has been typed, and a command is awaited still. -/
theorem Responds.typed {left pending : Pending} (awaits : pending.awaited = .command)
    (takes : editor.mode.takesMotions = true) :
    Responds turns stores parts left editor ({ editor with pending }, .pending) := by
  refine ⟨nofun, fun _ absurd => (absurd rfl).elim, fun _ => ⟨⟨?_, ?_⟩, fun _ => Or.inl takes⟩,
    fun _ => id⟩
  · rw [awaits]
    rfl
  · exact clearAtPrompt_of_mode (Mode.ne_commandLine_of_takesMotions takes)

theorem responds_registerKey (key : Key) (awaits : editor.pending.awaited = .command)
    (takes : editor.mode.takesMotions = true) :
    Responds turns stores parts {} editor (editor.registerKey key) := by
  unfold registerKey
  split
  · split
    · exact .typed editor awaits takes
    · exact .unused (.refl editor)
  · exact .unused (.refl editor)

theorem responds_countKey {left : Pending} (key : Key) (awaits : editor.pending.awaited = .command)
    (takes : editor.mode.takesMotions = true) :
    IfAny (Responds turns stores parts left editor) (editor.countKey? key) := by
  unfold countKey?
  split
  · exact .ofNone
  · split
    · exact .ofSome (.typed editor awaits takes)
    · exact .ofNone

theorem responds_motionStart (key : Key) (operator? : Option Operator)
    (takes : editor.mode.takesMotions = true) (alone : ¬turns → operator? = none) :
    IfAny (Responds turns stores parts {} editor) (editor.motionStart? key operator?) := by
  have notTyping := Mode.isTyping_of_takesMotions takes
  have notPrompt : editor.stopWaiting.ClearAtPrompt :=
    clearAtPrompt_of_mode (Mode.ne_commandLine_of_takesMotions takes)
  have repeated (find? : Option Find) (turn : Find → Find) :
      Responds turns stores parts {} editor (find?.elim editor.reject fun find =>
        editor.go (.motion (.repeatFind (turn find))) operator?) :=
    IfAny.elim (.unused (.refl editor)) fun find _ => editor.responds_go _ _ notTyping alone
  unfold motionStart?
  split
  · exact .ofSome (.await takes notPrompt)
  · exact .ofSome (.await takes notPrompt)
  · exact .ofSome (.await takes notPrompt)
  · exact .ofSome (.await takes notPrompt)
  · exact .ofSome (.await takes notPrompt)
  · exact .ofSome (.await takes notPrompt)
  · exact .ofSome (.await takes notPrompt)
  · exact .ofSome (repeated editor.lastFind? id)
  · exact .ofSome (repeated editor.lastFind? Find.reversed)
  · exact .ofNone

theorem step_doneIf (any : Bool) : (editor.doneIf any).2 ≠ .pending := by
  cases any <;> nofun

theorem step_moveBy (motion : Motion) : (editor.moveBy motion).2 ≠ .pending :=
  step_doneIf _ _

/-- A key that scrolls needs no other one. -/
theorem step_scrollKey (key : Key) :
    IfAny (fun outcome => outcome.2 ≠ .pending) (editor.scrollKey? key) := by
  unfold scrollKey?
  split
  · exact .ofSome (step_doneIf _ _)
  · split
    · exact .ofSome (step_doneIf _ _)
    · split
      · exact .ofSome (step_doneIf _ _)
      · split
        · exact .ofSome (step_doneIf _ _)
        · exact .ofNone

/-- Scrolling leaves as many carets as there are. -/
theorem Gathered.scrolled {editor : Editor} {window : Window} (gathered : editor.Gathered)
    (scrolls : editor.window.Scrolls window) : (editor.setWindow window).Gathered :=
  gathered.resized scrolls.size rfl rfl

/-- Where the bell rings, the carets have not been moved. -/
theorem responds_afterScroll {result : Window × Movement} (prompt : editor.ClearAtPrompt)
    (scrolls : editor.window.Scrolls result.1)
    (stays : result.2 = .stayed true → result.1.carets = editor.carets) :
    Responds turns stores parts editor.pending editor (editor.afterScroll result) := by
  refine .doneIf ?_ (fun _ => ⟨rfl, prompt⟩) fun gathered => gathered.scrolled scrolls
  intro bell
  have stayed : result.2 = .stayed true := by
    by_contra moved
    rw [bne_iff_ne.mpr moved] at bell
    cases bell
  exact ⟨scrolls.text, rfl, fun _ => rfl, fun _ => stays stayed, fun _ => rfl⟩

theorem responds_scrollByPages (down : Bool) :
    Responds turns stores parts {} editor (editor.scrollByPages down) :=
  .ofTaken (editor.clearPending.responds_afterScroll (clearAtPrompt_of_pending rfl)
    (Window.scrolls_scrollPages _ _ _ _) Window.carets_scrollPages_of_stayed)

/-- A count is stored as an option, whether there is anything to scroll or not. -/
theorem responds_scrollByHalf (down : Bool)
    (uncounted : ¬stores → editor.pending.effectiveCount? = none) :
    Responds turns stores parts {} editor (editor.scrollByHalf down) := by
  unfold scrollByHalf takePending
  dsimp only
  cases counted : editor.pending.effectiveCount? with
  | none =>
    exact .ofTaken (editor.clearPending.responds_afterScroll (clearAtPrompt_of_pending rfl)
      (Window.scrolls_scrollHalfPage _ _ _ _) Window.carets_scrollHalfPage_of_stayed)
  | some count =>
    have stored : stores := by
      by_contra unstored
      rw [uncounted unstored] at counted
      cases counted
    dsimp only
    generalize changedEq : editor.clearPending.update _ = changed
    have same : changed.window = editor.window ∧ changed.registers = editor.registers ∧
        changed.mode = editor.mode ∧ changed.pending = {} ∧ changed.typing = editor.typing := by
      rw [← changedEq]
      exact ⟨rfl, rfl, rfl, rfl, rfl⟩
    obtain ⟨window, registers, mode, pending, typing⟩ := same
    generalize halfPageAmount _ _ = amount
    have scrolled : Responds turns stores parts changed.pending changed
        (changed.afterScroll (changed.window.scrollHalfPage down amount changed.scrolling)) :=
      changed.responds_afterScroll (clearAtPrompt_of_pending pending)
        (Window.scrolls_scrollHalfPage _ _ _ _) Window.carets_scrollHalfPage_of_stayed
    rw [pending] at scrolled
    refine scrolled.of_refuses ?_ (fun _ gathered => gathered.resized
      (congrArg (fun window => window.carets.size) window) mode (congrArg Typing.block typing))
      fun _ _ => Or.inr (congrArg (fun pending => { pending with awaited := .command }) pending)
    exact ⟨congrArg Window.text window, registers, fun unstored => absurd stored unstored,
      fun _ => congrArg Window.carets window, fun _ => mode⟩

theorem responds_scrollByLines (down : Bool) :
    Responds turns stores parts {} editor (editor.scrollByLines down) :=
  .ofTaken (editor.clearPending.responds_afterScroll (clearAtPrompt_of_pending rfl)
    (Window.scrolls_scrollLines _ _ _ _) Window.carets_scrollLines_of_stayed)

theorem responds_scrollKey (key : Key)
    (uncounted : ¬stores → (key.isCtrl 'd' || key.isCtrl 'u') = true →
      editor.pending.effectiveCount? = none) :
    IfAny (Responds turns stores parts {} editor) (editor.scrollKey? key) := by
  unfold scrollKey?
  split
  · exact .ofSome (editor.responds_scrollByPages true)
  · split
    · exact .ofSome (editor.responds_scrollByPages false)
    · split
      · rename_i half
        exact .ofSome (editor.responds_scrollByHalf _ fun unstored => uncounted unstored half)
      · split
        · exact .ofSome (editor.responds_scrollByLines _)
        · exact .ofNone

theorem responds_scrollAfterZ (key : Key) :
    Responds turns stores parts {} editor (editor.scrollAfterZ key) := by
  have done {window : Window} (scrolls : editor.window.Scrolls window) :
      Responds turns stores parts {} editor (editor.clearPending.setWindow window).done :=
    .done ⟨rfl, clearAtPrompt_of_pending rfl⟩ fun gathered => gathered.scrolled scrolls
  have toPlace (place : ScreenPlace) (count? : Option Nat) (firstNonBlank : Bool) :
      Responds turns stores parts {} editor (editor.clearPending.setWindow
        (editor.window.scrollLineTo place count? firstNonBlank
          editor.clearPending.scrolling)).done :=
    done (Window.scrolls_scrollLineTo _ _ _ _ _)
  have byColumns (right : Bool) (count : Nat) :
      Responds turns stores parts {} editor (editor.clearPending.afterScroll
        (editor.window.scrollColumns right count editor.clearPending.scrolling)) :=
    .ofTaken (editor.clearPending.responds_afterScroll (clearAtPrompt_of_pending rfl)
      (Window.scrolls_scrollColumns _ _ _ _) Window.carets_scrollColumns_of_stayed)
  have toEdge (left : Bool) :
      Responds turns stores parts {} editor (editor.clearPending.setWindow
        (editor.window.scrollColumnToEdge left editor.clearPending.scrolling)).done :=
    done (Window.scrolls_scrollColumnToEdge _ _ _)
  unfold scrollAfterZ takePending
  dsimp only
  split
  · exact toPlace _ _ _
  · exact byColumns _ _
  · exact byColumns _ _
  · exact toPlace _ _ _
  · exact toPlace _ _ _
  · exact toPlace _ _ _
  · exact toPlace _ _ _
  · exact toPlace _ _ _
  · exact byColumns _ _
  · exact byColumns _ _
  · exact byColumns _ _
  · exact byColumns _ _
  · exact toEdge _
  · exact toEdge _
  · exact .unused ⟨rfl, rfl, rfl, rfl, rfl, rfl⟩

end Editor

end ModalEdit

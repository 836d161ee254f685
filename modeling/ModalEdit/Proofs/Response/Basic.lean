import ModalEdit.Proofs.Caret.Size
import ModalEdit.Proofs.Session.Calls

/-!
What a key answers: how much of the editor a key that cannot be used here may have touched, how much of
the command is left when it is completed, what the editor waits for otherwise, and whether the carets
added for a block are still accounted for.
-/

set_option autoImplicit false

namespace ModalEdit

namespace Mode

/-- The modes in which keys are commands. -/
def takesCommands : Mode → Bool
  | normal | visual .. => true
  | _ => false

/-- The modes in which a motion may take two keys. -/
def takesMotions : Mode → Bool
  | normal | visual .. | operatorPending .. => true
  | _ => false

/-- The modes in which keys are text. -/
def takesText : Mode → Bool
  | insert | replace | commandLine => true
  | _ => false

/-- Whether a key of a kind may be awaited in the mode. -/
def awaits (mode : Mode) : Awaited → Bool
  | .command => true
  | .afterG | .findTarget .. | .markToReach _ => mode.takesMotions
  | .afterZ | .registerName | .replacement => mode.takesCommands
  | .markToSet => mode = .normal
  | .digraphFirst | .digraphSecond _ | .registerToType | .literal => mode.takesText

theorem insert_or_replace {mode : Mode} (typing : mode.isTyping = true) :
    mode = insert ∨ mode = replace := by
  cases mode with
  | insert => exact Or.inl rfl
  | replace => exact Or.inr rfl
  | _ => cases typing

theorem takesCommands_cases {mode : Mode} (takes : mode.takesCommands = true) :
    mode = normal ∨ ∃ kind target, mode = visual kind target := by
  cases mode with
  | normal => exact Or.inl rfl
  | visual kind target => exact Or.inr ⟨kind, target, rfl⟩
  | _ => cases takes

theorem takesMotions_cases {mode : Mode} (takes : mode.takesMotions = true) :
    mode = normal ∨ (∃ kind target, mode = visual kind target) ∨
      ∃ operator target, mode = operatorPending operator target := by
  cases mode with
  | normal => exact Or.inl rfl
  | visual kind target => exact Or.inr (Or.inl ⟨kind, target, rfl⟩)
  | operatorPending operator target => exact Or.inr (Or.inr ⟨operator, target, rfl⟩)
  | _ => cases takes

theorem takesMotions_of_takesCommands {mode : Mode} (takes : mode.takesCommands = true) :
    mode.takesMotions = true := by
  rcases takesCommands_cases takes with rfl | ⟨kind, target, rfl⟩ <;> rfl

theorem takesText_of_isTyping {mode : Mode} (typing : mode.isTyping = true) :
    mode.takesText = true := by
  rcases insert_or_replace typing with rfl | rfl <;> rfl

theorem ne_commandLine_of_isTyping {mode : Mode} (typing : mode.isTyping = true) :
    mode ≠ commandLine := by
  rintro rfl
  cases typing

theorem isTyping_of_takesMotions {mode : Mode} (takes : mode.takesMotions = true) :
    mode.isTyping = false := by
  cases mode with
  | insert | replace => cases takes
  | _ => rfl

theorem ne_commandLine_of_takesMotions {mode : Mode} (takes : mode.takesMotions = true) :
    mode ≠ commandLine := by
  rintro rfl
  cases takes

end Mode

/-- The keys behind `g` that begin a selection for typed text. -/
def Key.selectsBehindG (key : Key) : Bool :=
  key.isCtrl 'h' || key.printable? = some 'h' || key.printable? = some 'H'

theorem Key.moves_of_isCursorKey {key : Key} (cursor : key.isCursorKey = true) :
    key.moves = true := by
  unfold moves
  rw [cursor, Bool.or_true]

namespace Editor

/-- Whether a key completes a command without taking what has been typed of it. It does so where it
begins a selection for typed text, or types text. -/
def keepsCommand (editor : Editor) (key : Key) : Bool :=
  match editor.mode with
  | .normal => editor.pending.awaited = .afterG && key.selectsBehindG
  | .visual .. => editor.pending.awaited = .command && key.isCtrl 'g'
  | .select .. => !key.moves
  | .insert | .replace => !(editor.pending.awaited = .command && key.moves)
  | .operatorPending .. | .commandLine => false

/-- What is left of the command being typed once a key has completed one. -/
def commandLeft (editor : Editor) (key : Key) : Pending :=
  if editor.keepsCommand key then editor.stopWaiting.pending else {}

/-- At the prompt nothing of a command has been typed. -/
def ClearAtPrompt (editor : Editor) : Prop :=
  editor.mode = .commandLine → editor.pending = {}

/-- What the command being typed waits for goes with the mode. -/
structure Orderly (editor : Editor) : Prop where
  awaits : editor.mode.awaits editor.pending.awaited = true
  prompt : editor.stopWaiting.ClearAtPrompt

/-- Where keys are text or replace the selection, nothing of a command has been typed. -/
def Unburdened (editor : Editor) : Prop :=
  editor.mode.takesMotions = true ∨ editor.stopWaiting.pending = {}

/-- There is one caret, or text is typed at carets that were added for a block. -/
def Gathered (editor : Editor) : Prop :=
  editor.carets.size = 1 ∨ editor.mode.isTyping = true ∧ editor.typing.block = true

/-- Nothing is different that a user of the editor would see, other than the command being typed. -/
structure Resembles (before after : Editor) : Prop where
  text : after.text = before.text
  carets : after.carets = before.carets
  registers : after.registers = before.registers
  options : after.options = before.options
  mode : after.mode = before.mode
  typing : after.typing = before.typing

/-- What a key that cannot be used here may have done. The carets and the mode are different only if
the key turns to another mode first, and the options only if it stores something there. -/
structure Refuses (turns stores : Prop) (before after : Editor) : Prop where
  text : after.text = before.text
  registers : after.registers = before.registers
  options : ¬stores → after.options = before.options
  carets : ¬turns → after.carets = before.carets
  mode : ¬turns → after.mode = before.mode

/-- What is left of the command once it is completed. -/
structure Completes (left : Pending) (after : Editor) : Prop where
  pending : after.pending = left
  prompt : after.ClearAtPrompt

/-- What an editor that waits for more keys has come to. -/
structure Waits (before after : Editor) : Prop where
  orderly : after.Orderly
  unburdened : before.Unburdened → after.Unburdened

/-- What a key leads to. The carets of a block stay accounted for unless the key parts with them. -/
structure Responds (turns stores parts : Prop) (left : Pending) (before : Editor)
    (outcome : Outcome) : Prop where
  refuses : outcome.2 = .rejected → Refuses turns stores before outcome.1
  completes : outcome.2 ≠ .rejected → outcome.2 ≠ .pending → Completes left outcome.1
  waits : outcome.2 = .pending → Waits before outcome.1
  gathers : ¬parts → before.Gathered → outcome.1.Gathered

variable {turns stores parts : Prop} {left : Pending} {editor before after : Editor}
  {outcome : Outcome}

theorem Gathered.alone (gathered : editor.Gathered) (notTyping : editor.mode.isTyping = false) :
    editor.carets.size = 1 := by
  rcases gathered with alone | ⟨typing, _⟩
  · exact alone
  · rw [notTyping] at typing
    cases typing

/-- As many carets, in the same mode. -/
theorem Gathered.resized (gathered : before.Gathered)
    (size : after.carets.size = before.carets.size) (mode : after.mode = before.mode)
    (block : after.typing.block = before.typing.block) : after.Gathered := by
  unfold Gathered
  rw [size, mode, block]
  exact gathered

theorem Resembles.refl (editor : Editor) : editor.Resembles editor :=
  ⟨rfl, rfl, rfl, rfl, rfl, rfl⟩

theorem Resembles.gathered (same : before.Resembles after) (gathered : before.Gathered) :
    after.Gathered :=
  gathered.resized (congrArg CaretSet.size same.carets) same.mode (congrArg Typing.block same.typing)

theorem Resembles.refuses (same : before.Resembles after) : Refuses turns stores before after :=
  ⟨same.text, same.registers, fun _ => same.options, fun _ => same.carets, fun _ => same.mode⟩

theorem Refuses.trans {middle : Editor} (first : Refuses turns stores before middle)
    (second : Refuses turns stores middle after) : Refuses turns stores before after :=
  ⟨second.text.trans first.text, second.registers.trans first.registers,
    fun unstored => (second.options unstored).trans (first.options unstored),
    fun unturned => (second.carets unturned).trans (first.carets unturned),
    fun unturned => (second.mode unturned).trans (first.mode unturned)⟩

/-- Where the key turns to another mode, the text, the registers and the options are the same. -/
theorem Refuses.ofTurned (turned : turns) (text : after.text = before.text)
    (registers : after.registers = before.registers) (options : after.options = before.options) :
    Refuses turns stores before after :=
  ⟨text, registers, fun _ => options, fun unturned => absurd turned unturned,
    fun unturned => absurd turned unturned⟩

/-- A workspace in which nothing was edited, in a mode that stays unless the key turns. -/
theorem Refuses.ofSpares (spares : before.toWorkspace.Spares after.toWorkspace)
    (mode : ¬turns → after.mode = before.mode) : Refuses turns stores before after :=
  ⟨congrArg Window.text spares.window, spares.registers, fun _ => spares.options,
    fun _ => congrArg Window.carets spares.window, mode⟩

theorem pending_stopWaiting (awaits : editor.pending.awaited = .command) :
    editor.stopWaiting.pending = editor.pending := by
  unfold stopWaiting
  rw [← awaits]

theorem clearAtPrompt_of_pending (clear : editor.pending = {}) : editor.ClearAtPrompt :=
  fun _ => clear

theorem clearAtPrompt_of_mode (notPrompt : editor.mode ≠ .commandLine) : editor.ClearAtPrompt :=
  fun prompt => absurd prompt notPrompt

namespace Responds

theorem done (completes : Completes left after) (gathers : before.Gathered → after.Gathered) :
    Responds turns stores parts left before after.done :=
  ⟨nofun, fun _ _ => completes, nofun, fun _ => gathers⟩

theorem reject (refuses : Refuses turns stores before after)
    (gathers : before.Gathered → after.Gathered) :
    Responds turns stores parts left before after.reject :=
  ⟨fun _ => refuses, fun absurd => (absurd rfl).elim, nofun, fun _ => gathers⟩

/-- A key that was not used at all. -/
theorem unused (same : before.Resembles after) :
    Responds turns stores parts left before after.reject :=
  reject same.refuses same.gathered

theorem doneIf {any : Bool} (refuses : any = false → Refuses turns stores before after)
    (completes : any = true → Completes left after) (gathers : before.Gathered → after.Gathered) :
    Responds turns stores parts left before (after.doneIf any) := by
  cases any with
  | false => exact reject (refuses rfl) gathers
  | true => exact done (completes rfl) gathers

theorem await {awaited : Awaited} (awaits : editor.mode.awaits awaited = true)
    (prompt : editor.stopWaiting.ClearAtPrompt) :
    Responds turns stores parts left editor (editor.await awaited) :=
  ⟨nofun, fun _ absurd => (absurd rfl).elim, fun _ => ⟨⟨awaits, prompt⟩, id⟩, fun _ => id⟩

/-- What is answered after something that even a key that cannot be used may do. -/
theorem of_refuses (responds : Responds turns stores parts left after outcome)
    (first : Refuses turns stores before after)
    (gathers : ¬parts → before.Gathered → after.Gathered)
    (unburdened : outcome.2 = .pending → before.Unburdened → after.Unburdened) :
    Responds turns stores parts left before outcome := by
  refine ⟨fun rejected => first.trans (responds.refuses rejected), responds.completes, ?_,
    fun stays gathered => responds.gathers stays (gathers stays gathered)⟩
  intro pending
  obtain ⟨orderly, unburdens⟩ := responds.waits pending
  exact ⟨orderly, fun free => unburdens (unburdened pending free)⟩

/-- What is answered from an editor that looks the same. -/
theorem of_resembles (responds : Responds turns stores parts left after outcome)
    (same : before.Resembles after) (unburdened : before.Unburdened → after.Unburdened) :
    Responds turns stores parts left before outcome :=
  responds.of_refuses same.refuses (fun _ => same.gathered) fun _ => unburdened

/-- The command has ended being typed before. -/
theorem ofTaken (responds : Responds turns stores parts {} editor.clearPending outcome) :
    Responds turns stores parts {} editor outcome :=
  responds.of_resembles ⟨rfl, rfl, rfl, rfl, rfl, rfl⟩ fun _ => Or.inr rfl

end Responds

end Editor

end ModalEdit

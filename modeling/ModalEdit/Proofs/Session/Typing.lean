import ModalEdit.Proofs.Response.Counts
import ModalEdit.Proofs.Session.Reachable
import ModalEdit.Proofs.Session.Strokes

/-!
Typing where nothing is mapped: each key reaches the editor at once, and what the editor reports is
shown.
-/

set_option autoImplicit false

namespace ModalEdit

/-- Without mappings every key stands for itself. -/
theorem MappingTable.resolve_unmapped {table : MappingTable} (unmapped : table.entries = [])
    (modes : MapModes) (key : Key) (rest : List Key) (flush : Bool) :
    table.resolve modes (key :: rest) flush = .raw := by
  apply resolve_plain
  intro mapping member
  unfold within at member
  rw [unmapped] at member
  cases member

namespace Session

/-- Nothing is mapped, and no key waits for a mapping. -/
structure Unmapped (session : Session) : Prop where
  mappings : session.mappings.entries = []
  typeahead : session.typeahead = []

/-- A session between two commands: in normal mode, with one caret that rests, and without mappings. -/
structure Resting (session : Session) : Prop extends session.Unmapped where
  mode : session.editor.mode = .normal
  pending : session.editor.pending = {}
  alone : session.editor.carets.size = 1
  rests : session.text.clampCaret session.editor.window.caret false = session.editor.window.caret

variable {session : Session} {key : Key}

section Reachable

variable {window : Window} {caret : Caret} (single : window.carets = .single caret)
  (unselected : caret.anchor? = none)
  (rests : window.text.clampCaret caret.offset false = caret.offset)
  (reachable : Reachable window session) (unmapped : session.Unmapped)

include single unselected rests reachable

theorem Reachable.caret_rests (onCharacter : session.editor.mode.caretPastEnd = false) :
    session.text.clampCaret session.editor.window.caret false = session.editor.window.caret := by
  obtain ⟨_, _, _, standing⟩ := reachable.carets_rest single unselected rests
  have primary : session.editor.carets.primary ∈ session.editor.carets.toList :=
    List.mem_append_right _ List.mem_cons_self
  obtain ⟨_, clamped, _⟩ := standing _ primary
  rwa [onCharacter] at clamped

include unmapped

/-- Between commands every session that began with a single caret at rest rests, if it has no more carets
and no mappings. -/
theorem Reachable.resting (mode : session.editor.mode = .normal)
    (pending : session.editor.pending = {}) (alone : session.editor.carets.size = 1) :
    session.Resting :=
  ⟨unmapped, mode, pending, alone,
    reachable.caret_rests single unselected rests (congrArg Mode.caretPastEnd mode)⟩

end Reachable

theorem drain_unmapped (press : KeyRunner) (unmapped : session.mappings.entries = [])
    (expansions : Nat) (result : KeyResult) :
    drain press false expansions [key] session result =
      (press session key).map fun (session, result) => (session, [], result) := by
  have drained (next? : Option (List Key → Session → KeyResult → Option Drained)) :
      drainUntilMapped press false next? [key] session result =
        (press session key).map fun (session, result) => (session, [], result) := by
    unfold drainUntilMapped
    rw [MappingTable.resolve_unmapped unmapped]
    dsimp only
    cases press session key with
    | none => rfl
    | some pressed =>
      obtain ⟨session, result⟩ := pressed
      dsimp only [Option.bind_some, Option.map_some]
      split <;> rfl
  cases expansions with
  | zero => exact drained none
  | succ expansions => exact drained _

/-- The session as a key finds it: at the start of a command nothing is shown any more. -/
def ready (session : Session) : Session :=
  if session.atCommandStart then session.clearStatus else session

theorem ready_spec (session : Session) :
    session.ready.editor = session.editor ∧ session.ready.handlers = session.handlers ∧
      session.ready.mappings = session.mappings := by
  unfold ready
  split <;> exact ⟨rfl, rfl, rfl⟩

/-- A key that is typed reaches the editor. -/
theorem feed_unmapped (unmapped : session.Unmapped) (nesting : Nat) (key : Key) :
    session.feed nesting key = (pressTyped nesting session.ready key).map
      fun (session, result) => ({ session with typeahead := [] }, result) := by
  have start : (if session.typeahead = [] ∧ session.atCommandStart then session.clearStatus
      else session) = session.ready := by
    unfold ready
    rw [unmapped.typeahead]
    simp only [true_and]
  have mappings : session.ready.mappings.entries = [] := by
    rw [session.ready_spec.2.2]
    exact unmapped.mappings
  unfold feed drainTyped
  dsimp only
  rw [start, unmapped.typeahead, List.nil_append, drain_unmapped _ mappings, Option.map_map]
  rfl

end Session

namespace Editor

/-- The editor after what it reports has been shown. -/
def quiet (editor : Editor) : Editor :=
  { editor with message? := none }

end Editor

namespace Session

variable {session : Session} {key : Key} {after : Editor} {step : Step}

theorem collectReport_editor (session : Session) :
    session.collectReport.editor = session.editor.quiet ∧
      session.collectReport.handlers = session.handlers ∧
        session.collectReport.mappings = session.mappings := by
  unfold collectReport Editor.quiet
  cases reported : session.editor.message? with
  | none =>
    refine ⟨?_, rfl, rfl⟩
    show session.editor = { session.editor with message? := none }
    rw [← reported]
  | some message => exact ⟨rfl, rfl, rfl⟩

/-- What is shown, and the options that take effect, leave text, carets, registers and mode alone. -/
theorem shown_editor (session : Session) :
    let shown := session.syncOptions.collectReport.editor
    shown.text = session.editor.text ∧ shown.carets = session.editor.carets ∧
      shown.registers = session.editor.registers ∧ shown.mode = session.editor.mode := by
  intro shown
  have window (tabWidth? : Option Nat) :
      (tabWidth?.elim session.editor.window session.editor.window.setTabWidth).text =
          session.editor.window.text ∧
        (tabWidth?.elim session.editor.window session.editor.window.setTabWidth).carets =
          session.editor.window.carets := by
    cases tabWidth? <;> exact ⟨rfl, rfl⟩
  obtain ⟨text, carets⟩ := window (changedCount? session.editor.options.notices "tabstop")
  obtain ⟨editor, -, -⟩ := collectReport_editor session.syncOptions
  have same : shown = session.syncOptions.editor.quiet := editor
  rw [same]
  exact ⟨text, carets, rfl, rfl⟩

theorem feed_press (unmapped : session.Unmapped) (nesting : Nat)
    (pressed : session.editor.press key = (after, step)) (used : ∀ line, step ≠ .execute line) :
    ∃ fed result, session.feed nesting key = some (fed, result) ∧ fed.Unmapped ∧
      fed.editor = after.quiet ∧ fed.handlers = session.handlers := by
  obtain ⟨editor, handlers, mappings⟩ := session.ready_spec
  obtain ⟨collected, keptHandlers, keptMappings⟩ :=
    collectReport_editor { session.ready with editor := after }
  have taken : ∃ result, pressTyped nesting session.ready key =
      some (collectReport { session.ready with editor := after }, result) := by
    unfold pressTyped pressKey
    rw [editor, pressed]
    cases step with
    | execute line => exact absurd rfl (used line)
    | done | pending | rejected => exact ⟨_, rfl⟩
  obtain ⟨result, taken⟩ := taken
  have fed := feed_unmapped unmapped nesting key
  rw [taken] at fed
  refine ⟨_, result, fed, ⟨?_, rfl⟩, collected, keptHandlers.trans handlers⟩
  rw [← unmapped.mappings, ← mappings]
  exact congrArg MappingTable.entries keptMappings

theorem feedAll_cons (nesting : Nat) (session : Session) (key : Key) (rest : List Key) :
    session.feedAll nesting (key :: rest) = (session.feed nesting key).bind fun fed =>
      (fed.1.feedAll nesting rest).map fun typed => (typed.1, fed.2 :: typed.2) := by
  rw [feedAll]
  cases session.feed nesting key with
  | none => rfl
  | some fed =>
    dsimp only [Option.bind_eq_bind, Option.bind_some]
    cases fed.1.feedAll nesting rest <;> rfl

/-- Keys one after the other. -/
theorem feedAll_append (nesting : Nat) (session : Session) (first second : List Key) :
    session.feedAll nesting (first ++ second) =
      (session.feedAll nesting first).bind fun typed =>
        (typed.1.feedAll nesting second).map fun after => (after.1, typed.2 ++ after.2) := by
  induction first generalizing session with
  | nil =>
    show session.feedAll nesting second = (session.feedAll nesting second).map _
    cases session.feedAll nesting second <;> rfl
  | cons key rest ih =>
    rw [List.cons_append, feedAll_cons, feedAll_cons]
    cases session.feed nesting key with
    | none => rfl
    | some fed =>
      rw [Option.bind_some, Option.bind_some, ih]
      cases fed.1.feedAll nesting rest with
      | none => rfl
      | some typed =>
        rw [Option.bind_some, Option.map_some, Option.bind_some, Option.map_map]
        rfl

end Session

namespace Editor

variable {before middle after : Editor} {key : Key} {keys rest : List Key} {step : Step}

/-- What keys make of an editor where nothing is mapped. The commands known are the same. -/
def Types (before : Editor) (keys : List Key) (after : Editor) : Prop :=
  ∀ nesting, ∀ session : Session, session.Unmapped → session.editor = before →
    ∃ typed results, session.feedAll nesting keys = some (typed, results) ∧ typed.Unmapped ∧
      typed.editor = after ∧ typed.handlers = session.handlers

namespace Types

theorem nil (editor : Editor) : editor.Types [] editor :=
  fun _ session unmapped same => ⟨session, [], rfl, unmapped, same, rfl⟩

theorem cons (pressed : before.press key = (middle, step)) (used : ∀ line, step ≠ .execute line)
    (types : middle.quiet.Types rest after) : before.Types (key :: rest) after := by
  rintro nesting session unmapped rfl
  obtain ⟨fed, result, fedEq, fedUnmapped, fedEditor, fedHandlers⟩ :=
    Session.feed_press unmapped nesting pressed used
  obtain ⟨typed, results, typedEq, typedUnmapped, typedEditor, typedHandlers⟩ :=
    types nesting fed fedUnmapped fedEditor
  refine ⟨typed, result :: results, ?_, typedUnmapped, typedEditor,
    typedHandlers.trans fedHandlers⟩
  rw [Session.feedAll_cons, fedEq, Option.bind_some, typedEq]
  rfl

theorem append (first : before.Types keys middle) (second : middle.Types rest after) :
    before.Types (keys ++ rest) after := by
  intro nesting session unmapped same
  obtain ⟨typed, results, typedEq, typedUnmapped, typedEditor, typedHandlers⟩ :=
    first nesting session unmapped same
  obtain ⟨last, more, lastEq, lastUnmapped, lastEditor, lastHandlers⟩ :=
    second nesting typed typedUnmapped typedEditor
  refine ⟨last, results ++ more, ?_, lastUnmapped, lastEditor, lastHandlers.trans typedHandlers⟩
  rw [Session.feedAll_append, typedEq, Option.bind_some, lastEq]
  rfl

end Types

/-- Keys that are taken in where nothing is left to report. -/
theorem TakesIn.types_quiet (takes : before.TakesIn keys after) :
    before.quiet.Types keys after.quiet := by
  induction takes with
  | nil editor => exact .nil editor.quiet
  | cons pressed _ ih => exact .cons (pressed none) nofun ih

/-- Keys that are taken in, at least one. -/
theorem TakesIn.types (takes : before.TakesIn keys after) (typed : keys ≠ []) :
    before.Types keys after.quiet := by
  cases takes with
  | nil => exact absurd rfl typed
  | cons pressed takes => exact .cons (pressed before.message?) nofun takes.types_quiet

end Editor

end ModalEdit

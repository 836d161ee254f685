import ModalEdit.Editor.Basic
import ModalEdit.Proofs.Caret.Order
import ModalEdit.Proofs.Document.Lines
import ModalEdit.Proofs.Edit.Edited
import ModalEdit.Proofs.Window.Showing

/-!
What holds of the editor between any two keys: selections, transactions and counts go with the mode,
and the history knows every change of the text. Once the editor has settled, the carets also stand
apart from each other where the mode lets them, wherever they stood before.
-/

set_option autoImplicit false

namespace ModalEdit

namespace Editor

/-- The history has come from a first one by operations that are all permitted, unless carets have
strayed behind the end of the text. -/
structure Recorded (start : Journal) (editor : Editor) : Prop where
  inside : editor.strays = 0 → start.LeadsTo editor.journal
  outside : editor.strays ≠ 0 → start.StraysTo editor.journal

/-- What every key keeps, in whatever mode. -/
structure Sound (start : Journal) (editor : Editor) : Prop where
  selects : editor.Selects editor.mode.selectionKind?.isSome
  typing : editor.history.inTransaction = true → editor.mode.isTyping = true
  counting : editor.pending.operatorCount? ≠ none →
    ∃ operator target, editor.mode = .operatorPending operator target
  command : editor.mode.isSelect = true → editor.pending.awaited = .command
  recorded : Recorded start editor

/-- Carets and anchors are in the text. -/
structure Placed (editor : Editor) : Prop where
  offsets : editor.InText
  anchors : ∀ caret ∈ editor.carets.toList, ∀ anchor ∈ caret.anchor?, anchor ≤ editor.text.length

/-- The carets stand apart, and each of them where the mode lets it stand. -/
structure Rested (editor : Editor) : Prop where
  ascending : editor.carets.Ascending
  clamped : ∀ caret ∈ editor.carets.toList,
    editor.text.clampCaret caret.offset editor.mode.caretPastEnd = caret.offset

/-- The carets, the text and where carets may stand are the same, and no selection has begun. -/
structure StandsAs (before after : Editor) : Prop where
  carets : after.carets = before.carets
  text : after.text = before.text
  pastEnd : after.mode.caretPastEnd = before.mode.caretPastEnd
  visual : after.mode.isVisual = true → before.mode.isVisual = true

/-- Carets at rest stay at rest, and no selection has begun. -/
structure StaysPut (before after : Editor) : Prop where
  placed : before.Placed → after.Placed
  rested : before.Rested → after.Rested
  visual : after.mode.isVisual = true → before.mode.isVisual = true

/-- Nothing is different but what is remembered, typed or reported. -/
structure Matches (before after : Editor) : Prop where
  space : after.toWorkspace = before.toWorkspace
  mode : after.mode = before.mode
  pending : after.pending = before.pending
  strays : after.strays = before.strays

/-- What a key leads to: a sound editor, in which carets are still at rest if more keys are needed. -/
structure Keeps (start : Journal) (before : Editor) (outcome : Outcome) : Prop where
  sound : outcome.1.Sound start
  waits : outcome.2 = .pending → before.StaysPut outcome.1

variable {start : Journal} {editor before after : Editor}

theorem StandsAs.placed (same : before.StandsAs after) (placed : before.Placed) :
    after.Placed := by
  obtain ⟨carets, text, _, _⟩ := same
  constructor
  · unfold Workspace.InText
    rw [carets, text]
    exact placed.offsets
  · rw [carets, text]
    exact placed.anchors

theorem StandsAs.rested (same : before.StandsAs after) (rested : before.Rested) :
    after.Rested := by
  obtain ⟨carets, text, pastEnd, _⟩ := same
  constructor
  · rw [carets]
    exact rested.ascending
  · rw [carets, text, pastEnd]
    exact rested.clamped

theorem StandsAs.staysPut (same : before.StandsAs after) : before.StaysPut after :=
  ⟨same.placed, same.rested, same.visual⟩

theorem Recorded.leadsTo (recorded : before.Recorded start)
    (leads : before.journal.LeadsTo after.journal) (same : after.strays = before.strays) :
    after.Recorded start := by
  constructor
  · intro none
    exact (recorded.inside (same ▸ none)).trans leads
  · intro some
    exact (recorded.outside (same ▸ some)).leadsTo leads

namespace Sound

/-- No transaction is open where keys do not type. -/
theorem closed (sound : editor.Sound start) (notTyping : editor.mode.isTyping = false) :
    editor.history.inTransaction = false := by
  cases opened : editor.history.inTransaction with
  | false => rfl
  | true =>
    have typing := sound.typing opened
    rw [notTyping] at typing
    cases typing

theorem uncounted (sound : editor.Sound start)
    (notPending : ∀ operator target, editor.mode ≠ .operatorPending operator target) :
    editor.pending.operatorCount? = none := by
  by_cases counted : editor.pending.operatorCount? = none
  · exact counted
  · obtain ⟨operator, target, mode⟩ := sound.counting counted
    exact absurd mode (notPending operator target)

theorem clearPending (sound : editor.Sound start) : editor.clearPending.Sound start :=
  ⟨sound.selects, sound.typing, fun counted => absurd rfl counted, fun _ => rfl,
    sound.recorded.leadsTo (.refl _) rfl⟩

theorem stopWaiting (sound : editor.Sound start) : editor.stopWaiting.Sound start :=
  ⟨sound.selects, sound.typing, sound.counting, fun _ => rfl, sound.recorded.leadsTo (.refl _) rfl⟩

theorem ofMatches (sound : before.Sound start) (same : before.Matches after) :
    after.Sound start := by
  constructor
  · rw [same.space, same.mode]
    exact sound.selects
  · rw [same.space, same.mode]
    exact sound.typing
  · rw [same.pending, same.mode]
    exact sound.counting
  · rw [same.pending, same.mode]
    exact sound.command
  · refine sound.recorded.leadsTo ?_ same.strays
    rw [same.space]
    exact .refl _

theorem retype (sound : editor.Sound start) (typing : Typing) :
    Sound start { editor with typing } :=
  sound.ofMatches ⟨rfl, rfl, rfl, rfl⟩

/-- The mode and the command being typed stay as they are. -/
theorem withSpace {space : Workspace} (sound : editor.Sound start)
    (selects : ∀ selecting, editor.Selects selecting → space.Selects selecting)
    (opened : space.history.inTransaction = true → editor.history.inTransaction = true)
    (leads : editor.journal.LeadsTo space.journal) :
    Sound start { editor with toWorkspace := space } :=
  ⟨selects _ sound.selects, fun isOpen => sound.typing (opened isOpen), sound.counting,
    sound.command, sound.recorded.leadsTo leads rfl⟩

/-- Carets may move, as long as each keeps on selecting or not. -/
theorem mapCarets {f : Caret → Caret} (sound : editor.Sound start)
    (keeps : ∀ caret, (f caret).anchor?.isSome = caret.anchor?.isSome) :
    (editor.update (·.mapCarets f)).Sound start := by
  refine sound.withSpace ?_ id (.refl _)
  intro selecting selects caret member
  obtain ⟨old, stood, rfl⟩ := CaretSet.mem_map.mp member
  exact (keeps old).trans (selects old stood)

/-- A mode without selections in which keys type or no transaction is open. -/
theorem plain (recorded : editor.Recorded start) (selects : editor.Selects false)
    (unselecting : editor.mode.selectionKind? = none)
    (typing : editor.history.inTransaction = true → editor.mode.isTyping = true)
    (uncounted : editor.pending.operatorCount? = none) : editor.Sound start := by
  refine ⟨?_, typing, fun counted => absurd uncounted counted, ?_, recorded⟩
  · rw [unselecting]
    exact selects
  · intro isSelect
    cases mode : editor.mode with
    | select kind target =>
      rw [mode] at unselecting
      cases unselecting
    | _ =>
      rw [mode] at isSelect
      cases isSelect

end Sound

/-- Every caret that is left was one before, put where the mode lets it stand. -/
theorem mem_clampCarets {caret : Caret} (member : caret ∈ editor.clampCarets.carets.toList) :
    ∃ old ∈ editor.carets.toList,
      caret.offset = editor.text.clampCaret (min old.offset editor.text.length)
        editor.mode.caretPastEnd ∧
      caret.anchor? = old.anchor?.map (min · editor.text.length) := by
  obtain ⟨old, stood, rfl⟩ := CaretSet.mem_map.mp (CaretSet.mem_of_mem_merge member)
  exact ⟨old, stood, rfl, rfl⟩

theorem placed_clampCarets (editor : Editor) : editor.clampCarets.Placed := by
  constructor
  · intro caret member
    obtain ⟨old, _, offset, _⟩ := mem_clampCarets member
    rw [offset]
    exact Document.clampCaret_le _ _ _
  · intro caret member anchor isAnchor
    obtain ⟨old, _, _, anchors⟩ := mem_clampCarets member
    rw [anchors] at isAnchor
    obtain ⟨place, _, rfl⟩ := Option.map_eq_some_iff.mp isAnchor
    exact Nat.min_le_right place _

theorem rested_clampCarets (editor : Editor) : editor.clampCarets.Rested := by
  constructor
  · exact CaretSet.ascending_merge _
  · intro caret member
    obtain ⟨old, _, offset, _⟩ := mem_clampCarets member
    rw [offset]
    exact Document.clampCaret_clampCaret _ _ _

theorem selects_clampCarets {selecting : Bool} (selects : editor.Selects selecting) :
    editor.clampCarets.Selects selecting := by
  intro caret member
  obtain ⟨old, stood, _, anchors⟩ := mem_clampCarets member
  rw [anchors, Option.isSome_map]
  exact selects old stood

theorem Sound.clampCarets (sound : editor.Sound start) : editor.clampCarets.Sound start :=
  sound.withSpace (fun _ => selects_clampCarets) id (.refl _)

theorem standsAs_settle (editor : Editor) : editor.clampCarets.StandsAs editor.settle :=
  ⟨Window.carets_scrollToCaret _ _, Window.text_scrollToCaret _ _, rfl, id⟩

/-- A caret where the mode lets it stand, with its anchor in the text. -/
def restCaret (editor : Editor) (caret : Caret) : Caret :=
  { caret with
    offset := editor.text.clampCaret (min caret.offset editor.text.length) editor.mode.caretPastEnd
    anchor? := caret.anchor?.map (min · editor.text.length) }

theorem carets_settle_eq (editor : Editor) :
    editor.settle.carets = (editor.carets.map editor.restCaret).merge :=
  editor.standsAs_settle.carets

/-- A caret that stands where the mode lets it stays there. -/
theorem restCaret_of_rests {caret : Caret} (inside : caret.offset ≤ editor.text.length)
    (rests : editor.text.clampCaret caret.offset editor.mode.caretPastEnd = caret.offset)
    (anchors : ∀ anchor ∈ caret.anchor?, anchor ≤ editor.text.length) :
    editor.restCaret caret = caret := by
  have anchor : caret.anchor?.map (min · editor.text.length) = caret.anchor? := by
    cases isAnchor : caret.anchor? with
    | none => rfl
    | some place => exact congrArg some (Nat.min_eq_left (anchors place isAnchor))
  unfold restCaret
  rw [Nat.min_eq_left inside, rests, anchor]

theorem placed_settle (editor : Editor) : editor.settle.Placed :=
  editor.standsAs_settle.placed editor.placed_clampCarets

theorem rested_settle (editor : Editor) : editor.settle.Rested :=
  editor.standsAs_settle.rested editor.rested_clampCarets

/-- The editor on a window that shows the same text and carets. -/
theorem Sound.withView {window : Window} (sound : editor.Sound start)
    (carets : window.carets = editor.carets) (text : window.text = editor.text) :
    Sound start { editor with window } := by
  refine sound.withSpace ?_ id ?_
  · intro selecting selects
    unfold Workspace.Selects Workspace.carets
    rw [carets]
    exact selects
  · unfold Workspace.journal Workspace.text
    rw [text]
    exact .refl _

theorem Sound.settle (sound : editor.Sound start) : editor.settle.Sound start := by
  unfold Editor.settle update
  exact sound.clampCarets.withView (Window.carets_scrollToCaret _ _) (Window.text_scrollToCaret _ _)

namespace Keeps

theorem done (sound : editor.Sound start) : Keeps start before editor.done :=
  ⟨sound, nofun⟩

theorem reject (sound : editor.Sound start) : Keeps start before editor.reject :=
  ⟨sound, nofun⟩

theorem doneIf (sound : editor.Sound start) (any : Bool) :
    Keeps start before (editor.doneIf any) := by
  cases any with
  | false => exact ⟨sound, nofun⟩
  | true => exact ⟨sound, nofun⟩

theorem await (sound : editor.Sound start) (unselecting : editor.mode.isSelect = false)
    (awaited : Awaited) : Keeps start editor (editor.await awaited) := by
  refine ⟨⟨sound.selects, sound.typing, sound.counting, ?_, sound.recorded.leadsTo (.refl _) rfl⟩,
    fun _ => StandsAs.staysPut ⟨rfl, rfl, rfl, id⟩⟩
  intro isSelect
  rw [show (editor.await awaited).1.mode.isSelect = editor.mode.isSelect from rfl,
    unselecting] at isSelect
  cases isSelect

/-- More of the command has been typed. -/
theorem pending {pending : Pending} (sound : editor.Sound start)
    (counts : pending.operatorCount? = editor.pending.operatorCount?)
    (awaits : pending.awaited = editor.pending.awaited) :
    Keeps start editor ({ editor with pending }, .pending) := by
  refine ⟨⟨sound.selects, sound.typing, ?_, ?_, sound.recorded.leadsTo (.refl _) rfl⟩,
    fun _ => StandsAs.staysPut ⟨rfl, rfl, rfl, id⟩⟩
  · rw [counts]
    exact sound.counting
  · rw [awaits]
    exact sound.command

/-- What is answered from an editor that stands as another one is answered from that one. -/
theorem of_standsAs {outcome : Outcome} (keeps : Keeps start after outcome)
    (same : before.StandsAs after) : Keeps start before outcome := by
  refine ⟨keeps.sound, fun pending => ?_⟩
  have stays := keeps.waits pending
  exact ⟨fun placed => stays.placed (same.placed placed),
    fun rested => stays.rested (same.rested rested), fun visual => same.visual (stays.visual visual)⟩

/-- What is answered from carets that have come to rest is answered from anywhere. -/
theorem of_rested {outcome : Outcome} (keeps : Keeps start after outcome)
    (placed : after.Placed) (rested : after.Rested) (unselecting : after.mode.isVisual = false) :
    Keeps start before outcome := by
  refine ⟨keeps.sound, fun pending => ?_⟩
  have stays := keeps.waits pending
  refine ⟨fun _ => stays.placed placed, fun _ => stays.rested rested, fun visual => ?_⟩
  rw [stays.visual visual] at unselecting
  cases unselecting

end Keeps

/-- Something holds of the outcome, if there is one. -/
def IfAny (holds : Outcome → Prop) (outcome? : Option Outcome) : Prop :=
  ∀ outcome, outcome? = some outcome → holds outcome

namespace IfAny

variable {holds : Outcome → Prop} {outcome : Outcome} {first? second? : Option Outcome}
  {Answer : Type} {answer? : Option Answer} {lead : Answer → Outcome}

theorem ofNone : IfAny holds none := by
  intro outcome answered
  cases answered

theorem ofSome (held : holds outcome) : IfAny holds (some outcome) := by
  intro other same
  cases same
  exact held

theorem orElse (first : IfAny holds first?) (second : IfAny holds second?) :
    IfAny holds (first? <|> second?) := by
  cases first? with
  | none => exact second
  | some outcome => exact first

theorem getD (ifAny : IfAny holds first?) (held : holds outcome) :
    holds (first?.getD outcome) := by
  cases first? with
  | none => exact held
  | some other => exact ifAny other rfl

theorem map (leads : ∀ answer, answer? = some answer → holds (lead answer)) :
    IfAny holds (answer?.map lead) := by
  cases answer? with
  | none => exact ofNone
  | some answer => exact ofSome (leads answer rfl)

theorem elim (otherwise : holds outcome)
    (leads : ∀ answer, answer? = some answer → holds (lead answer)) :
    holds (answer?.elim outcome lead) := by
  cases answer? with
  | none => exact otherwise
  | some answer => exact leads answer rfl

end IfAny

/-- Whatever is answered, if anything is, keeps the editor sound. -/
abbrev KeepsIf (start : Journal) (before : Editor) (outcome? : Option Outcome) : Prop :=
  IfAny (Keeps start before) outcome?

end Editor

end ModalEdit

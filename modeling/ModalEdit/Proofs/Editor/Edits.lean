import ModalEdit.Editor.Operate
import ModalEdit.Editor.Scrolling
import ModalEdit.Proofs.Edit.Operator
import ModalEdit.Proofs.Editor.Sound

/-!
Commands that edit: they open a transaction, edit at one caret after the other, and end in a mode
without selections. Whatever the edits are, the history has recorded them.
-/

set_option autoImplicit false

namespace ModalEdit

namespace Editor

variable {start : Journal} {editor before after : Editor}

/-- Edits of the text. They leave the mode and the command being typed as they are. -/
structure Edits (before after : Editor) : Prop where
  space : before.Edited after.toWorkspace
  mode : after.mode = before.mode
  pending : after.pending = before.pending
  block : after.typing.block = before.typing.block
  strays : after.strays = before.strays

/-- An editor that may go to any mode without selections. -/
structure Ready (start : Journal) (editor : Editor) : Prop where
  recorded : editor.Recorded start
  selects : editor.Selects false
  uncounted : editor.pending.operatorCount? = none

namespace Edits

theorem refl (editor : Editor) : editor.Edits editor :=
  ⟨.refl, rfl, rfl, rfl, rfl⟩

theorem trans {last : Editor} (first : before.Edits after) (second : after.Edits last) :
    before.Edits last :=
  ⟨first.space.trans second.space, second.mode.trans first.mode,
    second.pending.trans first.pending, second.block.trans first.block,
    second.strays.trans first.strays⟩

theorem ofSpace {space : Workspace} (edited : editor.Edited space) :
    editor.Edits { editor with toWorkspace := space } :=
  ⟨edited, rfl, rfl, rfl, rfl⟩

theorem retype (edits : before.Edits after) (typing : Typing)
    (block : typing.block = after.typing.block) : before.Edits { after with typing } :=
  ⟨edits.space, edits.mode, edits.pending, block.trans edits.block, edits.strays⟩

/-- A loop whose state holds an editor edits when each round does. -/
theorem foldl {State Item : Type} {step : State → Item → State} (holds : State → Editor)
    (each : ∀ state item, (holds state).Edits (holds (step state item))) (items : List Item)
    (state : State) : (holds state).Edits (holds (items.foldl step state)) := by
  induction items generalizing state with
  | nil => exact .refl _
  | cons item rest ih => exact (each state item).trans (ih (step state item))

end Edits

/-- Edits in a transaction of their own are recorded. -/
theorem Recorded.begun (recorded : editor.Recorded start) (inText : editor.InText)
    (edits : (editor.update (·.begin)).Edits after) : after.Recorded start :=
  recorded.leadsTo (edits.space.leadsTo_begun inText) edits.strays

theorem Recorded.commit (recorded : editor.Recorded start) :
    (editor.update (·.commit)).Recorded start :=
  recorded.leadsTo editor.leadsTo_commit rfl

theorem Sound.commit (sound : editor.Sound start) : (editor.update (·.commit)).Sound start := by
  refine sound.withSpace (fun _ => id) ?_ editor.leadsTo_commit
  intro opened
  exact nomatch editor.inTransaction_commit.symm.trans opened

theorem Sound.ready (sound : editor.Sound start) (unselecting : editor.mode.selectionKind? = none)
    (uncounted : editor.pending.operatorCount? = none) : editor.Ready start := by
  refine ⟨sound.recorded, ?_, uncounted⟩
  have selects := sound.selects
  rw [unselecting] at selects
  exact selects

namespace Ready

theorem clearPending (ready : editor.Ready start) : editor.clearPending.Ready start :=
  ⟨ready.recorded.leadsTo (.refl _) rfl, ready.selects, rfl⟩

theorem begin (ready : editor.Ready start) : (editor.update (·.begin)).Ready start :=
  ⟨ready.recorded.leadsTo editor.leadsTo_begin rfl, Workspace.selects_begin ready.selects,
    ready.uncounted⟩

theorem commit (ready : editor.Ready start) : (editor.update (·.commit)).Ready start :=
  ⟨ready.recorded.commit, ready.selects, ready.uncounted⟩

theorem edits (ready : editor.Ready start) (inText : editor.InText)
    (edits : (editor.update (·.begin)).Edits after) : after.Ready start :=
  ⟨ready.recorded.begun inText edits, edits.space.selects (Workspace.selects_begin ready.selects),
    by rw [edits.pending]; exact ready.uncounted⟩

/-- Keys type from here on. -/
theorem startTyping (ready : editor.Ready start) (mode : Mode) (typing : mode.isTyping = true)
    (times : Nat) (newLine : Bool) : (editor.startTyping mode times newLine).Sound start := by
  have unselecting : mode.selectionKind? = none := by
    cases mode with
    | insert | replace => rfl
    | _ => cases typing
  exact .plain (ready.recorded.leadsTo (.refl _) rfl) ready.selects unselecting
    (fun _ => typing) ready.uncounted

/-- The transaction ends, and some mode without selections follows. -/
theorem committed {mode : Mode} (ready : editor.Ready start)
    (unselecting : mode.selectionKind? = none) :
    ({ editor with mode }.update (·.commit)).Sound start := by
  have closed := editor.inTransaction_commit
  exact .plain (ready.recorded.leadsTo editor.leadsTo_commit rfl) ready.selects unselecting
    (fun opened => nomatch closed.symm.trans opened) ready.uncounted

/-- No transaction is open, and some mode without selections follows. -/
theorem closed {mode : Mode} (ready : editor.Ready start)
    (closed : editor.history.inTransaction = false) (unselecting : mode.selectionKind? = none) :
    Sound start { editor with mode } :=
  .plain (ready.recorded.leadsTo (.refl _) rfl) ready.selects unselecting
    (fun opened => nomatch closed.symm.trans opened) ready.uncounted

end Ready

theorem edits_report (editor : Editor) (message : String) : editor.Edits (editor.report message) :=
  ⟨.refl, rfl, rfl, rfl, rfl⟩

/-- Applying an operator for one caret edits the text. -/
theorem edits_applyAt (editor : Editor) (index : Nat) (operator : Operator) {span : Span}
    (register? : Option Char) (steps : Nat)
    (starts : editor.InText → span.StartsIn editor.text) :
    editor.Edits (editor.applyAt index operator span register? steps).1 := by
  have lands := editor.lands_applyOperator operator span register? steps starts
  have moved : editor.Edits { editor with
      toWorkspace := (editor.applyOperator operator span register? steps).1.moveCaret index
        (editor.applyOperator operator span register? steps).2.caret } :=
    .ofSpace (lands.moveCaret index)
  unfold applyAt
  dsimp only
  cases reportOf? operator span _ (editor.applyOperator operator span register? steps).2 with
  | none => exact moved
  | some message => exact moved.trans (edits_report _ message)

theorem startsIn_operatorSpan {text : Document} {offset : Nat} {target : Landing} {span : Span}
    (inside : offset ≤ text.length) (found : operatorSpan? text offset target = some span) :
    span.StartsIn text := by
  have low : min offset target.offset ≤ text.length := Nat.le_trans (Nat.min_le_left _ _) inside
  unfold operatorSpan? at found
  dsimp only at found
  split at found
  · cases found
    trivial
  · split at found
    · split at found
      · cases found
        exact low
      · cases found
    · split at found
      · cases found
        exact low
      · cases found
  · split at found
    · cases found
    · split at found
      · split at found
        · cases found
          trivial
        · cases found
          exact low
      · cases found
        exact low

theorem startsIn_spanAt {caret : Caret} {operator : Operator} {destination : Destination}
    {count? : Option Nat} {context : MotionContext} {span : Span}
    (inside : caret.offset ≤ editor.text.length)
    (found : editor.spanAt? caret operator destination count? context = some span) :
    span.StartsIn editor.text := by
  unfold spanAt? at found
  obtain ⟨target, _, found⟩ := Option.bind_eq_some_iff.mp found
  cases spanned : operatorSpan? editor.text caret.offset target with
  | some other =>
    rw [spanned] at found
    cases found
    exact startsIn_operatorSpan inside spanned
  | none =>
    rw [spanned] at found
    by_cases change : operator = .change
    · simp only [change, ↓reduceIte, Option.orElse_eq_orElse, Option.orElse_none,
        Option.some.injEq] at found
      rw [← found]
      exact inside
    · simp only [change, ↓reduceIte, Option.orElse_eq_orElse, Option.orElse_none,
        reduceCtorEq] at found

/-- What an operator comes down to: edits in a transaction of their own. Where it acts on nothing,
there are none. -/
theorem operate_cases (editor : Editor) (operator : Operator) (destination : Destination)
    (count? : Option Nat) (register? : Option Char) :
    ∃ applied any, (editor.update (·.begin)).Edits applied ∧
      (any = false → applied = editor.update (·.begin)) ∧
      editor.operate operator destination count? register? =
        if any = false then ({ applied with mode := .normal }.update (·.commit)).reject
        else if operator = .change then (applied.startTyping .insert 1 false).done
        else ({ applied with mode := .normal }.update (·.commit)).done := by
  unfold operate
  dsimp only
  generalize foldEq : List.foldl _ _ _ = folded
  refine ⟨folded.1, folded.2, ?_, ?_, ?_⟩
  · rw [← foldEq]
    refine Edits.foldl Prod.fst ?_ _ (editor.update (·.begin), false)
    intro (editor, any) index
    dsimp only
    split
    · rename_i span found
      obtain ⟨caret, stands, found⟩ := Option.bind_eq_some_iff.mp found
      refine editor.edits_applyAt index operator register? 1 fun inText => ?_
      exact startsIn_spanAt (inText caret (List.mem_of_getElem? stands)) found
    · exact .refl editor
  · intro idle
    rw [← foldEq] at idle ⊢
    refine (@Workspace.foldl_idle _ _ _ _ Prod.snd Prod.fst ?_ _ _ idle).2
    intro (editor, any) index found
    dsimp only at found ⊢
    split at found
    · cases found
    · exact ⟨found, rfl⟩
  · cases folded.2 <;> rfl

/-- What an operator on whole lines comes down to. -/
theorem operateLines_cases (editor : Editor) (operator : Operator) (count : Nat)
    (register? : Option Char) :
    editor.operateLines operator count register? = { editor with mode := .normal }.reject ∨
      ∃ applied, (editor.update (·.begin)).Edits applied ∧
        editor.operateLines operator count register? =
          if operator = .change then (applied.startTyping .insert 1 false).done
          else ({ applied with mode := .normal }.update (·.commit)).done := by
  unfold operateLines
  dsimp only
  split
  · exact Or.inl rfl
  · refine Or.inr ⟨_, ?_, rfl⟩
    refine Edits.foldl Prod.fst ?_ _ (editor.update (·.begin), ([] : List Nat))
    intro (editor, finished) index
    dsimp only
    split
    · exact .refl editor
    · exact editor.edits_applyAt index operator register? 1 fun _ => trivial

/-- An operator from every caret to where a destination takes it. -/
theorem keeps_operate (operator : Operator) (destination : Destination) (count? : Option Nat)
    (register? : Option Char) (ready : editor.Ready start) (inText : editor.InText) :
    Keeps start before (editor.operate operator destination count? register?) := by
  obtain ⟨applied, any, edits, _, outcome⟩ :=
    editor.operate_cases operator destination count? register?
  have applied := ready.edits inText edits
  rw [outcome]
  split
  · exact .reject (applied.committed rfl)
  · split
    · exact .done (applied.startTyping _ rfl 1 false)
    · exact .done (applied.committed rfl)

theorem keeps_operateLines (operator : Operator) (count : Nat) (register? : Option Char)
    (ready : editor.Ready start) (closed : editor.history.inTransaction = false)
    (inText : editor.InText) :
    Keeps start before (editor.operateLines operator count register?) := by
  rcases editor.operateLines_cases operator count register? with refused | ⟨applied, edits, outcome⟩
  · rw [refused]
    exact .reject (ready.closed closed rfl)
  · have applied := ready.edits inText edits
    rw [outcome]
    split
    · exact .done (applied.startTyping _ rfl 1 false)
    · exact .done (applied.committed rfl)

end Editor

/-! ### Keys that do not edit

Keys that move carets or scroll, and those that begin a motion or a count.
-/

namespace Editor

variable {start : Journal} {editor before after : Editor}

theorem keeps_moveCarets (destination : Destination) (count? : Option Nat)
    (sound : editor.Sound start) : Keeps start before (editor.moveCarets destination count?) := by
  refine .doneIf (sound.mapCarets ?_) _
  intro caret
  dsimp only
  split <;> rfl

theorem keeps_moveBy (motion : Motion) (sound : editor.Sound start) :
    Keeps start before (editor.moveBy motion) :=
  keeps_moveCarets _ _ sound.clearPending

/-- A motion on its own goes anywhere, and one for an operator only from a mode without selections. -/
theorem keeps_go (destination : Destination) (operator? : Option Operator)
    (sound : editor.Sound start) (inText : editor.InText)
    (fits : operator? ≠ none → editor.mode.selectionKind? = none) :
    Keeps start before (editor.go destination operator?) := by
  unfold go takePending
  dsimp only
  cases operator? with
  | none => exact keeps_moveCarets _ _ sound.clearPending
  | some operator =>
    have ready := sound.clearPending.ready (fits nofun) rfl
    exact keeps_operate operator _ _ _ ready inText

theorem keeps_findKey (key : Key) (forward till : Bool) (operator? : Option Operator)
    (sound : editor.Sound start) (inText : editor.InText)
    (fits : operator? ≠ none → editor.mode.selectionKind? = none) :
    Keeps start before (editor.findKey key forward till operator?) := by
  unfold findKey
  split
  · exact .reject sound
  · exact keeps_go _ _ (sound.ofMatches ⟨rfl, rfl, rfl, rfl⟩) inText fits

theorem keeps_markKey (key : Key) (linewise : Bool) (operator? : Option Operator)
    (sound : editor.Sound start) (inText : editor.InText)
    (fits : operator? ≠ none → editor.mode.selectionKind? = none) :
    Keeps start before (editor.markKey key linewise operator?) := by
  unfold markKey
  split
  · exact .reject sound
  · split
    · exact .reject (sound.ofMatches ⟨rfl, rfl, rfl, rfl⟩)
    · exact keeps_go _ _ sound inText fits

theorem keeps_registerKey (key : Key) (sound : editor.Sound start) :
    Keeps start editor (editor.registerKey key) := by
  unfold registerKey
  split
  · split
    · exact .pending sound rfl rfl
    · exact .reject sound
  · exact .reject sound

theorem keepsIf_countKey (key : Key) (sound : editor.Sound start) :
    KeepsIf start editor (editor.countKey? key) := by
  unfold countKey?
  split
  · exact .ofNone
  · split
    · exact .ofSome (.pending sound rfl rfl)
    · exact .ofNone

theorem keepsIf_motionStart (key : Key) (operator? : Option Operator) (sound : editor.Sound start)
    (inText : editor.InText) (unselecting : editor.mode.isSelect = false)
    (fits : operator? ≠ none → editor.mode.selectionKind? = none) :
    KeepsIf start editor (editor.motionStart? key operator?) := by
  unfold motionStart?
  split
  · exact .ofSome (.await sound unselecting _)
  · exact .ofSome (.await sound unselecting _)
  · exact .ofSome (.await sound unselecting _)
  · exact .ofSome (.await sound unselecting _)
  · exact .ofSome (.await sound unselecting _)
  · exact .ofSome (.await sound unselecting _)
  · exact .ofSome (.await sound unselecting _)
  · exact .ofSome (IfAny.elim (.reject sound) fun _ _ => keeps_go _ _ sound inText fits)
  · exact .ofSome (IfAny.elim (.reject sound) fun _ _ => keeps_go _ _ sound inText fits)
  · exact .ofNone

/-- Scrolling moves the primary caret at most, which keeps its selection. -/
theorem Sound.scrolled {window : Window} (sound : editor.Sound start)
    (scrolls : editor.window.Scrolls window) : (editor.setWindow window).Sound start := by
  obtain ⟨text, _, f, keeps, carets⟩ := scrolls
  refine sound.withSpace ?_ id ?_
  · intro selecting selects caret member
    rw [show Workspace.carets { editor.toWorkspace with window } = window.carets from rfl,
      carets] at member
    rcases CaretSet.mem_modifyPrimary member with stood | moved
    · exact selects caret stood
    · rw [moved, keeps]
      exact selects _ editor.carets.primary_mem
  · unfold Workspace.journal Workspace.text
    rw [text]
    exact .refl _

theorem keeps_afterScroll {result : Window × Movement} (sound : editor.Sound start)
    (scrolls : editor.window.Scrolls result.1) :
    Keeps start before (editor.afterScroll result) :=
  .doneIf (sound.scrolled scrolls) _

theorem keeps_scrollByPages (down : Bool) (sound : editor.Sound start) :
    Keeps start before (editor.scrollByPages down) :=
  keeps_afterScroll sound.clearPending (Window.scrolls_scrollPages _ _ _ _)

theorem keeps_scrollByHalf (down : Bool) (sound : editor.Sound start) :
    Keeps start before (editor.scrollByHalf down) := by
  unfold scrollByHalf takePending
  dsimp only
  refine keeps_afterScroll ?_ (Window.scrolls_scrollHalfPage _ _ _ _)
  split
  · exact sound.clearPending
  · exact sound.clearPending.withSpace (fun _ => id) id (.refl _)

theorem keeps_scrollByLines (down : Bool) (sound : editor.Sound start) :
    Keeps start before (editor.scrollByLines down) :=
  keeps_afterScroll sound.clearPending (Window.scrolls_scrollLines _ _ _ _)

theorem keepsIf_scrollKey (key : Key) (sound : editor.Sound start) :
    KeepsIf start before (editor.scrollKey? key) := by
  unfold scrollKey?
  split
  · exact .ofSome (keeps_scrollByPages true sound)
  · split
    · exact .ofSome (keeps_scrollByPages false sound)
    · split
      · exact .ofSome (keeps_scrollByHalf _ sound)
      · split
        · exact .ofSome (keeps_scrollByLines _ sound)
        · exact .ofNone

theorem keeps_scrollAfterZ (key : Key) (sound : editor.Sound start) :
    Keeps start before (editor.scrollAfterZ key) := by
  have toPlace (place : ScreenPlace) (count? : Option Nat) (firstNonBlank : Bool) :
      Keeps start before (editor.clearPending.setWindow (editor.window.scrollLineTo place count?
        firstNonBlank editor.clearPending.scrolling)).done :=
    .done (sound.clearPending.scrolled (Window.scrolls_scrollLineTo _ _ _ _ _))
  have byColumns (right : Bool) (count : Nat) :
      Keeps start before (editor.clearPending.afterScroll
        (editor.window.scrollColumns right count editor.clearPending.scrolling)) :=
    keeps_afterScroll sound.clearPending (Window.scrolls_scrollColumns _ _ _ _)
  have toEdge (left : Bool) :
      Keeps start before (editor.clearPending.setWindow
        (editor.window.scrollColumnToEdge left editor.clearPending.scrolling)).done :=
    .done (sound.clearPending.scrolled (Window.scrolls_scrollColumnToEdge _ _ _))
  unfold scrollAfterZ takePending
  dsimp only
  split
  · exact toPlace _ _ _
  · exact byColumns _ _
  · exact byColumns _ _
  · exact toPlace _ _ _
  · exact toPlace _ _ _
  · exact toPlace _ _ _
  · exact toPlace _ _ _
  · exact toPlace _ _ _
  · exact byColumns _ _
  · exact byColumns _ _
  · exact byColumns _ _
  · exact byColumns _ _
  · exact toEdge _
  · exact toEdge _
  · exact .reject sound.clearPending

end Editor

end ModalEdit

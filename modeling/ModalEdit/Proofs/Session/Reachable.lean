import ModalEdit.Proofs.Session.Steady

/-!
The sessions that keys and command lines lead to from a window. Each of them is idle, and so is the
session between any two keys or lines that a command runs, however deeply these are nested. What goes with
the mode of such a session: where the carets stand, whether they select something, whether a transaction is
open, and whether an operator has a count.
-/

set_option autoImplicit false

namespace ModalEdit

namespace Session

/-- A steady session that has nothing to report. -/
structure Idle (holds : Editor → Prop) (session : Session) : Prop where
  steady : session.Steady holds
  quiet : session.editor.message? = none

/-- The sessions that keys and command lines lead to from a window, however deeply lines may be
nested each time. -/
inductive Reachable (window : Window) : Session → Prop where
  | start : Reachable window (.ofWindow window)
  | feed {session after : Session} {nesting : Nat} {key : Key} {result : KeyResult}
      (reachable : Reachable window session)
      (fed : session.feed nesting key = some (after, result)) :
      Reachable window after
  | flush {session after : Session} {nesting : Nat} {result : KeyResult}
      (reachable : Reachable window session)
      (flushed : session.flush nesting = some (after, result)) :
      Reachable window after
  | execute {session after : Session} {nesting : Nat} {line : List Char} {result : LineResult}
      (reachable : Reachable window session)
      (executed : session.execute nesting line = some (after, result)) : Reachable window after

variable {holds : Editor → Prop} {session after : Session} {run : LineRunner}

theorem quiet_collectReport (session : Session) :
    session.collectReport.editor.message? = none := by
  unfold collectReport
  split
  · rfl
  · rename_i quiet
    exact quiet

theorem Idle.withTypeahead (idle : session.Idle holds) (typeahead : List Key) :
    Idle holds { session with typeahead } :=
  ⟨⟨idle.steady.editor, idle.steady.handlers⟩, idle.quiet⟩

section

variable (kept : Editor.KeptByCalls holds)

include kept

theorem Steady.collectReport (steady : session.Steady holds) :
    session.collectReport.Idle holds :=
  ⟨steady.retune kept session.retunes_collectReport, session.quiet_collectReport⟩

theorem Idle.clearStatus (idle : session.Idle holds) :
    session.clearStatus.Idle holds :=
  ⟨idle.steady.retune kept session.retunes_clearStatus, idle.quiet⟩

theorem Idle.fail (idle : session.Idle holds) (error : SessionError) :
    (session.fail error).Idle holds :=
  ⟨idle.steady.fail kept error, idle.quiet⟩

theorem Idle.afterLine (idle : session.Idle holds) (result : LineResult) :
    (session.afterLine result).1.Idle holds := by
  unfold Session.afterLine
  split
  · rename_i output?
    refine ⟨idle.steady.report kept output?, ?_⟩
    cases output? with
    | none => exact idle.quiet
    | some output => exact idle.quiet
  · exact idle.fail kept _

/-- A key keeps the session idle if the line that it may hand over does. -/
theorem pressKey_preserves (runs : run.Preserves (Idle holds)) :
    (pressKey run).Preserves (Idle holds) := by
  intro session key after result idle pressed
  have steady : Steady holds { session with editor := (session.editor.press key).1 } :=
    idle.steady.call kept (.press key)
  have shownIdle := steady.collectReport kept
  unfold pressKey at pressed
  dsimp only at pressed
  split at pressed
  · cases pressed
    exact shownIdle
  · cases pressed
    exact shownIdle
  · cases pressed
    exact shownIdle
  · obtain ⟨⟨ran, answer⟩, lineRan, shown⟩ := Option.map_eq_some_iff.mp pressed
    have lineKept := runs _ _ ran answer shownIdle lineRan
    have afterKept := lineKept.afterLine kept answer
    dsimp only at shown
    rw [shown] at afterKept
    exact afterKept

omit kept in
theorem steady_runExecute (runs : run.Preserves (Idle holds)) {command : Command}
    {result : LineResult} (idle : session.Idle holds)
    (ran : session.runExecute run command = some (after, result)) : after.Steady holds := by
  unfold runExecute at ran
  split at ran
  · split at ran
    · exact (runs session _ after result idle ran).steady
    · cases ran
      exact idle.steady
  · cases ran
    exact idle.steady

theorem steady_runNormal (runs : run.Preserves (Idle holds)) {command : Command}
    {result : LineResult} (idle : session.Idle holds)
    (ran : session.runNormal run command = some (after, result)) : after.Steady holds := by
  unfold runNormal at ran
  dsimp only at ran
  split at ran
  · cases ran
    exact idle.steady
  · obtain ⟨typed, keysRan, answered⟩ := Option.map_eq_some_iff.mp ran
    cases answered
    obtain ⟨before, beforeIdle, rfl⟩ := runKeys_preserves (pressKey_preserves kept runs)
      (fun _ error idle => idle.fail kept error) idle keysRan
    have escaped : (before.update Editor.escape).Steady holds :=
      beforeIdle.steady.call kept .escape
    exact (escaped.collectReport kept).steady

theorem steady_runHandler (runs : run.Preserves (Idle holds)) {command : Command}
    (handler : Handler) {result : LineResult} (idle : session.Idle holds)
    (ran : session.runHandler run command handler = some (after, result)) :
    after.Steady holds := by
  have steady := idle.steady
  have answers (outcome : Session × LineResult) (isSteady : outcome.1.Steady holds)
      (answered : some outcome = some (after, result)) : after.Steady holds := by
    cases answered
    exact isSteady
  cases handler with
  | execute => exact steady_runExecute runs idle ran
  | normal => exact steady_runNormal kept runs idle ran
  | call => exact answers _ (steady.retune kept (session.retunes_runCall command)) ran
  | digraphs => exact answers _ (steady.retune kept (session.retunes_runDigraphs command)) ran
  | echo => exact answers _ (steady.retune kept (session.retunes_runEcho command)) ran
  | assignment =>
    exact answers _ (steady.retune kept (session.retunes_runAssignment command)) ran
  | map => exact answers _ (steady.retune kept (session.retunes_runMap command)) ran
  | set => exact answers _ (steady.retune kept (session.retunes_runSet command)) ran
  | unlet => exact answers _ (steady.retune kept (session.retunes_runUnlet command)) ran
  | delete | yank => exact answers _ (steady_runOnLines kept _ command steady) ran
  | undo | redo => exact answers _ (steady_runUndo kept _ steady) ran
  | goto => exact answers _ (steady_runGoto kept command steady) ran

theorem steady_runCommand (runs : run.Preserves (Idle holds)) {command : Command}
    {result : LineResult} (idle : session.Idle holds)
    (ran : session.runCommand run command = some (after, result)) : after.Steady holds := by
  unfold runCommand at ran
  split at ran
  · cases ran
    exact idle.steady
  · split at ran
    · exact steady_runHandler kept runs _ idle ran
    · cases ran
      exact idle.steady

/-- By induction on how deeply lines may be nested: the lines that a line runs keep the session
idle. -/
theorem runLine_preserves (nesting : Nat) : (runLine nesting).Preserves (Idle holds) := by
  induction nesting with
  | zero =>
    intro session line after result idle ran
    cases ran
  | succ nesting ih =>
    intro session line after result idle ran
    obtain ⟨⟨left, answer⟩, outcome, synced⟩ := Option.map_eq_some_iff.mp ran
    cases synced
    have steady : left.Steady holds := by
      split at outcome
      · cases outcome
        exact idle.steady
      · exact steady_runCommand kept ih idle outcome
    exact (steady.retune kept left.retunes_syncOptions).collectReport kept

theorem Idle.execute {nesting : Nat} {line : List Char} {result : LineResult}
    (idle : session.Idle holds)
    (executed : session.execute nesting line = some (after, result)) :
    after.Idle holds := by
  obtain ⟨⟨ran, answer⟩, lineRan, shown⟩ := Option.map_eq_some_iff.mp executed
  cases shown
  have lineKept := runLine_preserves kept nesting _ _ ran result (idle.clearStatus kept) lineRan
  exact (lineKept.afterLine kept result).withTypeahead _

theorem pressTyped_preserves (nesting : Nat) :
    (pressTyped nesting).Preserves (Idle holds) := by
  apply pressKey_preserves kept
  intro session line after result idle ran
  exact runLine_preserves kept nesting _ line after result (idle.clearStatus kept) ran

theorem Idle.drainTyped {nesting : Nat} {keys : List Key} {flush : Bool} {result : KeyResult}
    (idle : session.Idle holds)
    (drained : session.drainTyped nesting keys flush = some (after, result)) :
    after.Idle holds := by
  obtain ⟨⟨left, waiting, answer⟩, ran, shown⟩ := Option.map_eq_some_iff.mp drained
  cases shown
  have leftIdle := drain_preserves (pressTyped_preserves kept nesting)
    (fun _ error idle => idle.fail kept error) idle ran
  exact leftIdle.withTypeahead waiting

theorem Idle.feed {nesting : Nat} {key : Key} {result : KeyResult}
    (idle : session.Idle holds) (fed : session.feed nesting key = some (after, result)) :
    after.Idle holds := by
  unfold Session.feed at fed
  dsimp only at fed
  split at fed
  · exact (idle.clearStatus kept).drainTyped kept fed
  · exact idle.drainTyped kept fed

theorem Idle.flush {nesting : Nat} {result : KeyResult} (idle : session.Idle holds)
    (flushed : session.flush nesting = some (after, result)) : after.Idle holds :=
  idle.drainTyped kept flushed

/-- What holds of the editor at first and is kept by every call holds in every session. -/
theorem Reachable.idle_of_kept {window : Window} (first : holds (ofWindow window).editor)
    (reachable : Reachable window session) : session.Idle holds := by
  induction reachable with
  | start => exact ⟨⟨first, rfl⟩, rfl⟩
  | feed _ fed ih => exact ih.feed kept fed
  | flush _ flushed ih => exact ih.flush kept flushed
  | execute _ executed ih => exact ih.execute kept executed

end

/-- The editor of a session has been reached by calls, one after the other. -/
theorem Reachable.reached {window : Window} (reachable : Reachable window session) :
    Editor.Reached Editor.anyCall window session.editor :=
  (reachable.idle_of_kept Editor.keptByCalls_reached .start).steady.editor

end Session

/-- Nothing is selected in the window, and every caret is in the text. -/
structure Window.Unselected (window : Window) : Prop where
  inText : ∀ caret ∈ window.carets.toList, caret.offset ≤ window.text.length
  anchors : ∀ caret ∈ window.carets.toList, caret.anchor? = none

namespace Session

variable {window : Window} {atRest : Prop} {session : Session}

theorem Reachable.feedAll {after : Session} {nesting : Nat} {keys : List Key}
    {results : List KeyResult} (reachable : Reachable window session)
    (fed : session.feedAll nesting keys = some (after, results)) : Reachable window after := by
  induction keys generalizing session results with
  | nil =>
    cases fed
    exact reachable
  | cons key rest ih =>
    obtain ⟨⟨next, result⟩, first, fed⟩ := Option.bind_eq_some_iff.mp fed
    obtain ⟨⟨last, others⟩, second, answered⟩ := Option.bind_eq_some_iff.mp fed
    cases answered
    exact ih (reachable.feed first) second

/-- What a history knows of the text at first. -/
def firstJournal (window : Window) : Journal :=
  (ofWindow window).editor.journal

theorem sound_ofWindow (unselected : window.Unselected) :
    (ofWindow window).editor.Sound (firstJournal window) := by
  refine .plain ⟨fun _ => .refl _, fun strayed => absurd rfl strayed⟩ ?_ rfl nofun rfl
  intro caret member
  have anchors := unselected.anchors caret member
  rw [anchors]
  rfl

theorem steady_ofWindow (unselected : window.Unselected)
    (rested : atRest → (ofWindow window).editor.Rested) :
    (ofWindow window).editor.Steady (firstJournal window) atRest := by
  have placed : (ofWindow window).editor.Placed := by
    refine ⟨unselected.inText, ?_⟩
    intro caret member anchor isAnchor
    rw [unselected.anchors caret member] at isAnchor
    cases isAnchor
  exact ⟨sound_ofWindow unselected, placed, rested⟩

theorem Reachable.idle (unselected : window.Unselected)
    (rested : atRest → (ofWindow window).editor.Rested) (reachable : Reachable window session) :
    session.Idle (Editor.Steady (firstJournal window) atRest) :=
  reachable.idle_of_kept Editor.keptByCalls_steady (steady_ofWindow unselected rested)

end Session

namespace Document

/-- Where a caret may not stand behind the last character of a line, it stands on a character or on
an empty line. -/
theorem lt_lineEnd_of_clampCaret {text : Document} {offset : Nat}
    (clamped : text.clampCaret offset false = offset) :
    offset < text.lineEnd (text.lineOf offset) ∨
      text.lineStart (text.lineOf offset) = text.lineEnd (text.lineOf offset) := by
  have ordered := text.lineStart_le_lineEnd (text.lineOf offset)
  rw [clampCaret_eq_min] at clamped
  unfold lineLimit at clamped
  dsimp only at clamped
  split at clamped
  · rename_i emptyLine
    exact Or.inr (emptyLine.resolve_left Bool.false_ne_true).symm
  · rename_i someLine
    have differ : text.lineEnd (text.lineOf offset) ≠ text.lineStart (text.lineOf offset) :=
      fun same => someLine (Or.inr same)
    omega

end Document

namespace CaretSet

theorem primaryIndex_lt_size (carets : CaretSet) : carets.primaryIndex < carets.size := by
  unfold size toList primaryIndex
  rw [List.length_append, List.length_cons]
  omega

theorem ascending_single (caret : Caret) : (single caret).Ascending :=
  List.pairwise_singleton _ caret

theorem eq_of_mem_single {caret other : Caret} (member : other ∈ (single caret).toList) :
    other = caret :=
  List.mem_singleton.mp member

end CaretSet

namespace Session

variable {window : Window} {session : Session} {caret : Caret}

theorem unselected_of_single (alone : window.carets = .single caret)
    (unselected : caret.anchor? = none) (inside : caret.offset ≤ window.text.length) :
    window.Unselected where
  inText := by
    intro other member
    rw [alone] at member
    rw [CaretSet.eq_of_mem_single member]
    exact inside
  anchors := by
    intro other member
    rw [alone] at member
    rw [CaretSet.eq_of_mem_single member]
    exact unselected

theorem rested_of_single (alone : window.carets = .single caret)
    (rests : window.text.clampCaret caret.offset false = caret.offset) :
    (ofWindow window).editor.Rested := by
  have carets : (ofWindow window).editor.carets = .single caret := alone
  constructor
  · rw [carets]
    exact CaretSet.ascending_single caret
  · intro other member
    rw [carets] at member
    rw [CaretSet.eq_of_mem_single member]
    exact rests

/-- A session that began with one caret at rest has carets that stand in order and apart, each where
the mode lets it rest: in normal mode, over a selection and behind an operator on a character or an
empty line, and otherwise at most at the end of a line. -/
theorem Reachable.carets_rest (alone : window.carets = .single caret)
    (unselected : caret.anchor? = none)
    (rests : window.text.clampCaret caret.offset false = caret.offset)
    (reachable : Reachable window session) :
    let editor := session.editor
    editor.carets.toList ≠ [] ∧ editor.carets.primaryIndex < editor.carets.size ∧
      editor.carets.toList.Pairwise (fun first second => first.offset < second.offset) ∧
      ∀ caret ∈ editor.carets.toList,
        caret.offset ≤ session.text.length ∧
        session.text.clampCaret caret.offset editor.mode.caretPastEnd = caret.offset ∧
        caret.offset ≤ session.text.lineEnd (session.text.lineOf caret.offset) ∧
        (editor.mode.caretPastEnd = false →
          caret.offset < session.text.lineEnd (session.text.lineOf caret.offset) ∨
          session.text.lineStart (session.text.lineOf caret.offset) =
            session.text.lineEnd (session.text.lineOf caret.offset)) := by
  have inside : caret.offset ≤ window.text.length := rests ▸ Document.clampCaret_le _ _ _
  have plain := unselected_of_single alone unselected inside
  have first := rested_of_single alone rests
  have idle : session.Idle (Editor.Steady (firstJournal window) True) :=
    reachable.idle plain fun _ => first
  have steady := idle.steady.editor
  obtain ⟨ascending, clamped⟩ := steady.rested trivial
  refine ⟨CaretSet.toList_ne_nil _, CaretSet.primaryIndex_lt_size _, ascending, ?_⟩
  intro other member
  have here := clamped other member
  have inText := steady.placed.offsets other member
  refine ⟨inText, here, Document.le_lineEnd_lineOf inText, ?_⟩
  intro notPast
  rw [notPast] at here
  exact Document.lt_lineEnd_of_clampCaret here

/-- Behind the last character of the line that text is typed at. -/
theorem Reachable.carets_rest_typing :
    let window : Window := { text := ['a', 'b', '\n', 'c'], carets := .single (.ofOffset 1) }
    ∃ session, Reachable window session ∧ session.editor.mode = .insert ∧
      session.text = ['a', 'b', 'x', '\n', 'c'] ∧
      session.editor.carets.toList.map (·.offset) = [3] ∧
      ∀ caret ∈ session.editor.carets.toList, caret.offset ≤ session.text.length ∧
        session.text.clampCaret caret.offset true = caret.offset := by
  intro window
  have typed : ((ofWindow window).feedAll 1 [.ofChar 'A', .ofChar 'x']).any (fun answer =>
      answer.1.editor.mode = .insert ∧ answer.1.text = ['a', 'b', 'x', '\n', 'c'] ∧
        answer.1.editor.carets.toList.map (·.offset) = [3]) = true := by
    decide +kernel
  obtain ⟨⟨session, results⟩, fed, answered⟩ := (Option.any_eq_true _ _).mp typed
  obtain ⟨mode, text, offsets⟩ := of_decide_eq_true answered
  have reachable : Reachable window session := Reachable.start.feedAll fed
  obtain ⟨_, _, _, rests⟩ :=
    @Reachable.carets_rest window session (.ofOffset 1) rfl rfl (by decide) reachable
  refine ⟨session, reachable, mode, text, offsets, ?_⟩
  intro caret member
  obtain ⟨inside, clamped, _, _⟩ := rests caret member
  rw [mode] at clamped
  exact ⟨inside, clamped⟩

/-- In every session that began without selections, the carets have anchors in the text where the mode
is one of selections and have none elsewhere, a transaction is open only where keys type, and an
operator has a count only while it waits for its motion. -/
theorem Reachable.mode_agrees (unselected : window.Unselected)
    (reachable : Reachable window session) :
    let editor := session.editor
    (∀ caret ∈ editor.carets.toList,
      match editor.mode with
      | .visual .. | .select .. => ∃ anchor ≤ session.text.length, caret.anchor? = some anchor
      | _ => caret.anchor? = none) ∧
    (editor.history.inTransaction = true → editor.mode = .insert ∨ editor.mode = .replace) ∧
    (editor.pending.operatorCount? ≠ none →
      ∃ operator target, editor.mode = .operatorPending operator target) := by
  have idle : session.Idle (Editor.Steady (firstJournal window) False) :=
    reachable.idle unselected False.elim
  obtain ⟨sound, placed, _⟩ := idle.steady.editor
  refine ⟨?_, ?_, sound.counting⟩
  · intro caret member
    have selects := sound.selects caret member
    have selected (some : caret.anchor?.isSome = true) :
        ∃ anchor ≤ session.text.length, caret.anchor? = Option.some anchor := by
      obtain ⟨anchor, isAnchor⟩ := Option.isSome_iff_exists.mp some
      exact ⟨anchor, placed.anchors caret member anchor isAnchor, isAnchor⟩
    cases mode : session.editor.mode with
    | visual kind target | select kind target =>
      rw [mode] at selects
      exact selected selects
    | _ =>
      rw [mode] at selects
      exact Option.isNone_iff_eq_none.mp (Option.isSome_eq_false_iff.mp selects)
  · intro opened
    have typing := sound.typing opened
    cases mode : session.editor.mode with
    | insert => exact Or.inl rfl
    | replace => exact Or.inr rfl
    | _ =>
      rw [mode] at typing
      cases typing

/-- A selection that a motion has extended. -/
theorem Reachable.mode_agrees_visual :
    let window : Window := { text := ['a', 'b', '\n', 'c'], carets := .single (.ofOffset 1) }
    ∃ session, Reachable window session ∧ session.editor.mode = .visual .character .normal ∧
      session.editor.carets.toList.map (·.offset) = [3] ∧
      ∀ caret ∈ session.editor.carets.toList,
        ∃ anchor ≤ session.text.length, caret.anchor? = some anchor := by
  intro window
  have typed : ((ofWindow window).feedAll 1 [.ofChar 'v', .ofChar 'j']).any (fun answer =>
      answer.1.editor.mode = .visual .character .normal ∧
        answer.1.editor.carets.toList.map (·.offset) = [3]) = true := by
    decide +kernel
  obtain ⟨⟨session, results⟩, fed, answered⟩ := (Option.any_eq_true _ _).mp typed
  obtain ⟨mode, offsets⟩ := of_decide_eq_true answered
  have reachable : Reachable window session := Reachable.start.feedAll fed
  obtain ⟨anchors, _, _⟩ := Reachable.mode_agrees ⟨by decide, by decide⟩ reachable
  rw [mode] at anchors
  exact ⟨session, reachable, mode, offsets, anchors⟩

end Session

end ModalEdit

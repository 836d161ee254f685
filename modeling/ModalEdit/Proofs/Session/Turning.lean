import ModalEdit.Proofs.Command.Lines
import ModalEdit.Proofs.History.Story
import ModalEdit.Proofs.History.Surplus
import ModalEdit.Proofs.Session.Reachable

/-!
Lines that undo and redo. Each takes one transaction back or makes one again, and has something to say
only where there is none. As long as nothing is forgotten they go through the texts of one story.
-/

set_option autoImplicit false

namespace ModalEdit

namespace Session

/-- The line that undoes, or the one that redoes. -/
def turnLine (redo : Bool) : List Char :=
  if redo then "redo".toList else "undo".toList

/-- What is said where there is nothing to undo, or to redo. -/
def endMessage (redo : Bool) : String :=
  if redo then "Already at newest change" else "Already at oldest change"

/-- What a line that undoes or redoes leads to. Options that were still to be heard of may set
another limit. -/
structure Turns (redo turned : Bool) (before after : Session) : Prop where
  messages : after.messages = if turned then [] else [endMessage redo]
  heard : after.editor.options.notices = []
  journal : ∃ caret, (before.editor.journal.turn redo caret).2.isSome = turned ∧
    (after.editor.journal = (before.editor.journal.turn redo caret).1 ∨
      before.editor.options.notices ≠ [] ∧ ∃ limit, after.editor.journal =
        ((before.editor.journal.turn redo caret).1.apply (.setLimit limit)).1)

end Session

namespace Editor

variable {editor : Editor}

/-- One step through the history, with the caret that it answers. -/
theorem runHistory_one (redo : Bool) (space : Workspace) :
    let stepped := space.journal.apply (if redo then .redo else .undo)
    runHistory redo (max 1 1) none space =
      ({ space with
          history := stepped.1.history
          window := { space.window with text := stepped.1.text } }, stepped.2) := by
  change runHistory redo (0 + 1) none space = _
  unfold runHistory
  dsimp only
  generalize stepEq : (if redo then space.history.redo space.text else
    space.history.undo space.text) = step
  have same : space.journal.apply (if redo then .redo else .undo) =
      (⟨step.1, step.2.1⟩, step.2.2) := by
    rw [← stepEq]
    cases redo <;> rfl
  rw [same]
  obtain ⟨history, text, caret?⟩ := step
  cases caret? <;> rfl

/-- The journal, the options and the report after one transaction has been taken back or made
again. -/
theorem undo_one (editor : Editor) (redo : Bool) :
    let turned := editor.journal.turn redo editor.window.caret
    (editor.undo 1 redo).1.journal = turned.1 ∧
      (editor.undo 1 redo).1.options = editor.options ∧
      (editor.undo 1 redo).1.message? =
        if turned.2.isSome then editor.message? else some (Session.endMessage redo) := by
  have once := runHistory_one redo editor.commit
  dsimp only at once ⊢
  unfold undo
  rw [once]
  have same : editor.commit.journal.apply (if redo then .redo else .undo) =
      editor.journal.turn redo editor.window.caret := rfl
  rw [same]
  cases (editor.journal.turn redo editor.window.caret).2 with
  | none => exact ⟨rfl, rfl, rfl⟩
  | some place => exact ⟨rfl, rfl, rfl⟩

theorem undoOnce_spec (editor : Editor) (redo : Bool) :
    let turned := editor.journal.turn redo editor.window.caret
    (editor.undoOnce redo).1.journal = turned.1 ∧
      (editor.undoOnce redo).1.options = editor.options ∧
      (editor.undoOnce redo).1.message? =
        if turned.2.isSome then editor.message? else some (Session.endMessage redo) := by
  obtain ⟨journal, options, message⟩ := editor.undo_one redo
  refine ⟨?_, options, message⟩
  have text : (editor.undoOnce redo).1.text = (editor.undo 1 redo).1.text :=
    Window.text_scrollToCaret _ _
  unfold Workspace.journal
  rw [text]
  exact journal

end Editor

namespace Session

variable {start : Journal} {atRest : Prop} {session after : Session}

/-- What reading the lines gives. -/
def turnCommand (redo : Bool) : Command :=
  ⟨none, if redo then .redo else .undo, false, .none⟩

theorem parse_turnLine (redo : Bool) : Command.parse (turnLine redo) = .ok (turnCommand redo) := by
  have bare : Text.trimEnd ((turnLine redo).dropWhile fun c => c == ':' || Text.isBlank c) =
      turnLine redo := by
    cases redo <;> rfl
  have unranged : Command.Range.read (turnLine redo) = .ok (none, turnLine redo) := by
    cases redo with
    | false => exact Command.Range.read_of_isAlpha rfl rfl
    | true => exact Command.Range.read_of_isAlpha rfl rfl
  unfold Command.parse
  dsimp only
  rw [bare, unranged]
  cases redo <;> rfl

theorem runCommand_turnCommand (run : LineRunner) (redo : Bool)
    (handlers : session.handlers = fun id => some (.ofId id)) :
    session.runCommand run (turnCommand redo) = some (session.runUndo redo) := by
  have accepted : refusal? (turnCommand redo) = none := by
    cases redo <;> rfl
  unfold runCommand
  rw [accepted, handlers]
  cases redo <;> rfl

theorem execute_turnLine (redo : Bool) (nesting : Nat)
    (handlers : session.handlers = fun id => some (.ofId id)) :
    session.execute (nesting + 1) (turnLine redo) =
      some ((session.clearStatus.runUndo redo).1.syncOptions.collectReport, .ok none) := by
  have ran := @runCommand_turnCommand session.clearStatus (runLine nesting) redo handlers
  unfold execute runLine
  rw [parse_turnLine]
  dsimp only
  rw [ran]
  rfl

/-- Changed options may set another limit. -/
theorem journal_syncOptions (session : Session) :
    session.syncOptions.editor.journal = session.editor.journal ∨
      session.editor.options.notices ≠ [] ∧ ∃ limit,
        session.syncOptions.editor.journal =
          (session.editor.journal.apply (.setLimit limit)).1 := by
  have text (tabWidth? : Option Nat) :
      (tabWidth?.elim session.editor.window session.editor.window.setTabWidth).text =
        session.editor.text := by
    cases tabWidth? <;> rfl
  have journal (limit? : Option Nat) (tabWidth? : Option Nat) : Journal.mk
      (limit?.elim session.editor.history session.editor.history.setLimit)
      (tabWidth?.elim session.editor.window session.editor.window.setTabWidth).text =
        limit?.elim session.editor.journal fun limit =>
          (session.editor.journal.apply (.setLimit limit)).1 := by
    rw [text]
    cases limit? <;> rfl
  have synced : session.syncOptions.editor.journal = _ := journal
    (changedCount? session.editor.options.notices "undolevels")
    (changedCount? session.editor.options.notices "tabstop")
  rw [synced]
  cases changed : changedCount? session.editor.options.notices "undolevels" with
  | none => exact Or.inl rfl
  | some limit =>
    refine Or.inr ⟨?_, limit, rfl⟩
    intro none
    rw [none] at changed
    cases changed

theorem collectReport_spec (session : Session) :
    session.collectReport.editor.journal = session.editor.journal ∧
      session.collectReport.editor.options = session.editor.options ∧
      session.collectReport.messages = session.messages ++ session.editor.message?.toList := by
  unfold collectReport
  cases session.editor.message? with
  | none => exact ⟨rfl, rfl, (List.append_nil _).symm⟩
  | some message => exact ⟨rfl, rfl, rfl⟩

/-- Lines that undo or redo never fail. -/
theorem turns_execute (redo : Bool) (nesting : Nat)
    (idle : session.Idle (Editor.Steady start atRest)) :
    ∃ after turned, session.execute (nesting + 1) (turnLine redo) = some (after, .ok none) ∧
      Turns redo turned session after := by
  obtain ⟨journal, options, message⟩ := session.editor.undoOnce_spec redo
  have executed := execute_turnLine redo nesting idle.steady.handlers
  generalize undoneEq : (session.clearStatus.runUndo redo).1 = undone at executed
  have sameEditor : undone.editor = (session.editor.undoOnce redo).1 := by
    rw [← undoneEq]
    rfl
  have silent : undone.messages = [] := by
    rw [← undoneEq]
    rfl
  obtain ⟨lastJournal, lastOptions, messages⟩ := undone.syncOptions.collectReport_spec
  refine ⟨_, _, executed, ?_, ?_, session.editor.window.caret, rfl, ?_⟩
  · have report : undone.syncOptions.editor.message? = undone.editor.message? := rfl
    have before : undone.syncOptions.messages = [] := silent
    rw [messages, before, report, sameEditor, message, idle.quiet]
    split <;> rfl
  · rw [lastOptions]
    rfl
  · rw [lastJournal, ← journal, ← options, ← sameEditor]
    exact undone.journal_syncOptions

/-- Runs a command line a number of times. There is no answer if it fails once, or has something to
say. -/
def runSilently (nesting : Nat) (line : List Char) : (count : Nat) → Session → Option Session
  | 0, session => some session
  | count + 1, session =>
    match session.execute nesting line with
    | some (after, .ok none) =>
      if after.messages = [] then runSilently nesting line count after else none
    | _ => none

variable {before : Session} {redo turned : Bool}

theorem Turns.leadsTo (turns : Turns redo turned before after) :
    before.editor.journal.LeadsTo after.editor.journal := by
  obtain ⟨caret, _, same | ⟨_, limit, limited⟩⟩ := turns.journal
  · rw [same]
    exact before.editor.journal.leadsTo_turn redo caret
  · rw [limited]
    exact (before.editor.journal.leadsTo_turn redo caret).trans (.apply (.setLimit limit) trivial)

theorem runSilently_succ {nesting count : Nat} {line : List Char} {undone : Session}
    (executed : session.execute nesting line = some (after, .ok none)) (silent : after.messages = [])
    (ran : runSilently nesting line count after = some undone) :
    runSilently nesting line (count + 1) session = some undone := by
  unfold runSilently
  rw [executed]
  dsimp only
  rw [if_pos silent]
  exact ran

/-- Another limit opens no transaction and adds none to the past. -/
theorem Turns.history (turns : Turns redo turned before after) :
    ∃ caret, (before.editor.journal.turn redo caret).2.isSome = turned ∧
      after.editor.history.open? = (before.editor.journal.turn redo caret).1.history.open? ∧
      after.editor.history.past.length ≤
        (before.editor.journal.turn redo caret).1.history.past.length := by
  obtain ⟨caret, answered, same | ⟨_, limit, limited⟩⟩ := turns.journal
  · have history : after.editor.history = _ := congrArg Journal.history same
    rw [history]
    exact ⟨caret, answered, rfl, Nat.le_refl _⟩
  · have history : after.editor.history = _ := congrArg Journal.history limited
    rw [history]
    exact ⟨caret, answered, rfl, Journal.length_past_trim _⟩

theorem Turns.depth (turns : Turns false turned before after) :
    after.editor.history.open? = none ∧
      (turned = true → after.editor.journal.depth < before.editor.journal.depth) ∧
      (turned = false → after.editor.history.past = []) := by
  obtain ⟨caret, rfl, sameOpen, past⟩ := turns.history
  obtain ⟨closed, fewer, empty⟩ := before.editor.journal.depth_turn caret
  have isOpen := sameOpen.trans closed
  refine ⟨isOpen, fun undone => ?_, fun refused => ?_⟩
  · have depth : after.editor.journal.depth = after.editor.history.past.length := by
      unfold Journal.depth
      rw [show after.editor.journal.history.open? = none from isOpen]
      rfl
    have taken := fewer undone
    omega
  · rw [empty refused] at past
    exact List.eq_nil_of_length_eq_zero (Nat.le_zero.mp past)

/-- The sessions that transactions taken back one after the other lead to. -/
inductive TurnsBack : Nat → Session → Session → Prop where
  | none (session : Session) : TurnsBack 0 session session
  | more {before after undone : Session} {count : Nat} (turns : Turns false true before after)
      (rest : TurnsBack count after undone) : TurnsBack (count + 1) before undone

theorem TurnsBack.leadsTo {count : Nat} {undone : Session} (back : TurnsBack count session undone) :
    session.editor.journal.LeadsTo undone.editor.journal := by
  induction back with
  | none session => exact .refl _
  | more turns _ ih => exact turns.leadsTo.trans ih

/-- Lines that undo and have nothing to say have taken transactions back. -/
theorem turnsBack_of_runSilently {nesting count : Nat} {undone : Session}
    (idle : session.Idle (Editor.Steady start atRest))
    (ran : runSilently (nesting + 1) (turnLine false) count session = some undone) :
    TurnsBack count session undone ∧ undone.Idle (Editor.Steady start atRest) := by
  induction count generalizing session with
  | zero =>
    cases ran
    exact ⟨.none _, idle⟩
  | succ count ih =>
    obtain ⟨after, turned, executed, turns⟩ := turns_execute false nesting idle
    unfold runSilently at ran
    rw [executed] at ran
    dsimp only at ran
    split at ran
    · rename_i silent
      cases turned with
      | false =>
        rw [turns.messages] at silent
        cases silent
      | true =>
        obtain ⟨rest, kept⟩ := ih (idle.execute Editor.keptByCalls_steady executed) ran
        exact ⟨.more turns rest, kept⟩
    · cases ran

/-- A line that undoes and has something to say has found nothing to undo. -/
theorem turns_of_message {nesting : Nat} {result : LineResult}
    (idle : session.Idle (Editor.Steady start atRest))
    (executed : session.execute (nesting + 1) (turnLine false) = some (after, result))
    (message : after.messages ≠ []) : Turns false false session after := by
  obtain ⟨other, turned, ran, turns⟩ := turns_execute false nesting idle
  rw [ran] at executed
  cases executed
  cases turned with
  | false => exact turns
  | true => exact absurd turns.messages message

/-- Undoing comes to an end, since each time there is less to undo. -/
theorem exists_undone (nesting : Nat) (idle : session.Idle (Editor.Steady start atRest)) :
    ∃ count undone refused,
      runSilently (nesting + 1) (turnLine false) count session = some undone ∧
      undone.execute (nesting + 1) (turnLine false) = some (refused, .ok none) ∧
      refused.messages = [endMessage false] := by
  induction depthEq : session.editor.journal.depth using Nat.strongRecOn generalizing session with
  | ind depth ih =>
    obtain ⟨after, turned, executed, turns⟩ := turns_execute false nesting idle
    cases turned with
    | false => exact ⟨0, session, after, rfl, executed, turns.messages⟩
    | true =>
      have fewer := turns.depth.2.1 rfl
      obtain ⟨count, undone, refused, ran, last⟩ :=
        ih _ (depthEq ▸ fewer) (idle.execute Editor.keptByCalls_steady executed) rfl
      exact ⟨count + 1, undone, refused, runSilently_succ executed turns.messages ran, last⟩

/-- A line that undoes goes one text back in the story, if there is one. -/
theorem Turns.story_undo {timeline : Timeline} (turns : Turns false turned before after)
    (described : timeline.Describes before.editor.journal)
    (kept : after.editor.history.forgotten = before.editor.history.forgotten) :
    ∃ last : Timeline, last.Describes after.editor.journal ∧ last.draft? = none ∧
      last.story = timeline.close.story ∧
      last.past.length + turned.toNat = timeline.close.past.length := by
  obtain ⟨caret, rfl, journal⟩ := turns.journal
  have first := (before.editor.journal.leadsTo_turn false caret).forgotten_le
  rcases journal with same | ⟨_, limit, limited⟩
  · rw [same]
    have history : after.editor.history = _ := congrArg Journal.history same
    exact Timeline.story_turn_undo described caret (history ▸ kept)
  · have second := Journal.forgotten_le_apply
      (before.editor.journal.turn false caret).1 (.setLimit limit)
    have history : after.editor.history = _ := congrArg Journal.history limited
    have most : ((before.editor.journal.turn false caret).1.apply
        (.setLimit limit)).1.history.forgotten = before.editor.journal.history.forgotten :=
      history ▸ kept
    obtain ⟨middle, turnedTo, closed, story, past⟩ :=
      Timeline.story_turn_undo described caret (by omega)
    obtain ⟨last, limitedTo, sameDraft, sameStory, samePast⟩ :=
      Timeline.story_setLimit turnedTo limit (by omega)
    rw [limited]
    refine ⟨last, limitedTo, sameDraft.trans closed, sameStory.trans story, ?_⟩
    rw [samePast]
    exact past

theorem TurnsBack.story {timeline : Timeline} {count : Nat} {undone : Session}
    (back : TurnsBack count session undone)
    (described : timeline.Describes session.editor.journal)
    (kept : undone.editor.history.forgotten = session.editor.history.forgotten) :
    ∃ last : Timeline, last.Describes undone.editor.journal ∧
      last.close.story = timeline.close.story ∧
      last.close.past.length + count = timeline.close.past.length := by
  induction back generalizing timeline with
  | none session => exact ⟨timeline, described, rfl, rfl⟩
  | more turns rest ih =>
    have now := turns.leadsTo.forgotten_le
    have later := rest.leadsTo.forgotten_le
    dsimp only [Workspace.journal] at now later
    obtain ⟨middle, turnedTo, closed, story, past⟩ := turns.story_undo described (by omega)
    obtain ⟨last, undoneTo, sameStory, fewer⟩ := ih turnedTo (by omega)
    rw [Timeline.close_of_closed closed] at sameStory fewer
    refine ⟨last, undoneTo, sameStory.trans story, ?_⟩
    rw [Bool.toNat_true] at past
    omega

/-- Lines that redo go on in the story as long as there are texts. Once no options are to be heard of,
nothing is forgotten on the way. -/
theorem exists_redone {timeline : Timeline} (nesting count : Nat)
    (idle : session.Idle (Editor.Steady start atRest))
    (heard : session.editor.options.notices = [])
    (described : timeline.Describes session.editor.journal) (closed : timeline.draft? = none)
    (more : timeline.past.length + count < timeline.story.length) :
    ∃ redone last, runSilently (nesting + 1) (turnLine true) count session = some redone ∧
      Timeline.Describes last redone.editor.journal ∧ last.draft? = none ∧
      last.story = timeline.story ∧ last.past.length = timeline.past.length + count := by
  induction count generalizing session timeline with
  | zero => exact ⟨session, timeline, rfl, described, closed, rfl, rfl⟩
  | succ count ih =>
    obtain ⟨after, turned, executed, turns⟩ := turns_execute true nesting idle
    obtain ⟨caret, answered, journal⟩ := turns.journal
    have exact : after.editor.journal = (session.editor.journal.turn true caret).1 :=
      journal.resolve_right fun limited => limited.1 heard
    obtain ⟨answers, next, redoneTo, stillClosed, story, longer⟩ :=
      Timeline.story_turn_redo described closed (by omega) caret
    have silent : after.messages = [] := by
      rw [turns.messages, ← answered, answers]
      rfl
    obtain ⟨redone, last, ran, lastTo, lastClosed, lastStory, lastPast⟩ :=
      ih (idle.execute Editor.keptByCalls_steady executed) turns.heard (exact ▸ redoneTo) stillClosed
        (by rw [story]; omega)
    exact ⟨redone, last, runSilently_succ executed silent ran, lastTo, lastClosed,
      lastStory.trans story, by omega⟩

end Session

/-! ### All the way back

Undoing all that a session has done, and redoing it. The first text comes back just when no text has
been typed at a caret behind the end of the text.
-/

namespace Session

variable {window : Window} {session refused : Session}

theorem text_of_undone (unselected : window.Unselected) (reachable : Reachable window session)
    (leads : session.editor.journal.LeadsTo refused.editor.journal)
    (kept : refused.editor.history.forgotten = 0) (undone : refused.editor.history.past = [])
    (closed : refused.editor.history.open? = none) :
    refused.text = window.text ↔ session.editor.strays = 0 := by
  have idle : session.Idle (Editor.Steady (firstJournal window) False) :=
    reachable.idle unselected False.elim
  obtain ⟨inside, outside⟩ := idle.steady.editor.sound.recorded
  constructor
  · intro restored
    by_contra strays
    have longer := ((outside strays).leadsTo leads).length_of_undone kept undone closed
    have same : refused.editor.journal.text = window.text := restored
    rw [same] at longer
    exact absurd longer (Nat.lt_irrefl _)
  · intro strays
    exact ((inside strays).trans leads).text_of_undone kept undone closed

/-- A session whose text has been recorded has a timeline. -/
theorem exists_timeline (unselected : window.Unselected) (reachable : Reachable window session)
    (strays : session.editor.strays = 0) :
    ∃ timeline : Timeline, timeline.Describes session.editor.journal := by
  have idle : session.Idle (Editor.Steady (firstJournal window) False) :=
    reachable.idle unselected False.elim
  obtain ⟨ops, permitted, ran⟩ := idle.steady.editor.sound.recorded.inside strays
  have started := Timeline.describes_start window.text (firstJournal window).history.limit
  obtain ⟨described, _⟩ := Timeline.describes_run started permitted
  exact ⟨_, ran ▸ described⟩

/-- Whether undoing goes on for a number of times, and then has nothing left to undo. -/
def Undoes (nesting count : Nat) (session refused : Session) : Prop :=
  ∃ undone, runSilently nesting "undo".toList count session = some undone ∧
    undone.execute nesting "undo".toList = some (refused, .ok none) ∧
    refused.messages = ["Already at oldest change"]

/-- After everything has been undone, redoing as often goes through the same story up to the text from
before. -/
theorem TurnsBack.exists_redone {start : Journal} {atRest : Prop} {timeline : Timeline} {count : Nat}
    {undone : Session} (back : TurnsBack count session undone)
    (turns : Turns false false undone refused)
    (refusedIdle : refused.Idle (Editor.Steady start atRest))
    (described : timeline.Describes session.editor.journal)
    (kept : refused.editor.history.forgotten = 0) (nesting : Nat) :
    ∃ redone, runSilently (nesting + 1) "redo".toList count refused = some redone ∧
      redone.text = session.text := by
  have first := back.leadsTo.forgotten_le
  have second := turns.leadsTo.forgotten_le
  dsimp only [Workspace.journal] at first second
  obtain ⟨middle, undoneTo, middleStory, middlePast⟩ := back.story described (by omega)
  obtain ⟨last, refusedTo, lastClosed, lastStory, lastPast⟩ := turns.story_undo undoneTo (by omega)
  obtain ⟨_, _, nothing⟩ := turns.depth
  have none : last.past.length = 0 := by
    rw [← refusedTo.past.length_eq]
    exact congrArg List.length (nothing rfl)
  have story : last.story = timeline.close.story := lastStory.trans middleStory
  have place : count = timeline.close.past.length := by
    rw [Bool.toNat_false] at lastPast
    omega
  have more : last.past.length + count < last.story.length := by
    rw [none, story, place, Nat.zero_add]
    exact timeline.close.length_past_lt_story
  obtain ⟨redone, again, ran, redoneTo, againClosed, againStory, againPast⟩ :=
    Session.exists_redone nesting count refusedIdle turns.heard refusedTo lastClosed more
  refine ⟨redone, ran, ?_⟩
  have closes : timeline.close.Describes ⟨session.editor.history.close, session.text⟩ :=
    Timeline.describes_close described
  calc redone.text
    _ = again.present := redoneTo.present.symm
    _ = timeline.close.present :=
      Timeline.present_of_story againClosed timeline.draft?_close (againStory.trans story) (by omega)
    _ = session.text := closes.present

/-- Undoing comes to an end. That brings the first text back, and redoing as often brings back the
text from before, just when no text has been typed at a caret behind the end of the text. Nothing else
is asked of the keys and command lines that have led to the session but that no transaction has been
forgotten. -/
theorem Reachable.undo_restores (unselected : window.Unselected)
    (reachable : Reachable window session) (nesting : Nat) :
    (∃ count refused, Undoes (nesting + 1) count session refused) ∧
      ∀ count refused, Undoes (nesting + 1) count session refused →
        refused.editor.history.forgotten = 0 →
        ((refused.text = window.text ∧
            ∃ redone, runSilently (nesting + 1) "redo".toList count refused = some redone ∧
              redone.text = session.text) ↔
          session.editor.strays = 0) := by
  have idle : session.Idle (Editor.Steady (firstJournal window) False) :=
    reachable.idle unselected False.elim
  constructor
  · obtain ⟨count, undone, refused, ends⟩ := exists_undone nesting idle
    exact ⟨count, refused, undone, ends⟩
  intro count refused ⟨undone, ran, executed, message⟩ kept
  obtain ⟨back, undoneIdle⟩ := turnsBack_of_runSilently idle ran
  have turns := turns_of_message undoneIdle executed (message ▸ List.cons_ne_nil _ _)
  have refusedIdle := undoneIdle.execute Editor.keptByCalls_steady executed
  have leads := back.leadsTo.trans turns.leadsTo
  obtain ⟨closed, _, nothing⟩ := turns.depth
  have restores := text_of_undone unselected reachable leads kept (nothing rfl) closed
  refine ⟨fun both => restores.mp both.1, fun strays => ⟨restores.mpr strays, ?_⟩⟩
  obtain ⟨timeline, described⟩ := exists_timeline unselected reachable strays
  exact back.exists_redone turns refusedIdle described kept nesting

/-- Two insertions, which are undone and made again. -/
theorem Reachable.undo_restores_typing :
    let window : Window := { text := ['a', 'b'] }
    ∃ session refused, Reachable window session ∧ session.text = ['x', 'a', 'b', 'y'] ∧
      Undoes 1 2 session refused ∧ refused.text = ['a', 'b'] ∧
      ∃ redone, runSilently 1 "redo".toList 2 refused = some redone ∧
        redone.text = ['x', 'a', 'b', 'y'] := by
  intro window
  have typed : ((ofWindow window).feedAll 1
      [.ofChar 'i', .ofChar 'x', .escape, .ofChar 'A', .ofChar 'y', .escape]).any (fun answer =>
        answer.1.text = ['x', 'a', 'b', 'y'] ∧ answer.1.editor.strays = 0 ∧
          (runSilently 1 "undo".toList 2 answer.1).any fun undone =>
            (undone.execute 1 "undo".toList).any fun last =>
              last.2.toOption = some none ∧ last.1.messages = ["Already at oldest change"] ∧
                last.1.editor.history.forgotten = 0) = true := by
    decide +kernel
  obtain ⟨⟨session, results⟩, fed, answered⟩ := (Option.any_eq_true _ _).mp typed
  obtain ⟨text, strays, undoes⟩ := of_decide_eq_true answered
  obtain ⟨undone, ran, undoes⟩ := (Option.any_eq_true _ _).mp undoes
  obtain ⟨⟨refused, result⟩, executed, undoes⟩ := (Option.any_eq_true _ _).mp undoes
  obtain ⟨succeeded, message, kept⟩ := of_decide_eq_true undoes
  have silent : result = .ok none := by
    cases result with
    | ok output? => exact congrArg Except.ok (Option.some.inj succeeded)
    | error error => cases succeeded
  have reachable : Reachable window session := Reachable.start.feedAll fed
  have ends : Undoes 1 2 session refused := ⟨undone, ran, silent ▸ executed, message⟩
  obtain ⟨_, restores⟩ := Reachable.undo_restores ⟨by decide, by decide⟩ reachable 0
  obtain ⟨restored, redone, again, same⟩ := (restores 2 refused ends kept).mpr strays
  exact ⟨session, refused, reachable, text, ends, restored, redone, again, same.trans text⟩

/-- A key typed over two blocks, one on each line. The block on the second line is taken out first, and
its place stays as it was found when the other block goes, which leaves it behind the end of the text.
What is typed there is not gone once it has been undone. -/
example :
    let window : Window := { text := "abcdef\nabcdef".toList }
    let keys : List Key := [.ctrl 'v', .ofChar 'j', .ofChar 'I', .named .end,
      ⟨.left, { shift := true }⟩, .ofChar 'h', .ofChar 'h', .ctrl 'v', .ctrl 'g', .ofChar 'x', .escape]
    (do
      let (set, _) ← (ofWindow window).execute 1 "set keymodel=startsel".toList
      let (typed, _) ← set.feedAll 1 keys
      let undone ← runSilently 1 "undo".toList 1 typed
      let (refused, _) ← undone.execute 1 "undo".toList
      return (typed.text, typed.editor.strays, refused.text, refused.messages)) =
    some ("abcx\nabcx".toList, 1, "abcdef\nabcdefx".toList, ["Already at oldest change"]) := by
  decide +kernel

end Session

end ModalEdit

import ModalEdit.Proofs.Session.Calls
import ModalEdit.Session.Run

/-!
What every key keeps, keys keep that are used one after the other, however mappings expand them. So every
command keeps the session steady: what every call keeps still holds of its editor, and its commands are run by
the handlers of a fresh session.
-/

set_option autoImplicit false

namespace ModalEdit

/-- Whether what holds of a session still holds after a key. -/
def KeyRunner.Preserves (press : KeyRunner) (holds : Session → Prop) : Prop :=
  ∀ session key after result, holds session → press session key = some (after, result) → holds after

/-- Whether what holds of a session still holds after a command line. -/
def LineRunner.Preserves (run : LineRunner) (holds : Session → Prop) : Prop :=
  ∀ session line after result, holds session → run session line = some (after, result) → holds after

namespace Session

variable {holds : Session → Prop} {press : KeyRunner}

theorem pressAll_preserves (preserves : press.Preserves holds) {keys : List Key} {session : Session}
    {result : KeyResult} {failed : Bool} {outcome : Session × KeyResult × Bool}
    (held : holds session) (pressed : pressAll press keys session result failed = some outcome) :
    holds outcome.1 := by
  induction keys generalizing session result failed with
  | nil =>
    cases pressed
    exact held
  | cons key rest ih =>
    obtain ⟨⟨after, answer⟩, taken, others⟩ := Option.bind_eq_some_iff.mp pressed
    exact ih (preserves session key after answer held taken) others

/-- Keys that wait are used up or go on waiting. Where they expand to others, `next?` goes on. -/
theorem drainUntilMapped_preserves (preserves : press.Preserves holds)
    (fails : ∀ session error, holds session → holds (session.fail error)) {flush : Bool}
    {next? : Option (List Key → Session → KeyResult → Option Drained)}
    (nexts : ∀ next, next? = some next → ∀ keys session result drained,
      holds session → next keys session result = some drained → holds drained.1)
    {keys : List Key} {session : Session} {result : KeyResult} {drained : Drained}
    (held : holds session)
    (ran : drainUntilMapped press flush next? keys session result = some drained) :
    holds drained.1 := by
  induction keys generalizing session result with
  | nil =>
    cases ran
    exact held
  | cons key rest ih =>
    unfold drainUntilMapped at ran
    split at ran
    · cases ran
      exact held
    · obtain ⟨⟨after, answer⟩, taken, others⟩ := Option.bind_eq_some_iff.mp ran
      have kept := preserves session key after answer held taken
      dsimp only at others
      split at others
      · cases others
        exact kept
      · exact ih kept others
    · split at ran
      · cases ran
        exact fails session .recursiveMapping held
      · rename_i next
        obtain ⟨⟨after, answer, failed⟩, taken, others⟩ := Option.bind_eq_some_iff.mp ran
        exact nexts next rfl _ after answer drained (pressAll_preserves preserves held taken) others

theorem drain_preserves (preserves : press.Preserves holds)
    (fails : ∀ session error, holds session → holds (session.fail error)) {flush : Bool}
    {expansions : Nat} {keys : List Key} {session : Session} {result : KeyResult}
    {drained : Drained} (held : holds session)
    (ran : drain press flush expansions keys session result = some drained) :
    holds drained.1 := by
  induction expansions generalizing keys session result drained with
  | zero =>
    refine drainUntilMapped_preserves preserves fails ?_ held ran
    intro next absurd
    cases absurd
  | succ expansions ih =>
    refine drainUntilMapped_preserves preserves fails ?_ held ran
    intro next same keys session result drained held ran
    cases same
    exact ih held ran

theorem typeKeys_preserves (preserves : press.Preserves holds)
    (fails : ∀ session error, holds session → holds (session.fail error)) {remap : Bool}
    {keys waiting : List Key} {session : Session} {typed : Session × List Key}
    (held : holds session) (ran : typeKeys press remap keys waiting session = some typed) :
    holds typed.1 := by
  induction keys generalizing waiting session with
  | nil =>
    cases ran
    exact held
  | cons key rest ih =>
    unfold typeKeys at ran
    split at ran
    · obtain ⟨⟨after, still, answer⟩, drained, others⟩ := Option.bind_eq_some_iff.mp ran
      exact ih (drain_preserves preserves fails held drained) others
    · obtain ⟨⟨after, answer⟩, taken, others⟩ := Option.bind_eq_some_iff.mp ran
      exact ih (preserves session key after answer held taken) others

/-- Keys taken as if they were typed end in the editor escaping whatever they led to. -/
theorem runKeys_preserves (preserves : press.Preserves holds)
    (fails : ∀ session error, holds session → holds (session.fail error)) {remap : Bool}
    {keys : List Key} {session after : Session} (held : holds session)
    (ran : runKeys press session keys remap = some after) :
    ∃ before, holds before ∧ after = (before.update Editor.escape).collectReport := by
  obtain ⟨⟨typed, waiting⟩, typing, ran⟩ := Option.bind_eq_some_iff.mp ran
  obtain ⟨⟨drained, others, answer⟩, draining, ended⟩ := Option.bind_eq_some_iff.mp ran
  cases ended
  have kept := typeKeys_preserves preserves fails held typing
  exact ⟨drained, drain_preserves preserves fails kept draining, rfl⟩

end Session

namespace Session

/-- Something holds of the editor, and every command is run by the handler of a fresh session. -/
structure Steady (holds : Editor → Prop) (session : Session) : Prop where
  editor : holds session.editor
  handlers : session.handlers = fun id => some (.ofId id)

/-- Nothing is different in the editor but what may be retuned, and the handlers are the same. -/
structure Retunes (before after : Session) : Prop where
  editor : before.editor.Retunes after.editor
  handlers : after.handlers = before.handlers

variable {holds : Editor → Prop} {session before after : Session}

theorem Retunes.refl (session : Session) : session.Retunes session :=
  ⟨⟨rfl, rfl, rfl, rfl, rfl, rfl, Or.inl rfl⟩, rfl⟩

theorem Steady.call {editor : Editor} {call : Editor.Call} (kept : Editor.KeptByCalls holds)
    (steady : session.Steady holds) (answers : session.editor.Answers call editor) :
    Steady holds { session with editor } :=
  ⟨kept _ _ _ steady.editor answers, steady.handlers⟩

theorem Steady.retune (kept : Editor.KeptByCalls holds) (steady : before.Steady holds)
    (retunes : before.Retunes after) : after.Steady holds :=
  ⟨kept _ _ _ steady.editor (.retune retunes.editor), retunes.handlers.trans steady.handlers⟩

theorem retunes_setEnvironment (session : Session) (environment : Script.Environment) :
    session.Retunes (session.setEnvironment environment) :=
  ⟨⟨rfl, rfl, rfl, rfl, rfl, rfl, Or.inl rfl⟩, rfl⟩

theorem retunes_runDigraphs (session : Session) (command : Command) :
    session.Retunes (session.runDigraphs command).1 := by
  unfold runDigraphs
  dsimp only
  split
  · exact .refl session
  · exact ⟨⟨rfl, rfl, rfl, rfl, rfl, rfl, Or.inl rfl⟩, rfl⟩

theorem retunes_runSet (session : Session) (command : Command) :
    session.Retunes (session.runSet command).1 :=
  ⟨⟨rfl, rfl, rfl, rfl, rfl, rfl, Or.inl rfl⟩, rfl⟩

theorem retunes_setMappings (session : Session) (mappings : Except EditorError MappingTable) :
    session.Retunes (session.setMappings mappings).1 := by
  cases mappings with
  | ok mappings => exact ⟨⟨rfl, rfl, rfl, rfl, rfl, rfl, Or.inl rfl⟩, rfl⟩
  | error error => exact .refl session

theorem retunes_runMap (session : Session) (command : Command) :
    session.Retunes (session.runMap command).1 := by
  unfold runMap
  split
  · split
    · unfold runMapIn
      dsimp only
      split
      · split
        · exact .refl session
        · exact session.retunes_setMappings _
      · split
        · exact .refl session
        · exact session.retunes_setMappings _
    · exact .refl session
  · exact .refl session

theorem retunes_runEcho (session : Session) (command : Command) :
    session.Retunes (session.runEcho command).1 := by
  unfold runEcho
  split
  · split <;> exact .refl session
  · exact .refl session

theorem retunes_runAssignment (session : Session) (command : Command) :
    session.Retunes (session.runAssignment command).1 := by
  unfold runAssignment
  split
  · exact session.retunes_setEnvironment _
  · split <;> exact .refl session
  · exact .refl session

theorem retunes_runUnlet (session : Session) (command : Command) :
    session.Retunes (session.runUnlet command).1 := by
  unfold runUnlet
  split
  · exact ⟨⟨rfl, rfl, rfl, rfl, rfl, rfl, Or.inl rfl⟩, rfl⟩
  · exact .refl session

theorem retunes_runCall (session : Session) (command : Command) :
    session.Retunes (session.runCall command).1 := by
  unfold runCall
  split <;> exact .refl session

theorem retunes_say (session : Session) (message : String) :
    session.Retunes (session.say message) :=
  ⟨⟨rfl, rfl, rfl, rfl, rfl, rfl, Or.inl rfl⟩, rfl⟩

theorem retunes_clearStatus (session : Session) : session.Retunes session.clearStatus :=
  ⟨⟨rfl, rfl, rfl, rfl, rfl, rfl, Or.inl rfl⟩, rfl⟩

theorem retunes_collectReport (session : Session) : session.Retunes session.collectReport := by
  unfold collectReport
  split <;> exact ⟨⟨rfl, rfl, rfl, rfl, rfl, rfl, Or.inl rfl⟩, rfl⟩

/-- Changed options reach the window as tab stops and the history as a limit. -/
theorem retunes_syncOptions (session : Session) : session.Retunes session.syncOptions := by
  have window (tabWidth? : Option Nat) :
      (tabWidth?.elim session.editor.window session.editor.window.setTabWidth).carets =
          session.editor.carets ∧
        (tabWidth?.elim session.editor.window session.editor.window.setTabWidth).text =
          session.editor.text := by
    cases tabWidth? <;> exact ⟨rfl, rfl⟩
  have history (limit? : Option Nat) :
      limit?.elim session.editor.history session.editor.history.setLimit = session.editor.history ∨
        ∃ limit, limit?.elim session.editor.history session.editor.history.setLimit =
          session.editor.history.setLimit limit := by
    cases limit? with
    | none => exact Or.inl rfl
    | some limit => exact Or.inr ⟨limit, rfl⟩
  unfold syncOptions
  dsimp only
  exact ⟨⟨(window _).1, (window _).2, rfl, rfl, rfl, rfl, history _⟩, rfl⟩

theorem Steady.say (kept : Editor.KeptByCalls holds) (steady : session.Steady holds)
    (message : String) : (session.say message).Steady holds :=
  steady.retune kept (session.retunes_say message)

theorem Steady.fail (kept : Editor.KeptByCalls holds) (steady : session.Steady holds)
    (error : SessionError) : (session.fail error).Steady holds :=
  ⟨kept _ _ _ (steady.say kept error.message).editor .reset, steady.handlers⟩

theorem steady_runUndo (kept : Editor.KeptByCalls holds) (redo : Bool)
    (steady : session.Steady holds) : (session.runUndo redo).1.Steady holds :=
  steady.call kept (.undoOnce redo)

theorem Steady.report (kept : Editor.KeptByCalls holds) (steady : session.Steady holds)
    (report? : Option String) : (report?.elim session session.say).Steady holds := by
  cases report? with
  | none => exact steady
  | some message => exact steady.say kept message

theorem steady_runOnLines (kept : Editor.KeptByCalls holds) (operator : Operator)
    (command : Command) (steady : session.Steady holds) :
    (session.runOnLines operator command).1.Steady holds := by
  have edited (first last : Nat) (register? : Option Char) : Steady holds { session with
      editor := (applyToLines session.editor operator first last register?).1 } :=
    steady.call kept (.applyToLines operator first last register?)
  unfold runOnLines
  dsimp only
  split
  · exact steady
  · exact (edited _ _ _).report kept _

theorem steady_runGoto (kept : Editor.KeptByCalls holds) (command : Command)
    (steady : session.Steady holds) : (session.runGoto command).1.Steady holds := by
  unfold runGoto
  split
  · exact steady
  · split
    · exact steady
    · exact steady.call kept (.goto _)

end Session

end ModalEdit

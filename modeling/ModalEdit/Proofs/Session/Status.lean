import ModalEdit.Session.Run

/-!
What a session shows is only shown, and keys that wait only wait: keys and command lines do the same in
sessions that differ in nothing but their messages, their last error and the keys that wait.
-/

set_option autoImplicit false

namespace ModalEdit

namespace Session

/-- Nothing is different but what is shown and the keys that wait. -/
def Agrees (session other : Session) : Prop :=
  { session.clearStatus with typeahead := [] } = { other.clearStatus with typeahead := [] }

/-- Outcomes with the same answer, in sessions that agree; or no outcome at all. -/
def EndAlike {α : Type} : Option (Session × α) → Option (Session × α) → Prop :=
  Option.Rel fun outcome other => outcome.1.Agrees other.1 ∧ outcome.2 = other.2

end Session

/-- Whether lines end alike in sessions that agree. -/
def LineRunner.Agrees (run run' : LineRunner) : Prop :=
  ∀ session other line, session.Agrees other → Session.EndAlike (run session line) (run' other line)

/-- Whether keys end alike in sessions that agree. -/
def KeyRunner.Agrees (press press' : KeyRunner) : Prop :=
  ∀ session other key, session.Agrees other → Session.EndAlike (press session key) (press' other key)

namespace Session

variable {session other third : Session}

namespace Agrees

theorem refl (session : Session) : session.Agrees session :=
  rfl

theorem symm (agrees : session.Agrees other) : other.Agrees session :=
  Eq.symm agrees

theorem trans (agrees : session.Agrees other) (agreesToo : other.Agrees third) :
    session.Agrees third :=
  Eq.trans agrees agreesToo

theorem status (agrees : session.Agrees other) :
    ∃ typeahead lastError? messages, other = { session with typeahead, lastError?, messages } := by
  obtain ⟨editor, mappings, vars, handlers, typeahead, lastError?, messages⟩ := other
  unfold Agrees clearStatus at agrees
  injection agrees with editorEq mappingsEq varsEq handlersEq
  subst editorEq mappingsEq varsEq handlersEq
  exact ⟨typeahead, lastError?, messages, rfl⟩

theorem editor (agrees : session.Agrees other) : other.editor = session.editor := by
  obtain ⟨typeahead, lastError?, messages, rfl⟩ := agrees.status
  rfl

theorem mappings (agrees : session.Agrees other) : other.mappings = session.mappings := by
  obtain ⟨typeahead, lastError?, messages, rfl⟩ := agrees.status
  rfl

theorem environment (agrees : session.Agrees other) : other.environment = session.environment := by
  obtain ⟨typeahead, lastError?, messages, rfl⟩ := agrees.status
  rfl

theorem handlers (agrees : session.Agrees other) : other.handlers = session.handlers := by
  obtain ⟨typeahead, lastError?, messages, rfl⟩ := agrees.status
  rfl

theorem say (agrees : session.Agrees other) (message : String) :
    (session.say message).Agrees (other.say message) :=
  agrees

theorem update (agrees : session.Agrees other) (f : Editor → Editor) :
    (session.update f).Agrees (other.update f) :=
  congrArg (Session.update · f) agrees

theorem fail (agrees : session.Agrees other) (error : SessionError) :
    (session.fail error).Agrees (other.fail error) :=
  agrees.update Editor.reset

theorem syncOptions (agrees : session.Agrees other) :
    session.syncOptions.Agrees other.syncOptions :=
  congrArg Session.syncOptions agrees

theorem collectReport (agrees : session.Agrees other) :
    session.collectReport.Agrees other.collectReport := by
  unfold Session.collectReport
  rw [agrees.editor]
  cases session.editor.message? with
  | none => exact agrees
  | some message => exact (agrees.update _).say message

theorem afterLine (agrees : session.Agrees other) (result : LineResult) :
    (session.afterLine result).1.Agrees (other.afterLine result).1 ∧
      (session.afterLine result).2 = (other.afterLine result).2 := by
  cases result with
  | error error => exact ⟨agrees.fail error, rfl⟩
  | ok output? =>
    refine ⟨?_, rfl⟩
    cases output? with
    | none => exact agrees
    | some output => exact agrees.say output

end Agrees

theorem agrees_clearStatus (session : Session) : session.Agrees session.clearStatus :=
  rfl

theorem agrees_withTypeahead (session : Session) (typeahead : List Key) :
    session.Agrees { session with typeahead } :=
  rfl

theorem EndAlike.bind {α β : Type} {outcome? other? : Option (Session × α)}
    {next next' : Session × α → Option (Session × β)} (alike : EndAlike outcome? other?)
    (nexts : ∀ session other answer, session.Agrees other →
      EndAlike (next (session, answer)) (next' (other, answer))) :
    EndAlike (outcome?.bind next) (other?.bind next') := by
  cases alike with
  | none => exact .none
  | @some outcome other related =>
    obtain ⟨session, answer⟩ := outcome
    obtain ⟨session', answer'⟩ := other
    obtain ⟨agrees, rfl⟩ := related
    exact nexts session session' answer agrees

theorem EndAlike.map {α β : Type} {outcome? other? : Option (Session × α)}
    {f f' : Session × α → Session × β} (alike : EndAlike outcome? other?)
    (maps : ∀ session other answer, session.Agrees other →
      (f (session, answer)).1.Agrees (f' (other, answer)).1 ∧
        (f (session, answer)).2 = (f' (other, answer)).2) :
    EndAlike (outcome?.map f) (other?.map f') := by
  rw [Option.map_eq_bind, Option.map_eq_bind]
  exact alike.bind fun session other answer agrees => .some (maps session other answer agrees)

/-! ### Commands that run no other line -/

/-- Whether a command does the same in sessions that agree. -/
def Blind (command : Session → Session × LineResult) : Prop :=
  ∀ session other, session.Agrees other →
    (command session).1.Agrees (command other).1 ∧ (command session).2 = (command other).2

theorem blind_runCall (command : Command) : Blind (runCall · command) := by
  intro session other agrees
  obtain ⟨typeahead, lastError?, messages, rfl⟩ := agrees.status
  unfold runCall
  split <;> exact ⟨rfl, rfl⟩

theorem blind_runDigraphs (command : Command) : Blind (runDigraphs · command) := by
  intro session other agrees
  obtain ⟨typeahead, lastError?, messages, rfl⟩ := agrees.status
  unfold runDigraphs
  dsimp only
  split <;> exact ⟨rfl, rfl⟩

theorem blind_runEcho (command : Command) : Blind (runEcho · command) := by
  intro session other agrees
  dsimp only
  unfold runEcho
  rw [agrees.environment]
  split
  · split <;> exact ⟨agrees, rfl⟩
  · exact ⟨agrees, rfl⟩

theorem blind_runGoto (command : Command) : Blind (runGoto · command) := by
  intro session other agrees
  obtain ⟨typeahead, lastError?, messages, rfl⟩ := agrees.status
  unfold runGoto linesOf
  split
  · exact ⟨rfl, rfl⟩
  · dsimp only [Session.text]
    split <;> exact ⟨rfl, rfl⟩

theorem blind_runAssignment (command : Command) : Blind (runAssignment · command) := by
  intro session other agrees
  obtain ⟨typeahead, lastError?, messages, rfl⟩ := agrees.status
  unfold runAssignment
  split
  · exact ⟨rfl, rfl⟩
  · dsimp only
    split <;> exact ⟨rfl, rfl⟩
  · exact ⟨rfl, rfl⟩

theorem blind_setMappings (mappings : Except EditorError MappingTable) :
    Blind (setMappings · mappings) := by
  intro session other agrees
  obtain ⟨typeahead, lastError?, messages, rfl⟩ := agrees.status
  cases mappings <;> exact ⟨rfl, rfl⟩

theorem blind_runMap (command : Command) : Blind (runMap · command) := by
  intro session other agrees
  dsimp only
  unfold runMap
  split
  · split
    · unfold runMapIn
      rw [agrees.mappings]
      dsimp only
      split
      · split
        · exact ⟨agrees, rfl⟩
        · exact blind_setMappings _ session other agrees
      · split
        · exact ⟨agrees, rfl⟩
        · exact blind_setMappings _ session other agrees
    · exact ⟨agrees, rfl⟩
  · exact ⟨agrees, rfl⟩

theorem blind_runUndo (redo : Bool) : Blind (runUndo · redo) := by
  intro session other agrees
  unfold runUndo
  exact ⟨agrees.update _, rfl⟩

theorem blind_runSet (command : Command) : Blind (runSet · command) := by
  intro session other agrees
  obtain ⟨typeahead, lastError?, messages, rfl⟩ := agrees.status
  exact ⟨rfl, rfl⟩

theorem blind_runUnlet (command : Command) : Blind (runUnlet · command) := by
  intro session other agrees
  obtain ⟨typeahead, lastError?, messages, rfl⟩ := agrees.status
  unfold runUnlet
  split <;> exact ⟨rfl, rfl⟩

theorem blind_runOnLines (operator : Operator) (command : Command) :
    Blind (runOnLines · operator command) := by
  intro session other agrees
  obtain ⟨typeahead, lastError?, messages, rfl⟩ := agrees.status
  have counted (count? : Option Nat) :
      countedLines { session with typeahead, lastError?, messages } command count? =
        session.countedLines command count? := by
    unfold countedLines linesOf Session.text
    rfl
  unfold runOnLines
  simp only [counted]
  split
  · exact ⟨rfl, rfl⟩
  · rename_i first last _
    generalize applyToLines session.editor operator first last _ = edited
    obtain ⟨editor, applied⟩ := edited
    dsimp only
    refine ⟨?_, rfl⟩
    generalize Editor.reportOf? operator _ _ applied = report?
    cases report? <;> rfl

/-! ### Keys -/

variable {run run' : LineRunner} {press press' : KeyRunner}

theorem agrees_pressKey (runs : run.Agrees run') : (pressKey run).Agrees (pressKey run') := by
  intro session other key agrees
  obtain ⟨typeahead, lastError?, messages, rfl⟩ := agrees.status
  unfold pressKey
  dsimp only
  generalize session.editor.press key = pressed
  obtain ⟨editor, step⟩ := pressed
  have collected : (collectReport { session with editor }).Agrees
      (collectReport { session with editor, typeahead, lastError?, messages }) :=
    Agrees.collectReport rfl
  cases step with
  | execute line =>
    exact (runs _ _ line collected).map fun _ _ result agrees => agrees.afterLine result
  | done => exact .some ⟨collected, rfl⟩
  | pending => exact .some ⟨collected, rfl⟩
  | rejected => exact .some ⟨collected, rfl⟩

theorem agrees_pressAll (presses : press.Agrees press') (agrees : session.Agrees other)
    (keys : List Key) (result : KeyResult) (failed : Bool) :
    EndAlike (pressAll press keys session result failed)
      (pressAll press' keys other result failed) := by
  induction keys generalizing session other result failed with
  | nil => exact .some ⟨agrees, rfl⟩
  | cons key rest ih =>
    exact (presses session other key agrees).bind fun _ _ answer agrees => ih agrees answer _

theorem agrees_drainUntilMapped (presses : press.Agrees press') {flush : Bool}
    {next? next'? : Option (List Key → Session → KeyResult → Option Drained)}
    (nexts : Option.Rel (fun next next' => ∀ keys session other result, session.Agrees other →
      EndAlike (next keys session result) (next' keys other result)) next? next'?)
    (agrees : session.Agrees other) (keys : List Key) (result : KeyResult) :
    EndAlike (drainUntilMapped press flush next? keys session result)
      (drainUntilMapped press' flush next'? keys other result) := by
  induction keys generalizing session other result with
  | nil => exact .some ⟨agrees, rfl⟩
  | cons key rest ih =>
    unfold drainUntilMapped
    rw [agrees.mappings, agrees.editor]
    split
    · exact .some ⟨agrees, rfl⟩
    · refine (presses session other key agrees).bind fun _ _ answer agrees => ?_
      dsimp only
      split
      · exact .some ⟨agrees, rfl⟩
      · exact ih agrees answer
    · cases nexts with
      | none => exact .some ⟨agrees.fail _, rfl⟩
      | some nexts =>
        exact (agrees_pressAll presses agrees _ result false).bind
          fun _ _ answer agrees => nexts _ _ _ _ agrees

theorem agrees_drain (presses : press.Agrees press') (flush : Bool) (expansions : Nat)
    (agrees : session.Agrees other) (keys : List Key) (result : KeyResult) :
    EndAlike (drain press flush expansions keys session result)
      (drain press' flush expansions keys other result) := by
  induction expansions generalizing session other keys result with
  | zero => exact agrees_drainUntilMapped presses .none agrees keys result
  | succ expansions ih =>
    exact agrees_drainUntilMapped presses
      (.some fun keys session other result agrees => ih agrees keys result) agrees keys result

theorem agrees_typeKeys (presses : press.Agrees press') (remap : Bool)
    (agrees : session.Agrees other) (keys waiting : List Key) :
    EndAlike (typeKeys press remap keys waiting session)
      (typeKeys press' remap keys waiting other) := by
  induction keys generalizing session other waiting with
  | nil => exact .some ⟨agrees, rfl⟩
  | cons key rest ih =>
    unfold typeKeys
    split
    · exact (agrees_drain presses false maxExpansions agrees _ _).bind
        fun _ _ answer agrees => ih agrees answer.1
    · exact (presses session other key agrees).bind fun _ _ _ agrees => ih agrees waiting

theorem agrees_runKeys (presses : press.Agrees press') (agrees : session.Agrees other)
    (keys : List Key) (remap : Bool) :
    Option.Rel Agrees (runKeys press session keys remap) (runKeys press' other keys remap) := by
  have typed := agrees_typeKeys presses remap agrees keys []
  unfold runKeys
  generalize typeKeys press remap keys [] session = typed? at typed ⊢
  generalize typeKeys press' remap keys [] other = typed'? at typed ⊢
  cases typed with
  | none => exact .none
  | @some typed typed' related =>
    obtain ⟨after, waiting⟩ := typed
    obtain ⟨after', waiting'⟩ := typed'
    obtain ⟨agrees, rfl⟩ := related
    have drained := agrees_drain presses true maxExpansions agrees waiting .consumed
    dsimp only [bind, Option.bind]
    generalize drain press true maxExpansions waiting after .consumed = drained? at drained ⊢
    generalize drain press' true maxExpansions waiting after' .consumed = drained'? at drained ⊢
    cases drained with
    | none => exact .none
    | some related => exact .some (related.1.update _).collectReport

/-! ### Lines -/

theorem agrees_runExecute (runs : run.Agrees run') (agrees : session.Agrees other)
    (command : Command) :
    EndAlike (session.runExecute run command) (other.runExecute run' command) := by
  unfold runExecute
  rw [agrees.environment]
  split
  · split
    · exact runs session other _ agrees
    · exact .some ⟨agrees, rfl⟩
  · exact .some ⟨agrees, rfl⟩

theorem agrees_runNormal (runs : run.Agrees run') (agrees : session.Agrees other)
    (command : Command) :
    EndAlike (session.runNormal run command) (other.runNormal run' command) := by
  unfold runNormal
  dsimp only
  split
  · exact .some ⟨agrees, rfl⟩
  · have ran := agrees_runKeys (agrees_pressKey runs) agrees
      (command.rawText.toList.map Key.ofControlChar) (!command.bang)
    generalize runKeys (pressKey run) session _ _ = ran? at ran ⊢
    generalize runKeys (pressKey run') other _ _ = ran'? at ran ⊢
    cases ran with
    | none => exact .none
    | some agrees => exact .some ⟨agrees, rfl⟩

theorem agrees_runCommand (runs : run.Agrees run') (agrees : session.Agrees other)
    (command : Command) :
    EndAlike (session.runCommand run command) (other.runCommand run' command) := by
  unfold runCommand
  rw [agrees.handlers]
  split
  · exact .some ⟨agrees, rfl⟩
  · split
    · rename_i handler _
      cases handler with
      | call => exact .some (blind_runCall command session other agrees)
      | delete => exact .some (blind_runOnLines .delete command session other agrees)
      | digraphs => exact .some (blind_runDigraphs command session other agrees)
      | echo => exact .some (blind_runEcho command session other agrees)
      | execute => exact agrees_runExecute runs agrees command
      | goto => exact .some (blind_runGoto command session other agrees)
      | assignment => exact .some (blind_runAssignment command session other agrees)
      | map => exact .some (blind_runMap command session other agrees)
      | normal => exact agrees_runNormal runs agrees command
      | redo => exact .some (blind_runUndo true session other agrees)
      | set => exact .some (blind_runSet command session other agrees)
      | undo => exact .some (blind_runUndo false session other agrees)
      | unlet => exact .some (blind_runUnlet command session other agrees)
      | yank => exact .some (blind_runOnLines .yank command session other agrees)
    · exact .some ⟨agrees, rfl⟩

/-- A line does the same in sessions that agree, and so does every line that it leads to. -/
theorem agrees_runLine (nesting : Nat) : (runLine nesting).Agrees (runLine nesting) := by
  induction nesting with
  | zero => exact fun _ _ _ _ => .none
  | succ nesting ih =>
    intro session other line agrees
    unfold runLine
    dsimp only
    refine EndAlike.map ?_ fun _ _ _ agrees => ⟨agrees.syncOptions.collectReport, rfl⟩
    split
    · exact .some ⟨agrees, rfl⟩
    · exact agrees_runCommand ih agrees _

/-- A key that the user types does what the same key does within a line. -/
theorem agrees_pressTyped (nesting : Nat) :
    (pressKey (runLine nesting)).Agrees (pressTyped nesting) :=
  agrees_pressKey fun session other line agrees =>
    agrees_runLine nesting session other.clearStatus line (agrees.trans other.agrees_clearStatus)

end Session

end ModalEdit

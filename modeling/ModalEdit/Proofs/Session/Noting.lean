import ModalEdit.Proofs.Session.Nesting

/-!
What becomes of the status of a session while keys and lines are run: it is cleared, or something fails.
The notes of a run stand in the order in which this happens, however deeply lines are nested. The last of
them decides which error is the last one in the end.
-/

set_option autoImplicit false

namespace ModalEdit

/-- What can happen to the status of a session. -/
inductive StatusNote where
  /-- What was shown is forgotten. -/
  | cleared
  /-- A line fails, or a mapping is expanded too often. -/
  | failed (error : SessionError)

namespace StatusNote

/-- The error that stands after notes, where one stood before them or none. -/
def standing (error? : Option SessionError) (notes : List StatusNote) : Option SessionError :=
  match notes.getLast? with
  | none => error?
  | some cleared => none
  | some (failed error) => some error

variable {error? : Option SessionError} {notes : List StatusNote}

theorem standing_append (error? : Option SessionError) (first second : List StatusNote) :
    standing error? (first ++ second) = standing (standing error? first) second := by
  unfold standing
  rw [List.getLast?_append]
  cases second.getLast? with
  | none => rfl
  | some note => cases note <;> rfl

theorem standing_failed (error? : Option SessionError) (notes : List StatusNote) (error : SessionError) :
    standing error? (notes ++ [failed error]) = some error := by
  rw [standing_append]
  rfl

theorem failed_mem_of_standing {error : SessionError} (stands : standing error? notes = some error) :
    .failed error ∈ notes ∨ error? = some error := by
  unfold standing at stands
  split at stands
  · exact .inr stands
  · cases stands
  · cases stands
    exact .inl (List.mem_of_getLast? ‹_›)

/-- Where anything fails, an error stands in the end, or the status is cleared last. -/
theorem standing_cases (error? : Option SessionError) {error : SessionError}
    (noted : failed error ∈ notes) :
    (∃ last, standing error? notes = some last) ∨ notes.getLast? = some cleared := by
  have isLast := List.getLast?_eq_some_getLast (List.ne_nil_of_mem noted)
  unfold standing
  rw [isLast]
  cases notes.getLast (List.ne_nil_of_mem noted) with
  | cleared => exact .inr rfl
  | failed error => exact .inl ⟨error, rfl⟩

end StatusNote

open StatusNote (standing)

namespace Session

section Keys

variable (press : KeyRunner) (log : Stroke → List StatusNote)

/-- The notes of keys that wait, until a mapping is to be expanded and `next?` goes on. -/
def notesUntilMapped (flush : Bool)
    (next? : Option (List Key → Session → KeyResult → List StatusNote)) :
    List Key → Session → KeyResult → List StatusNote
  | [], _, _ => []
  | key :: rest, session, result =>
    match session.mappings.resolve session.editor.mapModes (key :: rest) flush with
    | .wait => []
    | .raw =>
      log ⟨session, key⟩ ++ (press session key).elim [] fun (after, result) =>
        if result = .failed then [] else notesUntilMapped flush next? rest after result
    | .expand consumed rhs remap keepFirst =>
      match next? with
      | none => [.failed .recursiveMapping]
      | some next =>
        let split := if remap then keepFirst else rhs.length
        (strokes press (rhs.take split) session).flatMap log ++
          (pressAll press (rhs.take split) session result false).elim []
            fun (after, result, failed) =>
              let waiting := rhs.drop split ++ (key :: rest).drop consumed
              next (if failed then [] else waiting) after result

/-- The notes of keys that wait, with mappings expanded as often as is allowed. -/
def drainNotes (flush : Bool) : (expansions : Nat) → List Key → Session → KeyResult →
    List StatusNote
  | 0 => notesUntilMapped press log flush none
  | expansions + 1 => notesUntilMapped press log flush (some (drainNotes flush expansions))

/-- The notes of keys that are typed one by one. -/
def typedNotes (remap : Bool) : List Key → List Key → Session → List StatusNote
  | [], _, _ => []
  | key :: rest, waiting, session =>
    if remap then
      drainNotes press log false maxExpansions (waiting ++ [key]) session .consumed ++
        (drain press false maxExpansions (waiting ++ [key]) session .consumed).elim []
          fun (after, waiting, _) => typedNotes remap rest waiting after
    else
      log ⟨session, key⟩ ++ (press session key).elim []
        fun (after, _) => typedNotes remap rest waiting after

/-- The notes of keys that are taken as if they were typed, and of those that then still wait. -/
def runNotes (session : Session) (keys : List Key) (remap : Bool) : List StatusNote :=
  typedNotes press log remap keys [] session ++
    (typeKeys press remap keys [] session).elim [] fun (after, waiting) =>
      drainNotes press log true maxExpansions waiting after .consumed

end Keys

section Lines

variable (run : LineRunner) (log : LineRun → List StatusNote)

/-- The notes of a stroke: those of the line that it hands over. -/
def strokeNotes (stroke : Stroke) : List StatusNote :=
  (stroke.lines id).flatMap log

/-- The notes of the lines that a handler runs. -/
def handlerNotes (session : Session) (command : Command) : Handler → List StatusNote
  | .execute => (session.executeLines command).flatMap log
  | .normal =>
    let keys := command.rawText.toList.map Key.ofControlChar
    if keys = [] then []
    else runNotes (pressKey run) (strokeNotes log) session keys (!command.bang)
  | _ => []

/-- The notes of the lines that a command runs. -/
def commandNotes (session : Session) (command : Command) : List StatusNote :=
  match refusal? command with
  | some _ => []
  | none => (session.handlers command.id).elim [] (session.handlerNotes run log command)

/-- The note of an answer: that of its error. -/
def answerNotes : LineAnswer → List StatusNote
  | some (_, .error error) => [.failed error]
  | _ => []

end Lines

/-- The notes of a line: those of the lines that it runs, and its own error in the end. -/
def lineNotes : (nesting : Nat) → LineRun → List StatusNote
  | 0, _ => []
  | nesting + 1, lineRun =>
    (match Command.parse lineRun.line with
      | .error _ => []
      | .ok command => lineRun.session.commandNotes (runLine nesting) (lineNotes nesting) command) ++
    answerNotes (runLine (nesting + 1) lineRun.session lineRun.line)

/-- The notes of a line that a typed key hands over. It begins with a clear status. -/
def typedLineNotes (nesting : Nat) (lineRun : LineRun) : List StatusNote :=
  .cleared :: lineNotes nesting ⟨lineRun.session.clearStatus, lineRun.line⟩

/-- The notes of a key that is typed. -/
def feedNotes (nesting : Nat) (session : Session) (key : Key) : List StatusNote :=
  (if session.typeahead = [] ∧ session.atCommandStart then [.cleared] else []) ++
    drainNotes (pressTyped nesting) (strokeNotes (typedLineNotes nesting)) false maxExpansions
      (session.typeahead ++ [key]) session.begun .consumed

/-- The notes of the end of waiting. -/
def flushNotes (nesting : Nat) (session : Session) : List StatusNote :=
  drainNotes (pressTyped nesting) (strokeNotes (typedLineNotes nesting)) true maxExpansions
    session.typeahead session .consumed

end Session

/-- Whether the error that a key leaves as the last is the one that its notes say. -/
def KeyRunner.NotedBy (press : KeyRunner) (log : Stroke → List StatusNote) : Prop :=
  ∀ session key after result, press session key = some (after, result) →
    after.lastError? = standing session.lastError? (log ⟨session, key⟩)

/-- Whether the error that a line leaves as the last, with its own, is the one that its notes say. -/
def LineRunner.NotedBy (run : LineRunner) (log : LineRun → List StatusNote) : Prop :=
  ∀ session line after result, run session line = some (after, result) →
    (after.afterLine result).1.lastError? = standing session.lastError? (log ⟨session, line⟩)

namespace Session

section Keys

variable {press : KeyRunner} {log : Stroke → List StatusNote} {session after : Session}
  {key : Key} {rest : List Key} {result answer : KeyResult} {flush : Bool} {expansions consumed : Nat}
  {mapping : Mapping}

theorem drainNotes_nil : drainNotes press log flush expansions [] session result = [] := by
  cases expansions <;> rfl

theorem drainNotes_wait
    (waits : session.mappings.resolve session.editor.mapModes (key :: rest) flush = .wait) :
    drainNotes press log flush expansions (key :: rest) session result = [] := by
  cases expansions <;> simp only [drainNotes, notesUntilMapped, waits]

theorem drainNotes_raw
    (isRaw : session.mappings.resolve session.editor.mapModes (key :: rest) flush = .raw) :
    drainNotes press log flush expansions (key :: rest) session result =
      log ⟨session, key⟩ ++ (press session key).elim [] fun (after, result) =>
        if result = .failed then [] else drainNotes press log flush expansions rest after result := by
  cases expansions <;> rw [drainNotes, notesUntilMapped, isRaw]

theorem drainNotes_spent
    (expands : session.mappings.resolve session.editor.mapModes (key :: rest) flush =
      mapping.expansion consumed) :
    drainNotes press log flush 0 (key :: rest) session result = [.failed .recursiveMapping] := by
  unfold drainNotes notesUntilMapped
  rw [expands]
  rfl

theorem drainNotes_expand
    (expands : session.mappings.resolve session.editor.mapModes (key :: rest) flush =
      mapping.expansion consumed) :
    drainNotes press log flush (expansions + 1) (key :: rest) session result =
      (strokes press mapping.unmapped session).flatMap log ++
        (pressAll press mapping.unmapped session result false).elim [] fun (after, result, failed) =>
          drainNotes press log flush expansions
            (if failed then [] else mapping.mapped ++ (key :: rest).drop consumed) after result := by
  obtain ⟨keepFirst, isExpansion, split⟩ := mapping.expansion_eq consumed
  rw [drainNotes, notesUntilMapped, expands, isExpansion]
  simp only [split, mapping.take_unmapped]
  rfl

theorem cleared_notMem_drainNotes (clean : ∀ stroke, .cleared ∉ log stroke) (flush : Bool)
    (expansions : Nat) (keys : List Key) (session : Session) (result : KeyResult) :
    .cleared ∉ drainNotes press log flush expansions keys session result := by
  induction expansions, keys, session, result using drain_induction flush with
  | empty expansions session result =>
    rw [drainNotes_nil]
    exact List.not_mem_nil
  | wait expansions key rest session result waits =>
    rw [drainNotes_wait waits]
    exact List.not_mem_nil
  | raw expansions key rest session result isRaw ih =>
    rw [drainNotes_raw isRaw]
    refine List.not_mem_append (clean _) ?_
    cases press session key with
    | none => exact List.not_mem_nil
    | some answer =>
      dsimp only [Option.elim_some]
      split
      · exact List.not_mem_nil
      · exact ih answer.1 answer.2
  | spent key rest session result mapping consumed expands =>
    rw [drainNotes_spent expands]
    exact fun found => nomatch List.mem_singleton.mp found
  | expand expansions key rest session result mapping member consumed expands ih =>
    rw [drainNotes_expand expands]
    refine List.not_mem_append ?_ ?_
    · intro found
      obtain ⟨stroke, _, cleared⟩ := List.mem_flatMap.mp found
      exact clean stroke cleared
    · cases pressAll press mapping.unmapped session result false with
      | none => exact List.not_mem_nil
      | some answer => exact ih _ answer.1 answer.2.1

theorem cleared_notMem_runNotes (clean : ∀ stroke, .cleared ∉ log stroke) (session : Session)
    (keys : List Key) (remap : Bool) : .cleared ∉ runNotes press log session keys remap := by
  have typing (keys waiting : List Key) (session : Session) :
      .cleared ∉ typedNotes press log remap keys waiting session := by
    induction keys generalizing waiting session with
    | nil => exact List.not_mem_nil
    | cons key rest ih =>
      unfold typedNotes
      split
      · refine List.not_mem_append (cleared_notMem_drainNotes clean _ _ _ _ _) ?_
        cases drain press false maxExpansions (waiting ++ [key]) session .consumed with
        | none => exact List.not_mem_nil
        | some answer => exact ih answer.2.1 answer.1
      · refine List.not_mem_append (clean _) ?_
        cases press session key with
        | none => exact List.not_mem_nil
        | some answer => exact ih waiting answer.1
  refine List.not_mem_append (typing keys [] session) ?_
  cases typeKeys press remap keys [] session with
  | none => exact List.not_mem_nil
  | some typed => exact cleared_notMem_drainNotes clean _ _ _ _ _

variable (noted : press.NotedBy log)

include noted

theorem lastError?_pressAll {keys : List Key} {failed ended : Bool}
    (pressed : pressAll press keys session result failed = some (after, answer, ended)) :
    after.lastError? = standing session.lastError? ((strokes press keys session).flatMap log) := by
  induction keys generalizing session result failed with
  | nil =>
    cases pressed
    rfl
  | cons key rest ih =>
    obtain ⟨⟨middle, others⟩, taken, pressed⟩ := Option.bind_eq_some_iff.mp pressed
    rw [strokes, taken, Option.elim_some, List.flatMap_cons, StatusNote.standing_append,
      ← noted session key middle others taken]
    exact ih pressed

/-- By induction along the keys and the expansions of mappings. -/
theorem lastError?_drain {keys waiting : List Key}
    (drained : drain press flush expansions keys session result = some (after, waiting, answer)) :
    after.lastError? =
      standing session.lastError? (drainNotes press log flush expansions keys session result) := by
  induction expansions, keys, session, result using drain_induction flush with
  | empty expansions session result =>
    rw [drain_nil] at drained
    cases drained
    rw [drainNotes_nil]
    rfl
  | wait expansions key rest session result waits =>
    rw [drain_wait waits] at drained
    cases drained
    rw [drainNotes_wait waits]
    rfl
  | raw expansions key rest session result isRaw ih =>
    rw [drain_raw isRaw] at drained
    obtain ⟨⟨middle, others⟩, taken, drained⟩ := Option.bind_eq_some_iff.mp drained
    rw [drainNotes_raw isRaw, taken, Option.elim_some, StatusNote.standing_append,
      ← noted session key middle others taken]
    dsimp only at drained ⊢
    split at drained
    · cases drained
      rw [if_pos ‹_›]
      rfl
    · rw [if_neg ‹_›]
      exact ih middle others drained
  | spent key rest session result mapping consumed expands =>
    rw [drain_spent expands] at drained
    cases drained
    rw [drainNotes_spent expands]
    rfl
  | expand expansions key rest session result mapping member consumed expands ih =>
    rw [drain_expand expands] at drained
    obtain ⟨⟨middle, others, failed⟩, pressed, drained⟩ := Option.bind_eq_some_iff.mp drained
    rw [drainNotes_expand expands, pressed, Option.elim_some, StatusNote.standing_append,
      ← lastError?_pressAll noted pressed]
    exact ih _ middle others drained

theorem lastError?_typeKeys {remap : Bool} {keys waiting still : List Key}
    (typed : typeKeys press remap keys waiting session = some (after, still)) :
    after.lastError? =
      standing session.lastError? (typedNotes press log remap keys waiting session) := by
  induction keys generalizing waiting session with
  | nil =>
    cases typed
    rfl
  | cons key rest ih =>
    unfold typeKeys at typed
    unfold typedNotes
    split at typed
    · obtain ⟨⟨middle, others, answer⟩, drained, typed⟩ := Option.bind_eq_some_iff.mp typed
      rw [if_pos ‹_›, drained, Option.elim_some, StatusNote.standing_append,
        ← lastError?_drain noted drained]
      exact ih typed
    · obtain ⟨⟨middle, answer⟩, taken, typed⟩ := Option.bind_eq_some_iff.mp typed
      rw [if_neg ‹_›, taken, Option.elim_some, StatusNote.standing_append,
        ← noted session key middle answer taken]
      exact ih typed

end Keys

theorem lastError?_collectReport (session : Session) :
    session.collectReport.lastError? = session.lastError? := by
  unfold collectReport
  split <;> rfl

theorem lastError?_runKeys {press : KeyRunner} {log : Stroke → List StatusNote} {session after : Session}
    {keys : List Key} {remap : Bool} (noted : press.NotedBy log)
    (ran : runKeys press session keys remap = some after) :
    after.lastError? = standing session.lastError? (runNotes press log session keys remap) := by
  obtain ⟨⟨typed, waiting⟩, typing, ran⟩ := Option.bind_eq_some_iff.mp ran
  obtain ⟨⟨drained, others, answer⟩, draining, ended⟩ := Option.bind_eq_some_iff.mp ran
  cases ended
  unfold runNotes
  rw [typing, Option.elim_some, StatusNote.standing_append, ← lastError?_typeKeys noted typing,
    ← lastError?_drain noted draining, lastError?_collectReport]
  rfl

section Lines

variable {run : LineRunner} {log : LineRun → List StatusNote} {session after : Session}
  {command : Command}

theorem lastError?_afterLine_ok (session : Session) (output? : Option String) :
    (session.afterLine (.ok output?)).1.lastError? = session.lastError? := by
  cases output? <;> rfl

theorem notedBy_pressKey (noted : run.NotedBy log) : (pressKey run).NotedBy (strokeNotes log) := by
  intro session key after result taken
  unfold pressKey at taken
  unfold strokeNotes Stroke.lines
  dsimp only at taken ⊢
  generalize session.editor.press key = pressed at taken ⊢
  obtain ⟨editor, step⟩ := pressed
  have collected : (collectReport { session with editor }).lastError? = session.lastError? :=
    lastError?_collectReport _
  cases step with
  | execute line =>
    obtain ⟨⟨ran, answer⟩, lineRan, ended⟩ := Option.map_eq_some_iff.mp taken
    have left := noted _ line ran answer lineRan
    dsimp only at ended
    rw [ended, collected] at left
    rw [List.flatMap_singleton]
    exact left
  | done | pending | rejected =>
    cases taken
    exact collected

theorem lastError?_runCall (session : Session) (command : Command) :
    (session.runCall command).1.lastError? = session.lastError? := by
  unfold runCall
  split <;> rfl

theorem lastError?_runDigraphs (session : Session) (command : Command) :
    (session.runDigraphs command).1.lastError? = session.lastError? := by
  unfold runDigraphs
  dsimp only
  split <;> rfl

theorem lastError?_runEcho (session : Session) (command : Command) :
    (session.runEcho command).1.lastError? = session.lastError? := by
  unfold runEcho
  split
  · split <;> rfl
  · rfl

theorem lastError?_runGoto (session : Session) (command : Command) :
    (session.runGoto command).1.lastError? = session.lastError? := by
  unfold runGoto
  split
  · rfl
  · split <;> rfl

theorem lastError?_runAssignment (session : Session) (command : Command) :
    (session.runAssignment command).1.lastError? = session.lastError? := by
  unfold runAssignment
  split
  · rfl
  · dsimp only
    split <;> rfl
  · rfl

theorem lastError?_runUnlet (session : Session) (command : Command) :
    (session.runUnlet command).1.lastError? = session.lastError? := by
  unfold runUnlet
  split <;> rfl

theorem lastError?_setMappings (session : Session) (mappings : Except EditorError MappingTable) :
    (session.setMappings mappings).1.lastError? = session.lastError? := by
  cases mappings <;> rfl

theorem lastError?_runMap (session : Session) (command : Command) :
    (session.runMap command).1.lastError? = session.lastError? := by
  unfold runMap
  split
  · split
    · unfold runMapIn
      dsimp only
      split
      · split
        · rfl
        · exact session.lastError?_setMappings _
      · split
        · rfl
        · exact session.lastError?_setMappings _
    · rfl
  · rfl

theorem lastError?_runOnLines (session : Session) (operator : Operator) (command : Command) :
    (session.runOnLines operator command).1.lastError? = session.lastError? := by
  unfold runOnLines
  dsimp only
  split
  · rfl
  · dsimp only
    generalize Editor.reportOf? operator _ _ _ = report?
    cases report? <;> rfl

/-- A line that expressions make up, if it succeeds. -/
theorem lastError?_runExecute (noted : run.NotedBy log) {output? : Option String}
    (ran : session.runExecute run command = some (after, .ok output?)) :
    after.lastError? = standing session.lastError? ((session.executeLines command).flatMap log) := by
  unfold runExecute at ran
  unfold executeLines
  cases arguments : command.arguments with
  | exprs exprs =>
    rw [arguments] at ran
    dsimp only at ran ⊢
    generalize exprs.mapM (fun expr => (expr.eval session.environment).bind Script.Value.toText) =
      texts at ran ⊢
    cases texts with
    | ok texts =>
      have left := noted session _ after _ ran
      rw [lastError?_afterLine_ok] at left
      rw [List.flatMap_singleton]
      exact left
    | error error => cases ran
  | _ =>
    rw [arguments] at ran
    cases ran
    rfl

/-- A command that succeeds leaves the error that the lines that it runs leave, or the one before where it
runs none. -/
theorem lastError?_runHandler (noted : run.NotedBy log) {handler : Handler} {output? : Option String}
    (ran : session.runHandler run command handler = some (after, .ok output?)) :
    after.lastError? = standing session.lastError? (session.handlerNotes run log command handler) := by
  have alone {outcome : Session × LineResult} (kept : outcome.1.lastError? = session.lastError?)
      (ran : some outcome = some (after, .ok output?)) : after.lastError? = session.lastError? := by
    cases ran
    exact kept
  cases handler with
  | execute => exact lastError?_runExecute noted ran
  | normal =>
    have ran : session.runNormal run command = some (after, .ok output?) := ran
    unfold handlerNotes
    unfold runNormal at ran
    dsimp only at ran ⊢
    split at ran
    · cases ran
    · obtain ⟨played, keysRan, answered⟩ := Option.map_eq_some_iff.mp ran
      cases answered
      rw [if_neg ‹_›]
      exact lastError?_runKeys (notedBy_pressKey noted) keysRan
  | set => exact alone rfl ran
  | assignment => exact alone (session.lastError?_runAssignment command) ran
  | call => exact alone (session.lastError?_runCall command) ran
  | digraphs => exact alone (session.lastError?_runDigraphs command) ran
  | echo => exact alone (session.lastError?_runEcho command) ran
  | map => exact alone (session.lastError?_runMap command) ran
  | unlet => exact alone (session.lastError?_runUnlet command) ran
  | goto => exact alone (session.lastError?_runGoto command) ran
  | delete | yank => exact alone (session.lastError?_runOnLines _ command) ran
  | undo | redo => exact alone rfl ran

theorem lastError?_runCommand (noted : run.NotedBy log) {output? : Option String}
    (ran : session.runCommand run command = some (after, .ok output?)) :
    after.lastError? = standing session.lastError? (session.commandNotes run log command) := by
  unfold runCommand at ran
  unfold commandNotes
  cases refused : refusal? command with
  | some error =>
    rw [refused] at ran
    cases ran
  | none =>
    rw [refused] at ran
    cases handled : session.handlers command.id with
    | none =>
      rw [handled] at ran
      cases ran
    | some handler =>
      rw [handled] at ran
      exact lastError?_runHandler noted ran

/-- The error that a line leaves as the last is the one that its notes say, with all that they say of the
lines that it runs. By induction on how deeply lines may be nested. -/
theorem notedBy_runLine (nesting : Nat) : (runLine nesting).NotedBy (lineNotes nesting) := by
  induction nesting with
  | zero =>
    intro session line after result ran
    cases ran
  | succ nesting ih =>
    intro session line after result ran
    unfold lineNotes
    dsimp only
    rw [ran]
    cases result with
    | error error =>
      unfold answerNotes
      rw [StatusNote.standing_failed]
      rfl
    | ok output? =>
      obtain ⟨⟨left, answer⟩, outcome, synced⟩ := Option.map_eq_some_iff.mp ran
      cases synced
      rw [lastError?_afterLine_ok, lastError?_collectReport]
      unfold answerNotes
      rw [List.append_nil]
      show left.lastError? = _
      cases parsed : Command.parse line with
      | error error =>
        rw [parsed] at outcome
        cases outcome
      | ok command =>
        rw [parsed] at outcome
        exact lastError?_runCommand ih outcome

theorem cleared_notMem_commandNotes (clean : ∀ lineRun, .cleared ∉ log lineRun) (session : Session)
    (command : Command) : .cleared ∉ session.commandNotes run log command := by
  have lines (lineRuns : List LineRun) : .cleared ∉ lineRuns.flatMap log := by
    intro found
    obtain ⟨lineRun, _, cleared⟩ := List.mem_flatMap.mp found
    exact clean lineRun cleared
  unfold commandNotes
  split
  · exact List.not_mem_nil
  · cases session.handlers command.id with
    | none => exact List.not_mem_nil
    | some handler =>
      cases handler with
      | execute => exact lines _
      | normal =>
        dsimp only [Option.elim_some, handlerNotes]
        split
        · exact List.not_mem_nil
        · exact cleared_notMem_runNotes (fun stroke => lines _) session _ _
      | _ => exact List.not_mem_nil

/-- Only a line for the user clears the status, none that another line runs. -/
theorem cleared_notMem_lineNotes (nesting : Nat) (lineRun : LineRun) :
    .cleared ∉ lineNotes nesting lineRun := by
  induction nesting generalizing lineRun with
  | zero => exact List.not_mem_nil
  | succ nesting ih =>
    unfold lineNotes
    refine List.not_mem_append ?_ ?_
    · split
      · exact List.not_mem_nil
      · exact cleared_notMem_commandNotes ih _ _
    · unfold answerNotes
      split
      · exact fun found => nomatch List.mem_singleton.mp found
      · exact List.not_mem_nil

end Lines

section Calls

variable {nesting : Nat} {session after : Session} {result : KeyResult}

/-- A line for the user leaves the last of its errors, and of those of the lines that it runs. -/
theorem lastError?_execute {line : List Char} {result : LineResult}
    (executed : session.execute nesting line = some (after, result)) :
    after.lastError? = standing none (lineNotes nesting ⟨session.clearStatus, line⟩) := by
  obtain ⟨⟨ran, answer⟩, lineRan, shown⟩ := Option.map_eq_some_iff.mp executed
  cases shown
  exact notedBy_runLine nesting session.clearStatus line ran _ lineRan

theorem notedBy_pressTyped (nesting : Nat) :
    (pressTyped nesting).NotedBy (strokeNotes (typedLineNotes nesting)) := by
  refine notedBy_pressKey fun session line after result ran => ?_
  rw [notedBy_runLine nesting session.clearStatus line after result ran]
  exact (StatusNote.standing_append session.lastError? [.cleared] _).symm

theorem lastError?_begun (session : Session) :
    session.begun.lastError? = standing session.lastError?
      (if session.typeahead = [] ∧ session.atCommandStart then [.cleared] else []) := by
  unfold begun
  split <;> rfl

theorem lastError?_feed {key : Key} (fed : session.feed nesting key = some (after, result)) :
    after.lastError? = standing session.lastError? (session.feedNotes nesting key) := by
  obtain ⟨⟨left, waiting, answer⟩, drained, shown⟩ := Option.map_eq_some_iff.mp fed
  cases shown
  have kept : left.lastError? = standing session.begun.lastError? _ :=
    lastError?_drain (notedBy_pressTyped nesting) drained
  rw [lastError?_begun, ← StatusNote.standing_append] at kept
  exact kept

theorem lastError?_flush (flushed : session.flush nesting = some (after, result)) :
    after.lastError? = standing session.lastError? (session.flushNotes nesting) := by
  obtain ⟨⟨left, waiting, answer⟩, drained, shown⟩ := Option.map_eq_some_iff.mp flushed
  cases shown
  have kept : left.lastError? = standing session.lastError? _ :=
    lastError?_drain (notedBy_pressTyped nesting) drained
  exact kept

end Calls

end Session

end ModalEdit

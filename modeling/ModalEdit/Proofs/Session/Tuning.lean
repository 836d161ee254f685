import Mathlib.Logic.Relation
import ModalEdit.Proofs.Editor.Settings
import ModalEdit.Proofs.Options.Telling
import ModalEdit.Proofs.Session.Nesting
import ModalEdit.Proofs.Session.Reachable
import ModalEdit.Session.Run

/-!
Options in effect. The limit of the history is always that of its option. The window has the tab stops
of its option too, as long as no line has told it of the global value, which need not be in effect; it has
them again once a line has told it of another. Commands that run no other line write options at most, and the
window and the history hear of these when the line is over.
-/

set_option autoImplicit false

namespace ModalEdit

/-- Settings of which nothing is different but the options, and those by writes in one scope. -/
def WritesOnly (before after : Options × Nat × Nat) : Prop :=
  after.2 = before.2 ∧ ∃ scope, before.1.Writes scope after.1

theorem WritesOnly.of_eq {before after : Options × Nat × Nat} (same : after = before) :
    WritesOnly before after := by
  subst same
  exact ⟨rfl, .both, .refl⟩

namespace Session

variable {session : Session}

/-- The window and the history have the numbers that they have been told last, if any. -/
theorem settings_syncOptions (session : Session) : session.syncOptions.editor.settings =
    (session.editor.options.takeNotices.2,
      (changedCount? session.editor.options.notices OptionDefinition.tabStop.name).elim
        session.editor.settings.2.1 (max · 1),
      (changedCount? session.editor.options.notices OptionDefinition.undoLevels.name).getD
        session.editor.settings.2.2) := by
  have tabWidth (told? : Option Nat) :
      (told?.elim session.editor.window session.editor.window.setTabWidth).tabWidth =
        told?.elim session.editor.window.tabWidth (max · 1) := by
    cases told? <;> rfl
  have limit (told? : Option Nat) :
      (told?.elim session.editor.history session.editor.history.setLimit).limit =
        told?.getD session.editor.history.limit := by
    cases told? <;> rfl
  exact Prod.ext rfl (Prod.ext (tabWidth _) (limit _))

theorem settings_collectReport (session : Session) :
    session.collectReport.editor.settings = session.editor.settings := by
  unfold collectReport
  split <;> rfl

theorem settings_fail (session : Session) (error : SessionError) :
    (session.fail error).editor.settings = session.editor.settings :=
  Editor.settings_reset

theorem settings_afterLine (session : Session) (result : LineResult) :
    (session.afterLine result).1.editor.settings = session.editor.settings := by
  unfold afterLine
  split
  · rename_i output?
    cases output? <;> rfl
  · exact settings_fail session _

theorem writesOnly_runSet (admitted : session.editor.options.Admitted) (command : Command) :
    WritesOnly session.editor.settings (session.runSet command).1.editor.settings :=
  ⟨rfl, _, admitted.writes_execute _ _⟩

/-- Scripts give no lists to options. -/
theorem plain_of_toOption {value : Script.Value} {given : OptionValue}
    (isGiven : value.toOption = .ok given) (entries : List OptionEntry) : given ≠ .list entries := by
  unfold Script.Value.toOption at isGiven
  split at isGiven
  · cases isGiven
    exact nofun
  · cases isInteger : value.toInteger with
    | error error =>
      rw [isInteger] at isGiven
      cases isGiven
    | ok number =>
      rw [isInteger] at isGiven
      cases isGiven
      exact nofun

theorem writes_assign {environment : Script.Environment} (admitted : environment.options.Admitted)
    (target : Script.Target) (operator : Script.AssignOperator) (operand : Script.Expr) :
    ∃ scope, environment.options.Writes scope
      (environment.assign target operator operand).1.options := by
  unfold Script.Environment.assign
  split
  · exact ⟨.both, .refl⟩
  · rename_i value _
    unfold Script.Environment.write
    split
    · split <;> exact ⟨.both, .refl⟩
    · rename_i name scope _
      refine ⟨scope, ?_⟩
      unfold Script.Environment.setOption
      split
      · exact .refl
      · rename_i given isGiven
        exact .single (admitted.sets_set scope name (plain_of_toOption isGiven))
    · split <;> exact ⟨.both, .refl⟩
    · split <;> exact ⟨.both, .refl⟩

theorem writesOnly_runAssignment (admitted : session.editor.options.Admitted) (command : Command) :
    WritesOnly session.editor.settings (session.runAssignment command).1.editor.settings := by
  unfold runAssignment
  split
  · rename_i target operator value _
    have admitted : session.environment.options.Admitted := admitted
    obtain ⟨scope, writes⟩ := writes_assign admitted target operator value
    exact ⟨rfl, scope, writes⟩
  · split <;> exact .of_eq rfl
  · exact .of_eq rfl

theorem settings_runDigraphs (session : Session) (command : Command) :
    (session.runDigraphs command).1.editor.settings = session.editor.settings := by
  unfold runDigraphs
  dsimp only
  split <;> rfl

theorem settings_runEcho (session : Session) (command : Command) :
    (session.runEcho command).1.editor.settings = session.editor.settings := by
  unfold runEcho
  split
  · split <;> rfl
  · rfl

theorem settings_runCall (session : Session) (command : Command) :
    (session.runCall command).1.editor.settings = session.editor.settings := by
  unfold runCall
  split <;> rfl

theorem settings_runUnlet (session : Session) (command : Command) :
    (session.runUnlet command).1.editor.settings = session.editor.settings := by
  unfold runUnlet
  split <;> rfl

theorem settings_setMappings (session : Session) (mappings : Except EditorError MappingTable) :
    (session.setMappings mappings).1.editor.settings = session.editor.settings := by
  cases mappings <;> rfl

theorem settings_runMap (session : Session) (command : Command) :
    (session.runMap command).1.editor.settings = session.editor.settings := by
  unfold runMap
  split
  · split
    · unfold runMapIn
      dsimp only
      split
      · split
        · rfl
        · exact session.settings_setMappings _
      · split
        · rfl
        · exact session.settings_setMappings _
    · rfl
  · rfl

theorem settings_runUndo (session : Session) (redo : Bool) :
    (session.runUndo redo).1.editor.settings = session.editor.settings :=
  Editor.settings_undoOnce redo

theorem settings_runGoto (session : Session) (command : Command) :
    (session.runGoto command).1.editor.settings = session.editor.settings := by
  unfold runGoto
  split
  · rfl
  · split
    · rfl
    · exact Editor.settings_settle

theorem settings_runOnLines (session : Session) (operator : Operator) (command : Command) :
    (session.runOnLines operator command).1.editor.settings = session.editor.settings := by
  have edited (first last : Nat) (register? : Option Char) (report? : Option String) :
      (report?.elim { session with
          editor := (applyToLines session.editor operator first last register?).1 }
        (say { session with
          editor := (applyToLines session.editor operator first last register?).1 })
        ).editor.settings = session.editor.settings := by
    cases report? <;> exact Editor.settings_applyToLines operator first last register?
  unfold runOnLines
  dsimp only
  split
  · rfl
  · exact edited _ _ _ _

end Session

/-- Whether the global width of tab stops is what has been told last of it. -/
def TellsGlobal (notices : List OptionNotice) : Prop :=
  ∃ change, lastTold? notices OptionDefinition.tabStop.name = some change ∧ change.scope = .global

/-- Whether a width of tab stops that is in effect is what has been told last of it. -/
def TellsEffective (notices : List OptionNotice) : Prop :=
  ∃ change, lastTold? notices OptionDefinition.tabStop.name = some change ∧ change.scope ≠ .global

theorem not_tellsEffective {notices : List OptionNotice}
    (untold : lastTold? notices OptionDefinition.tabStop.name = none) : ¬TellsEffective notices := by
  rintro ⟨change, told, _⟩
  rw [untold] at told
  cases told

/-- Settings in step: the limit of the history is that of its option, and the tab stops are those of
theirs where they follow. Nothing is still to be heard of either option. -/
structure InStep (follows : Prop) (settings : Options × Nat × Nat) : Prop where
  watched : settings.1.Watched
  heardTabStop : lastTold? settings.1.notices OptionDefinition.tabStop.name = none
  heardUndoLevels : lastTold? settings.1.notices OptionDefinition.undoLevels.name = none
  tabWidth : follows → settings.2.1 = max (settings.1.count OptionDefinition.tabStop.name) 1
  limit : settings.2.2 = settings.1.count OptionDefinition.undoLevels.name

namespace InStep

variable {follows later : Prop} {editor : Editor} {before : Options × Nat × Nat} {after : Session}

theorem not_tellsGlobal (inStep : InStep follows before) : ¬TellsGlobal before.1.notices := by
  rintro ⟨change, told, _⟩
  rw [inStep.heardTabStop] at told
  cases told

theorem of_ofWindow (window : Window) : InStep follows (Session.ofWindow window).editor.settings :=
  ⟨Options.watched_ofWindow window, rfl, rfl, fun _ => rfl, rfl⟩

/-- A number of lines to scroll is no width of tab stops and no limit. -/
theorem setScroll (inStep : InStep follows before) (lines : Int64) :
    InStep follows ((before.1.set .local "scroll" (.number lines)).1, before.2) := by
  have declared : (⟨"scroll", "scr", .local, .number, .number 0, .any⟩ : OptionDefinition) ∈
      OptionDefinition.all := by
    decide
  have watched := inStep.watched
  obtain ⟨slot, found, isScroll⟩ :=
    watched.admitted.find declared (OptionDefinition.hasName_self _)
  have sets : before.1.Sets .local (before.1.set .local "scroll" (.number lines)).1 :=
    watched.admitted.sets_set .local "scroll" nofun
  have others {definition : OptionDefinition} (isOther : definition ∈ OptionDefinition.all)
      (differs : "scroll" ≠ definition.name) :=
    watched.admitted.set_number_other isOther .local lines found
      (isScroll ▸ differs : slot.definition.name ≠ definition.name)
  obtain ⟨tabCount, tabTold⟩ := others OptionDefinition.tabStop_mem (by decide)
  obtain ⟨limitCount, limitTold⟩ := others OptionDefinition.undoLevels_mem (by decide)
  refine ⟨watched.of_writes (.single sets), ?_, ?_, ?_, ?_⟩
  · exact tabTold.trans inStep.heardTabStop
  · exact limitTold.trans inStep.heardUndoLevels
  · intro isFollowed
    rw [tabCount]
    exact inStep.tabWidth isFollowed
  · rw [limitCount]
    exact inStep.limit

theorem press (inStep : InStep follows editor.settings) (key : Key) :
    InStep follows (editor.press key).1.settings := by
  rcases editor.sparesSettings_press key with same | ⟨lines, scrolled⟩
  · rw [same]
    exact inStep
  · rw [scrolled]
    exact inStep.setScroll lines

/-- Options that have been written are in step once the window and the history have heard of them. -/
theorem sync (inStep : InStep follows before) (writes : WritesOnly before after.editor.settings)
    (spares : later → (follows ∧ ¬TellsGlobal after.editor.options.notices) ∨
      TellsEffective after.editor.options.notices) :
    InStep later after.syncOptions.editor.settings := by
  obtain ⟨same, scope, writes⟩ := writes
  have writes : before.1.Writes scope after.editor.options := writes
  have watched := inStep.watched
  rw [Session.settings_syncOptions]
  refine ⟨(watched.of_writes writes).takeNotices, rfl, rfl, ?_, ?_⟩
  · intro isLater
    show (Session.changedCount? after.editor.options.notices OptionDefinition.tabStop.name).elim
      after.editor.settings.2.1 (max · 1) =
        max (after.editor.options.count OptionDefinition.tabStop.name) 1
    rcases watched.admitted.silentOrTold OptionDefinition.tabStop_mem rfl watched.tabStop writes with
      ⟨sameCount, silent⟩ | ⟨change, told, inScope, effective⟩
    · rw [changedCount?_eq, silent, inStep.heardTabStop, same, sameCount]
      rcases spares isLater with ⟨isFollowed, _⟩ | ⟨change, told, _⟩
      · exact inStep.tabWidth isFollowed
      · rw [silent, inStep.heardTabStop] at told
        cases told
    · have inEffect : scope ≠ .global := by
        rcases spares isLater with ⟨_, spared⟩ | ⟨other, isTold, isEffective⟩
        · intro isGlobal
          exact spared ⟨change, told, inScope.trans isGlobal⟩
        · obtain rfl : change = other := Option.some.inj (told.symm.trans isTold)
          exact inScope ▸ isEffective
      rw [effective (Or.inr inEffect)]
      rfl
  · show (Session.changedCount? after.editor.options.notices OptionDefinition.undoLevels.name).getD
      after.editor.settings.2.2 = after.editor.options.count OptionDefinition.undoLevels.name
    rcases watched.admitted.silentOrTold OptionDefinition.undoLevels_mem rfl watched.undoLevels
      writes with ⟨sameCount, silent⟩ | ⟨change, told, _, effective⟩
    · rw [changedCount?_eq, silent, inStep.heardUndoLevels, same, sameCount]
      exact inStep.limit
    · rw [effective (Or.inl rfl)]
      rfl

/-- What is in step already stays so. -/
theorem sync_self (inStep : InStep follows after.editor.settings) (isFollowed : later → follows) :
    InStep later after.syncOptions.editor.settings :=
  inStep.sync (.of_eq rfl) fun isLater => Or.inl ⟨isFollowed isLater, inStep.not_tellsGlobal⟩

end InStep

namespace Session

/-- Whether the settings of a session are in step. -/
def InStep (follows : Prop) (session : Session) : Prop :=
  ModalEdit.InStep follows session.editor.settings

variable {follows later : Prop} {session after : Session} {run : LineRunner} {command : Command}
  {result : LineResult}

theorem InStep.of_eq (inStep : session.InStep follows)
    (same : after.editor.settings = session.editor.settings) : after.InStep follows := by
  unfold Session.InStep
  rw [same]
  exact inStep

/-- A key keeps the settings in step if the line that it may hand over does. -/
theorem inStep_pressKey (runs : run.Preserves (InStep follows)) :
    (pressKey run).Preserves (InStep follows) := by
  intro session key after result inStep pressed
  have taken : Session.InStep follows { session with editor := (session.editor.press key).1 } :=
    inStep.press key
  have shown := taken.of_eq (settings_collectReport _)
  unfold pressKey at pressed
  dsimp only at pressed
  split at pressed
  · cases pressed
    exact shown
  · cases pressed
    exact shown
  · cases pressed
    exact shown
  · obtain ⟨⟨ran, answer⟩, lineRan, ended⟩ := Option.map_eq_some_iff.mp pressed
    have lineKept := (runs _ _ ran answer shown lineRan).of_eq (settings_afterLine ran answer)
    dsimp only at ended
    rw [ended] at lineKept
    exact lineKept

theorem inStep_runNormal (runs : run.Preserves (InStep follows)) (inStep : session.InStep follows)
    (ran : session.runNormal run command = some (after, result)) : after.InStep follows := by
  unfold runNormal at ran
  dsimp only at ran
  split at ran
  · cases ran
    exact inStep
  · obtain ⟨typed, keysRan, answered⟩ := Option.map_eq_some_iff.mp ran
    cases answered
    obtain ⟨before, beforeInStep, rfl⟩ := runKeys_preserves (inStep_pressKey runs)
      (fun before error inStep => inStep.of_eq (settings_fail before error)) inStep keysRan
    have escaped : (before.update Editor.escape).InStep follows :=
      beforeInStep.of_eq Editor.settings_escape
    exact escaped.of_eq (settings_collectReport _)

/-- A handler runs other lines, which keep the settings in step, or writes options at most. -/
theorem runHandler_cases (runs : run.Preserves (InStep follows)) (inStep : session.InStep follows)
    {handler : Handler} (ran : session.runHandler run command handler = some (after, result)) :
    after.InStep follows ∨ (WritesOnly session.editor.settings after.editor.settings ∧
      ∀ other, session.runHandler other command handler = some (after, result)) := by
  have alone (outcome : Session × LineResult)
      (writes : WritesOnly session.editor.settings outcome.1.editor.settings)
      (same : ∀ other, session.runHandler other command handler = some outcome) :
      after.InStep follows ∨ (WritesOnly session.editor.settings after.editor.settings ∧
        ∀ other, session.runHandler other command handler = some (after, result)) := by
    obtain rfl : outcome = (after, result) := Option.some.inj ((same run).symm.trans ran)
    exact Or.inr ⟨writes, same⟩
  cases handler with
  | execute =>
    left
    have ran : session.runExecute run command = some (after, result) := ran
    unfold runExecute at ran
    split at ran
    · split at ran
      · exact runs _ _ after result inStep ran
      · cases ran
        exact inStep
    · cases ran
      exact inStep
  | normal => exact Or.inl (inStep_runNormal runs inStep ran)
  | set => exact alone _ (writesOnly_runSet inStep.watched.admitted command) fun _ => rfl
  | assignment => exact alone _ (writesOnly_runAssignment inStep.watched.admitted command) fun _ => rfl
  | call => exact alone _ (.of_eq (session.settings_runCall command)) fun _ => rfl
  | digraphs => exact alone _ (.of_eq (session.settings_runDigraphs command)) fun _ => rfl
  | echo => exact alone _ (.of_eq (session.settings_runEcho command)) fun _ => rfl
  | map => exact alone _ (.of_eq (session.settings_runMap command)) fun _ => rfl
  | unlet => exact alone _ (.of_eq (session.settings_runUnlet command)) fun _ => rfl
  | goto => exact alone _ (.of_eq (session.settings_runGoto command)) fun _ => rfl
  | delete | yank =>
    exact alone _ (.of_eq (session.settings_runOnLines _ command)) fun _ => rfl
  | undo | redo => exact alone _ (.of_eq (session.settings_runUndo _)) fun _ => rfl

theorem runCommand_cases (runs : run.Preserves (InStep follows)) (inStep : session.InStep follows)
    (ran : session.runCommand run command = some (after, result)) :
    after.InStep follows ∨ (WritesOnly session.editor.settings after.editor.settings ∧
      ∀ other, session.runCommand other command = some (after, result)) := by
  unfold runCommand at ran ⊢
  cases refused : refusal? command with
  | some error =>
    rw [refused] at ran
    cases ran
    exact Or.inl inStep
  | none =>
    rw [refused] at ran
    cases handled : session.handlers command.id with
    | none =>
      rw [handled] at ran
      cases ran
      exact Or.inl inStep
    | some handler =>
      rw [handled] at ran
      exact runHandler_cases runs inStep ran

end Session

/-- What a line itself tells of options, without the lines that it runs. -/
def LineRun.told (lineRun : LineRun) : List OptionNotice :=
  match Command.parse lineRun.line with
  | .error _ => []
  | .ok command =>
    (lineRun.session.runCommand (fun _ _ => none) command).elim [] fun outcome =>
      outcome.1.editor.options.notices

/-- The lines that a line leads to: itself, those that it runs, those that they run, and so on. -/
def LineRun.LeadsTo : LineRun → LineRun → Prop :=
  Relation.ReflTransGen fun earlier later => later ∈ earlier.nested Session.runFreely

namespace Session

open Asking (within)

variable {follows later : Prop} {session after : Session} {run : LineRunner} {command : Command}
  {result : LineResult} {lineRun : LineRun}

/-- What no line keeps is kept where no line has an answer. -/
theorem preserves_none {holds : Session → Prop} : LineRunner.Preserves (fun _ _ => none) holds := by
  intro session line after result held ran
  cases ran

/-- What a command tells is told by it alone, or else it keeps the settings in step. -/
theorem told_cases (runs : run.Preserves (InStep follows)) (inStep : session.InStep follows)
    {line : List Char} (parsed : Command.parse line = .ok command)
    (ran : session.runCommand run command = some (after, result)) :
    (after.InStep follows ∧
        lastTold? (LineRun.told ⟨session, line⟩) OptionDefinition.tabStop.name = none) ∨
      (WritesOnly session.editor.settings after.editor.settings ∧
        LineRun.told ⟨session, line⟩ = after.editor.options.notices) := by
  have told : LineRun.told ⟨session, line⟩ =
      (session.runCommand (fun _ _ => none) command).elim [] (·.1.editor.options.notices) := by
    unfold LineRun.told
    rw [parsed]
  rw [told]
  rcases runCommand_cases runs inStep ran with kept | ⟨writes, same⟩
  · cases unasked : session.runCommand (fun _ _ => none) command with
    | none => exact Or.inl ⟨kept, rfl⟩
    | some outcome =>
      rcases runCommand_cases preserves_none inStep unasked with still | ⟨writes, same⟩
      · exact Or.inl ⟨kept, still.heardTabStop⟩
      · obtain rfl : outcome = (after, result) := Option.some.inj ((same run).symm.trans ran)
        exact Or.inr ⟨writes, rfl⟩
  · rw [same]
    exact Or.inr ⟨writes, rfl⟩

/-- A line runs a command, and then the window and the history hear of what has been told. -/
theorem runLineBy_cases (runs : run.Preserves (InStep follows))
    (inStep : lineRun.session.InStep follows)
    (ran : runLineBy run lineRun.session lineRun.line = some (after, result)) :
    ∃ left : Session, after = left.syncOptions.collectReport ∧
      ((left.InStep follows ∧ lastTold? lineRun.told OptionDefinition.tabStop.name = none) ∨
        (WritesOnly lineRun.session.editor.settings left.editor.settings ∧
          lineRun.told = left.editor.options.notices)) := by
  obtain ⟨⟨left, answer⟩, outcome, synced⟩ := Option.map_eq_some_iff.mp ran
  cases synced
  refine ⟨left, rfl, ?_⟩
  cases parsed : Command.parse lineRun.line with
  | error error =>
    rw [parsed] at outcome
    cases outcome
    have untold : lineRun.told = [] := by
      unfold LineRun.told
      rw [parsed]
    rw [untold]
    exact Or.inl ⟨inStep, rfl⟩
  | ok command =>
    rw [parsed] at outcome
    exact told_cases runs inStep parsed outcome

/-- A line leaves the settings in step if the lines that it runs do, and it does not tell of the global
width itself. Where it tells of one in effect, the window follows whatever it did before. -/
theorem inStep_runLineBy (lineRun : LineRun) (runs : run.Preserves (InStep follows))
    (inStep : lineRun.session.InStep follows)
    (spares : later → (follows ∧ ¬TellsGlobal lineRun.told) ∨ TellsEffective lineRun.told)
    (ran : runLineBy run lineRun.session lineRun.line = some (after, result)) :
    after.InStep later := by
  obtain ⟨left, rfl, cases⟩ := runLineBy_cases runs inStep ran
  refine InStep.of_eq ?_ (settings_collectReport _)
  rcases cases with ⟨kept, untold⟩ | ⟨writes, told⟩
  · exact kept.sync_self fun isLater =>
      ((spares isLater).resolve_right (not_tellsEffective untold)).1
  · rw [told] at spares
    exact inStep.sync writes spares

/-- Whatever a line tells of the width of tab stops itself, the window has. -/
theorem tabWidth_runLineBy (lineRun : LineRun) (runs : run.Preserves (InStep follows))
    (inStep : lineRun.session.InStep follows) {value : Nat}
    (tells : changedCount? lineRun.told OptionDefinition.tabStop.name = some value)
    (ran : runLineBy run lineRun.session lineRun.line = some (after, result)) :
    after.editor.window.tabWidth = max value 1 := by
  obtain ⟨left, rfl, cases⟩ := runLineBy_cases runs inStep ran
  rcases cases with ⟨_, untold⟩ | ⟨_, told⟩
  · rw [changedCount?_eq, untold] at tells
    cases tells
  · have synced := congrArg (·.2.1) left.settings_syncOptions
    rw [← told, tells] at synced
    exact (congrArg (·.2.1) (settings_collectReport _)).trans synced

/-- By induction on how deeply lines may be nested. The runner is cut down to the lines that are run, since
what is known is about these only. -/
theorem inStep_runLine (lineRun : LineRun) {nesting : Nat} (inStep : lineRun.session.InStep follows)
    (spared : follows → ∀ later, lineRun.LeadsTo later → ¬TellsGlobal later.told)
    (ran : runLine nesting lineRun.session lineRun.line = some (after, result)) :
    after.InStep follows := by
  induction nesting generalizing lineRun after result with
  | zero => cases ran
  | succ nesting ih =>
    rw [← within_bodyOfLine] at ran
    have ran : bodyOfLine (within bodyOfLine nesting) lineRun = some (after, result) := ran
    have asked : lineRun.nested runFreely = lineRun.nested (.ofLines (within bodyOfLine nesting) id) :=
      (asks_bodyOfLine lineRun).asked_within asks_bodyOfLine ran
    obtain ⟨only, same, isAsked⟩ := (asks_bodyOfLine lineRun).restrict (within bodyOfLine nesting)
    rw [← same] at ran
    have runs : LineRunner.Preserves (.ofLines only id) (InStep follows) := by
      intro session line after result inStep ran
      obtain ⟨isNested, ran⟩ := isAsked ⟨session, line⟩ _ ran
      rw [← asked] at isNested
      rw [within_bodyOfLine] at ran
      refine ih ⟨session, line⟩ inStep ?_ ran
      exact fun isFollowed later leads => spared isFollowed later (leads.head isNested)
    refine inStep_runLineBy lineRun runs inStep ?_ ran
    exact fun isFollowed => Or.inl ⟨isFollowed, spared isFollowed lineRun .refl⟩

theorem inStep_drainTyped {nesting : Nat} {keys : List Key} {flush : Bool} {answer : KeyResult}
    (inStep : session.InStep follows)
    (spared : follows → ∀ first ∈ Round.lines clearStatus (rounds pressFreely flush maxExpansions keys
      session .consumed).flatten, ∀ later, first.LeadsTo later → ¬TellsGlobal later.told)
    (drained : session.drainTyped nesting keys flush = some (after, answer)) :
    after.InStep follows := by
  rw [← drainTypedBy_within] at drained
  have asks := asks_drainTyped session keys flush
  have asked := asks.asked_within asks_bodyOfLine drained
  obtain ⟨only, same, isAsked⟩ := asks.restrict (within bodyOfLine nesting)
  rw [← same] at drained
  have runs : LineRunner.Preserves (.ofLines only clearStatus) (InStep follows) := by
    intro session line after result inStep ran
    obtain ⟨isFirst, ran⟩ := isAsked ⟨session.clearStatus, line⟩ _ ran
    rw [← asked] at isFirst
    rw [within_bodyOfLine] at ran
    exact inStep_runLine _ (inStep.of_eq rfl) (fun isFollowed => spared isFollowed _ isFirst) ran
  obtain ⟨⟨left, waiting, last⟩, ran, shown⟩ := Option.map_eq_some_iff.mp drained
  cases shown
  have leftInStep := drain_preserves (inStep_pressKey runs)
    (fun before error inStep => inStep.of_eq (settings_fail before error)) inStep ran
  exact leftInStep.of_eq rfl

/-- Every line, in every session in step, leaves the history with its limit. -/
theorem runLine_preserves_limit (nesting : Nat) : (runLine nesting).Preserves (InStep False) := by
  intro session line after result inStep ran
  exact inStep_runLine ⟨session, line⟩ inStep nofun ran

/-- A line for the user runs one line, and shows what comes of it. -/
theorem execute_cases {nesting : Nat} {line : List Char}
    (executed : session.execute nesting line = some (after, result)) :
    ∃ deeper ran, nesting = deeper + 1 ∧ after.editor.settings = ran.editor.settings ∧
      runLineBy (runLine deeper) session.clearStatus line = some (ran, result) := by
  obtain ⟨⟨ran, answer⟩, lineRan, shown⟩ := Option.map_eq_some_iff.mp executed
  cases shown
  cases nesting with
  | zero => cases lineRan
  | succ deeper => exact ⟨deeper, ran, rfl, settings_afterLine ran _, lineRan⟩

theorem inStep_execute {nesting : Nat} {line : List Char} (inStep : session.InStep follows)
    (spared : follows → ∀ later, LineRun.LeadsTo ⟨session.clearStatus, line⟩ later →
      ¬TellsGlobal later.told)
    (executed : session.execute nesting line = some (after, result)) : after.InStep follows := by
  obtain ⟨deeper, ran, rfl, same, lineRan⟩ := execute_cases executed
  have lineRan : runLine (deeper + 1) session.clearStatus line = some (ran, result) := lineRan
  exact (inStep_runLine ⟨session.clearStatus, line⟩ (inStep.of_eq rfl) spared lineRan).of_eq same

theorem inStep_begun (inStep : session.InStep follows) : session.begun.InStep follows := by
  unfold begun
  split
  · exact inStep.of_eq rfl
  · exact inStep

/-- The sessions whose window follows its option: no line has told of the global width since the start, or
since a line for the user has told of one in effect. -/
inductive Follows (window : Window) : Session → Prop where
  | start : Follows window (.ofWindow window)
  | tell {session after : Session} {nesting : Nat} {line : List Char} {result : LineResult}
      (reachable : Reachable window session)
      (executed : session.execute nesting line = some (after, result))
      (tells : TellsEffective (LineRun.told ⟨session.clearStatus, line⟩)) : Follows window after
  | execute {session after : Session} {nesting : Nat} {line : List Char} {result : LineResult}
      (follows : Follows window session)
      (executed : session.execute nesting line = some (after, result))
      (spared : ∀ later, LineRun.LeadsTo ⟨session.clearStatus, line⟩ later →
        ¬TellsGlobal later.told) : Follows window after
  | feed {session after : Session} {nesting : Nat} {key : Key} {result : KeyResult}
      (follows : Follows window session)
      (fed : session.feed nesting key = some (after, result))
      (spared : ∀ first ∈ session.feedLines key, ∀ later, first.LeadsTo later →
        ¬TellsGlobal later.told) : Follows window after
  | flush {session after : Session} {nesting : Nat} {result : KeyResult}
      (follows : Follows window session)
      (flushed : session.flush nesting = some (after, result))
      (spared : ∀ first ∈ session.flushLines, ∀ later, first.LeadsTo later →
        ¬TellsGlobal later.told) : Follows window after

variable {window : Window}

theorem Reachable.inStep (reachable : Reachable window session) : session.InStep False := by
  induction reachable with
  | start => exact .of_ofWindow window
  | execute _ executed ih => exact inStep_execute ih nofun executed
  | feed _ fed ih => exact inStep_drainTyped (inStep_begun ih) nofun fed
  | flush _ flushed ih => exact inStep_drainTyped ih nofun flushed

theorem Follows.inStep (follows : Follows window session) : session.InStep True := by
  induction follows with
  | start => exact .of_ofWindow window
  | tell reachable executed tells =>
    obtain ⟨deeper, ran, rfl, same, lineRan⟩ := execute_cases executed
    exact (inStep_runLineBy _ (runLine_preserves_limit deeper) (reachable.inStep.of_eq rfl)
      (fun _ => Or.inr tells) lineRan).of_eq same
  | execute _ executed spared ih => exact inStep_execute ih (fun _ => spared) executed
  | feed _ fed spared ih => exact inStep_drainTyped (inStep_begun ih) (fun _ => spared) fed
  | flush _ flushed spared ih => exact inStep_drainTyped ih (fun _ => spared) flushed

/-- The limit of the history is always that of its option, and the tab stops of a window that follows are
those of theirs. A line for the user that tells of the width of tab stops itself decides, even where it
tells of the global one alone. -/
theorem options_in_effect (window : Window) (session : Session)
    (reachable : Reachable window session) :
    session.editor.history.limit = session.editor.options.count "undolevels" ∧
    (Follows window session →
      session.editor.window.tabWidth = max 1 (session.editor.options.count "tabstop")) ∧
    ∀ nesting line after result value, session.execute nesting line = some (after, result) →
      changedCount? (LineRun.told ⟨session.clearStatus, line⟩) "tabstop" = some value →
      after.editor.window.tabWidth = max 1 value := by
  have inStep := reachable.inStep
  refine ⟨inStep.limit, ?_, ?_⟩
  · intro follows
    rw [Nat.max_comm]
    exact follows.inStep.tabWidth trivial
  · intro nesting line after result value executed tells
    obtain ⟨deeper, ran, rfl, same, lineRan⟩ := execute_cases executed
    have width : ran.editor.window.tabWidth = max value 1 :=
      tabWidth_runLineBy ⟨session.clearStatus, line⟩ (runLine_preserves_limit deeper)
        (inStep.of_eq rfl) tells lineRan
    rw [Nat.max_comm, ← width]
    exact congrArg (·.2.1) same

/-- A local width is in effect, and so is a limit, which has one value only. The global width that is told
behind it is not in effect, and yet the window has it. -/
theorem options_in_effect_setLocal :
    let window : Window := { text := ['a'] }
    ∃ session after result answer,
      (ofWindow window).execute 1 "setlocal ts=4 ul=7".toList = some (session, result) ∧
      session.editor.history.limit = session.editor.options.count "undolevels" ∧
      session.editor.window.tabWidth = max 1 (session.editor.options.count "tabstop") ∧
      session.execute 1 "setglobal ts=2".toList = some (after, answer) ∧
      after.editor.options.count "tabstop" = 4 ∧ after.editor.window.tabWidth = max 1 2 := by
  intro window
  have first : ((ofWindow window).execute 1 "setlocal ts=4 ul=7".toList).any (fun set =>
      changedCount? (LineRun.told ⟨set.1.clearStatus, "setglobal ts=2".toList⟩) "tabstop" = some 2 ∧
      (set.1.execute 1 "setglobal ts=2".toList).any fun others =>
        others.1.editor.options.count "tabstop" = 4) = true := by
    decide +kernel
  have told : lastTold? (LineRun.told ⟨(ofWindow window).clearStatus, "setlocal ts=4 ul=7".toList⟩)
      "tabstop" = some ⟨"tabstop", .local, .number 8, .number 4⟩ := by
    decide +kernel
  obtain ⟨⟨session, result⟩, executed, second⟩ := (Option.any_eq_true _ _).mp first
  obtain ⟨tells, second⟩ := of_decide_eq_true second
  obtain ⟨⟨after, answer⟩, set, count⟩ := (Option.any_eq_true _ _).mp second
  obtain ⟨limit, follows, decides⟩ :=
    options_in_effect window session (Reachable.start.execute executed)
  exact ⟨session, after, result, answer, executed, limit,
    follows (.tell .start executed ⟨_, told, nofun⟩), set, of_decide_eq_true count,
    decides 1 _ after answer 2 set tells⟩

end Session

end ModalEdit

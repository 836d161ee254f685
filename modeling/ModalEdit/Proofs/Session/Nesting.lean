import Mathlib.Order.WellFounded
import ModalEdit.Proofs.Session.Strokes
import ModalEdit.Session.Run

/-!
Lines that run other lines: those that an expression makes up, and those that keys taken as if they were
typed hand over, mapped or not. Nothing bounds how deeply lines are nested. A call has an answer exactly
where no line that it runs goes on to run others forever.
-/

set_option autoImplicit false

namespace ModalEdit

/-- A command line that is run, and the session that it is run in. -/
structure LineRun where
  session : Session
  line : List Char

/-- What comes of a line. -/
abbrev LineAnswer := Option (Session × LineResult)

/-- Runs a line in a session prepared by `start`. -/
def LineRunner.ofLines (answer : LineRun → LineAnswer) (start : Session → Session) : LineRunner :=
  fun session line => answer ⟨start session, line⟩

/-- The line that a stroke hands over, in a session prepared by `start`. -/
def Stroke.lines (start : Session → Session) (stroke : Stroke) : List LineRun :=
  let (editor, step) := stroke.session.editor.press stroke.key
  match step with
  | .execute line => [⟨start { stroke.session with editor }.collectReport, line⟩]
  | _ => []

/-- The lines that the strokes of rounds hand over. -/
def Round.lines (start : Session → Session) (round : Round) : List LineRun :=
  round.flatMap (Stroke.lines start)

namespace Session

/-- The line that expressions make up. -/
def executeLines (session : Session) (command : Command) : List LineRun :=
  match command.arguments with
  | .exprs exprs =>
    match exprs.mapM fun expr => (expr.eval session.environment).bind Script.Value.toText with
    | .ok texts => [⟨session, (" ".intercalate texts).toList⟩]
    | .error _ => []
  | _ => []

/-- The lines that keys taken as if they were typed hand over. -/
def normalLines (run : LineRunner) (session : Session) (command : Command) : List LineRun :=
  let keys := command.rawText.toList.map Key.ofControlChar
  if keys = [] then []
  else Round.lines id (runStrokes (pressKey run) session keys (!command.bang))

/-- The lines that a handler runs. -/
def handlerLines (run : LineRunner) (session : Session) (command : Command) : Handler → List LineRun
  | .execute => session.executeLines command
  | .normal => session.normalLines run command
  | _ => []

/-- The lines that a command runs. -/
def commandLines (run : LineRunner) (session : Session) (command : Command) : List LineRun :=
  match refusal? command with
  | some _ => []
  | none => (session.handlers command.id).elim [] (session.handlerLines run command)

/-- Runs a command line that runs others by `run`. -/
def runLineBy (run : LineRunner) : LineRunner := fun session line =>
  let outcome? : Option (Session × LineResult) :=
    match Command.parse line with
    | .error error => some (session, .error (.script error))
    | .ok command => session.runCommand run command
  outcome?.map fun (session, result) => (session.syncOptions.collectReport, result)

theorem runLine_succ (nesting : Nat) : runLine (nesting + 1) = runLineBy (runLine nesting) :=
  rfl

end Session

/-- The lines that a line runs, where `run` answers them. -/
def LineRun.nested (run : LineRunner) (lineRun : LineRun) : List LineRun :=
  match Command.parse lineRun.line with
  | .error _ => []
  | .ok command => lineRun.session.commandLines run command

namespace Session

open Asking (Asks within settled)

section Asking

variable (session : Session) (command : Command)

theorem asks_pressKey (start : Session → Session) (stroke : Stroke) :
    Asks (fun answer => pressKey (.ofLines answer start) stroke.session stroke.key)
      (fun _ => stroke.lines start) := by
  unfold pressKey Stroke.lines
  rcases stroke.session.editor.press stroke.key with ⟨editor, step⟩
  cases step with
  | done | pending | rejected => exact .pure _
  | execute line =>
    exact (Asks.ask _).map _

theorem asks_runExecute :
    Asks (fun answer => session.runExecute (.ofLines answer id) command)
      (fun _ => session.executeLines command) := by
  unfold runExecute executeLines
  cases command.arguments with
  | exprs exprs =>
    dsimp only
    cases exprs.mapM fun expr => (expr.eval session.environment).bind Script.Value.toText with
    | ok texts => exact .ask _
    | error error => exact .pure _
  | _ => exact .pure _

theorem asks_runNormal :
    Asks (fun answer => session.runNormal (.ofLines answer id) command)
      (fun answer => session.normalLines (.ofLines answer id) command) := by
  unfold runNormal normalLines
  dsimp only
  split
  · exact .pure _
  · have outer := asks_runKeys session (command.rawText.toList.map Key.ofControlChar) (!command.bang)
    exact (outer.comp (asks_pressKey id)).map _

theorem asks_runHandler (handler : Handler) :
    Asks (fun answer => session.runHandler (.ofLines answer id) command handler)
      (fun answer => session.handlerLines (.ofLines answer id) command handler) := by
  cases handler with
  | execute => exact session.asks_runExecute command
  | normal => exact session.asks_runNormal command
  | _ => exact .pure _

theorem asks_runCommand :
    Asks (fun answer => session.runCommand (.ofLines answer id) command)
      (fun answer => session.commandLines (.ofLines answer id) command) := by
  unfold runCommand commandLines
  cases refusal? command with
  | some error => exact .pure _
  | none =>
    cases session.handlers command.id with
    | some handler => exact session.asks_runHandler command handler
    | none => exact .pure _

end Asking

/-- Runs a line where the lines that it runs have answers. -/
def bodyOfLine (answer : LineRun → LineAnswer) (lineRun : LineRun) : LineAnswer :=
  runLineBy (.ofLines answer id) lineRun.session lineRun.line

theorem asks_bodyOfLine (lineRun : LineRun) :
    Asks (fun answer => bodyOfLine answer lineRun)
      (fun answer => lineRun.nested (.ofLines answer id)) := by
  unfold bodyOfLine runLineBy LineRun.nested
  dsimp only
  cases Command.parse lineRun.line with
  | error error => exact .pure _
  | ok command => exact (lineRun.session.asks_runCommand command).map _

theorem within_bodyOfLine (nesting : Nat) (lineRun : LineRun) :
    within bodyOfLine nesting lineRun = runLine nesting lineRun.session lineRun.line := by
  induction nesting generalizing lineRun with
  | zero => rfl
  | succ nesting ih =>
    have nested : LineRunner.ofLines (within bodyOfLine nesting) id = runLine nesting := by
      funext session line
      exact ih ⟨session, line⟩
    show runLineBy (.ofLines (within bodyOfLine nesting) id) lineRun.session lineRun.line = _
    rw [nested, runLine_succ]

/-- Runs a line that may nest others as deeply as it likes. -/
noncomputable def runFreely : LineRunner :=
  .ofLines (settled bodyOfLine) id

theorem runFreely_eq_some_iff {session : Session} {line : List Char}
    {outcome : Session × LineResult} :
    runFreely session line = some outcome ↔
      ∃ nesting, runLine nesting session line = some outcome := by
  have answered : settled bodyOfLine ⟨session, line⟩ = some outcome ↔ _ :=
    Asking.settled_eq_some_iff asks_bodyOfLine
  simp only [within_bodyOfLine] at answered
  exact answered

end Session

/-- A line runs on where it runs a line that runs a line, and so on forever. -/
def LineRun.RunsOn (lineRun : LineRun) : Prop :=
  ∃ chain : Nat → LineRun, chain 0 = lineRun ∧
    ∀ level, chain (level + 1) ∈ (chain level).nested Session.runFreely

namespace Session

open Asking (Asks within)

/-- A line has an answer, if nested lines may be deep enough, exactly where it does not run on. -/
theorem runLine_ends_iff (lineRun : LineRun) :
    (∃ nesting, (runLine nesting lineRun.session lineRun.line).isSome = true) ↔ ¬lineRun.RunsOn := by
  have ends : _ ↔ Acc (fun later earlier => later ∈ earlier.nested runFreely) lineRun :=
    Asking.exists_within_iff_acc asks_bodyOfLine
  simp only [within_bodyOfLine] at ends
  exact ends.trans (not_iff_comm.mp not_acc_iff_exists_descending_chain).symm

/-- A line that runs itself in the session that it is run in runs on. -/
theorem runsOn_of_mem_nested {lineRun : LineRun} (again : lineRun ∈ lineRun.nested runFreely) :
    lineRun.RunsOn :=
  ⟨fun _ => lineRun, rfl, fun _ => again⟩

/-- A line that runs what an expression makes up runs on where the expression makes up the line. -/
theorem runsOn_execute {session : Session} {line : List Char} {expr : Script.Expr}
    (handled : session.handlers .execute = some .execute)
    (parsed : Command.parse line = .ok ⟨none, .execute, false, .exprs [expr]⟩)
    (itself : (expr.eval session.environment).bind Script.Value.toText = .ok (String.ofList line)) :
    LineRun.RunsOn ⟨session, line⟩ := by
  have taken : refusal? ⟨none, .execute, false, .exprs [expr]⟩ = none := by
    rfl
  have nested : LineRun.nested runFreely ⟨session, line⟩ = [⟨session, line⟩] := by
    unfold LineRun.nested commandLines
    simp only [parsed, taken, handled, Option.elim_some, handlerLines, executeLines,
      List.mapM_cons, itself]
    show [LineRun.mk session (String.ofList line).toList] = [⟨session, line⟩]
    rw [String.toList_ofList]
  apply runsOn_of_mem_nested
  rw [nested]
  exact List.mem_singleton_self _

theorem runLine_eq_of_le {session : Session} {line : List Char} {nesting deeper : Nat}
    (le : nesting ≤ deeper) {outcome : Session × LineResult}
    (ran : runLine nesting session line = some outcome) :
    runLine deeper session line = some outcome := by
  have asked (nesting : Nat) :
      runLine nesting session line = within bodyOfLine nesting ⟨session, line⟩ :=
    (within_bodyOfLine nesting ⟨session, line⟩).symm
  rw [asked] at ran ⊢
  exact Asking.within_le asks_bodyOfLine le ran

section Typing

theorem pressKey_within (nesting : Nat) :
    pressKey (.ofLines (within bodyOfLine nesting) clearStatus) = pressTyped nesting := by
  unfold pressTyped LineRunner.ofLines
  simp only [within_bodyOfLine]

/-- Takes a key that the user typed, with lines nested as deeply as they like. -/
noncomputable def pressFreely : KeyRunner :=
  pressKey fun session line => runFreely session.clearStatus line

/-- The lines that a typed key leads to at first hand. -/
noncomputable def feedLines (session : Session) (key : Key) : List LineRun :=
  Round.lines clearStatus (session.feedRounds pressFreely key).flatten

/-- The lines that the end of waiting leads to at first hand. -/
noncomputable def flushLines (session : Session) : List LineRun :=
  Round.lines clearStatus (session.flushRounds pressFreely).flatten

/-- Uses the keys that wait, where lines have answers. -/
def drainTypedBy (answer : LineRun → LineAnswer) (session : Session) (keys : List Key)
    (flush : Bool) : Option (Session × KeyResult) :=
  (drain (pressKey (.ofLines answer clearStatus)) flush maxExpansions keys session .consumed).map
    fun (session, typeahead, result) => ({ session with typeahead }, result)

theorem drainTypedBy_within (nesting : Nat) (session : Session) (keys : List Key) (flush : Bool) :
    drainTypedBy (within bodyOfLine nesting) session keys flush =
      session.drainTyped nesting keys flush := by
  unfold drainTypedBy drainTyped
  rw [pressKey_within]

theorem asks_drainTyped (session : Session) (keys : List Key) (flush : Bool) :
    Asks (fun answer => drainTypedBy answer session keys flush)
      (fun answer => Round.lines clearStatus (rounds (pressKey (.ofLines answer clearStatus)) flush
        maxExpansions keys session .consumed).flatten) :=
  ((asks_drain flush maxExpansions keys session .consumed).comp (asks_pressKey clearStatus)).map _

/-- Keys are used up exactly where no line that they hand over runs on. -/
theorem drainTyped_ends_iff (session : Session) (keys : List Key) (flush : Bool) :
    (∃ nesting, (session.drainTyped nesting keys flush).isSome = true) ↔
      ∀ line ∈ Round.lines clearStatus (rounds pressFreely flush maxExpansions keys session
        .consumed).flatten, ¬line.RunsOn := by
  have ends := (asks_drainTyped session keys flush).ends_iff asks_bodyOfLine
  simp only [drainTypedBy_within, within_bodyOfLine, runLine_ends_iff] at ends
  exact ends

theorem drainTyped_eq_of_le {session : Session} {keys : List Key} {flush : Bool}
    {nesting deeper : Nat} (le : nesting ≤ deeper) {outcome : Session × KeyResult}
    (drained : session.drainTyped nesting keys flush = some outcome) :
    session.drainTyped deeper keys flush = some outcome := by
  rw [← drainTypedBy_within] at drained ⊢
  exact (asks_drainTyped session keys flush).eq_of_le asks_bodyOfLine le drained

end Typing

/-- A call has an answer, if nested lines may be deep enough, exactly where no line that it runs at first
hand runs on. Mappings always come to an end. The answer is the same however much deeper lines may be. -/
theorem calls_end_iff (session : Session) :
    (∀ line, (∃ nesting, (session.execute nesting line).isSome = true) ↔
      ¬LineRun.RunsOn ⟨session.clearStatus, line⟩) ∧
    (∀ key, (∃ nesting, (session.feed nesting key).isSome = true) ↔
      ∀ lineRun ∈ session.feedLines key, ¬lineRun.RunsOn) ∧
    ((∃ nesting, (session.flush nesting).isSome = true) ↔
      ∀ lineRun ∈ session.flushLines, ¬lineRun.RunsOn) ∧
    ∀ nesting deeper, nesting ≤ deeper →
      (∀ line outcome, session.execute nesting line = some outcome →
        session.execute deeper line = some outcome) ∧
      (∀ key outcome, session.feed nesting key = some outcome →
        session.feed deeper key = some outcome) ∧
      ∀ outcome, session.flush nesting = some outcome → session.flush deeper = some outcome := by
  refine ⟨?_, ?_, ?_, ?_⟩
  · intro line
    rw [← runLine_ends_iff]
    simp only [execute, Option.isSome_map]
  · intro key
    exact drainTyped_ends_iff session.begun (session.typeahead ++ [key]) false
  · exact drainTyped_ends_iff session session.typeahead true
  · intro nesting deeper le
    refine ⟨?_, fun key outcome => drainTyped_eq_of_le le, fun outcome => drainTyped_eq_of_le le⟩
    intro line outcome ran
    obtain ⟨ended, lineRan, same⟩ := Option.map_eq_some_iff.mp ran
    exact Option.map_eq_some_iff.mpr ⟨ended, runLine_eq_of_le le lineRan, same⟩

end Session

end ModalEdit

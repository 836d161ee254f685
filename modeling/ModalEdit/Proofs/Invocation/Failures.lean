import ModalEdit.Invocation
import ModalEdit.Proofs.Session.Noting

/-!
Which failures a batch remembers. It looks at the answer of a line that is an action, and at the error that
stands after each key. So what fails among the keys that an action plays by `:normal` is not remembered,
and neither is what fails before another line that the same key begins.
-/

set_option autoImplicit false

namespace ModalEdit

open StatusNote (standing)

/-- Whether a line plays keys, itself or by a line that it makes up. -/
inductive LineRun.PlaysKeys : LineRun → Prop where
  | normal {session : Session} {line : List Char} {command : Command}
      (parsed : Command.parse line = .ok command)
      (handled : session.handlers command.id = some .normal) : PlaysKeys ⟨session, line⟩
  | execute {session : Session} {line : List Char} {command : Command} {made : LineRun}
      (parsed : Command.parse line = .ok command)
      (handled : session.handlers command.id = some .execute)
      (isMade : made ∈ session.executeLines command) (plays : made.PlaysKeys) :
      PlaysKeys ⟨session, line⟩

namespace Session

/-- The line that expressions make up is the only one that its command runs, and the answer is its own. -/
theorem failed_of_executeNotes {run : LineRunner} {log : LineRun → List StatusNote} {session : Session}
    {command : Command} (notes : (session.executeLines command).flatMap log ≠ [])
    (fails : ∀ made ∈ session.executeLines command, log made ≠ [] →
      ∃ left error, run made.session made.line = some (left, .error error)) :
    ∃ left error, session.runExecute run command = some (left, .error error) := by
  unfold executeLines at notes fails
  unfold runExecute
  cases arguments : command.arguments with
  | exprs exprs =>
    rw [arguments] at notes fails
    dsimp only at notes fails ⊢
    generalize exprs.mapM (fun expr => (expr.eval session.environment).bind Script.Value.toText) =
      texts at notes fails ⊢
    cases texts with
    | ok texts =>
      rw [List.flatMap_singleton] at notes
      exact fails _ (List.mem_singleton.mpr rfl) notes
    | error error => exact ⟨_, _, rfl⟩
  | _ =>
    rw [arguments] at notes
    exact absurd rfl notes

/-- A command that plays no keys fails where the line fails that it runs. -/
theorem failed_of_commandNotes {run : LineRunner} {log : LineRun → List StatusNote} {session : Session}
    {command : Command} (notes : session.commandNotes run log command ≠ [])
    (silent : session.handlers command.id ≠ some .normal)
    (fails : session.handlers command.id = some .execute →
      ∀ made ∈ session.executeLines command, log made ≠ [] →
        ∃ left error, run made.session made.line = some (left, .error error)) :
    ∃ left error, session.runCommand run command = some (left, .error error) := by
  unfold commandNotes at notes
  unfold runCommand
  cases refused : refusal? command with
  | some error =>
    rw [refused] at notes
    exact absurd rfl notes
  | none =>
    rw [refused] at notes
    cases handled : session.handlers command.id with
    | none =>
      rw [handled] at notes
      exact absurd rfl notes
    | some handler =>
      rw [handled] at notes silent fails
      cases handler with
      | execute => exact failed_of_executeNotes notes (fails rfl)
      | normal => exact absurd rfl silent
      | _ => exact absurd rfl notes

/-- Where anything fails in a line that plays no keys, the line itself fails. By induction on how deeply
lines may be nested: the line that it makes up fails, and its error is the answer. -/
theorem failed_of_lineNotes {nesting : Nat} {lineRun : LineRun} (notes : lineNotes nesting lineRun ≠ [])
    (silent : ¬lineRun.PlaysKeys) :
    ∃ left error, runLine nesting lineRun.session lineRun.line = some (left, .error error) := by
  induction nesting generalizing lineRun with
  | zero => exact absurd rfl notes
  | succ nesting ih =>
    obtain ⟨session, line⟩ := lineRun
    unfold lineNotes at notes
    unfold runLine at notes ⊢
    dsimp only at notes ⊢
    cases parsed : Command.parse line with
    | error error => exact ⟨_, _, rfl⟩
    | ok command =>
      rw [parsed] at notes
      dsimp only at notes ⊢
      by_cases inner : session.commandNotes (runLine nesting) (lineNotes nesting) command = []
      · rw [inner, List.nil_append] at notes
        unfold answerNotes at notes
        split at notes
        · exact ⟨_, _, ‹_›⟩
        · exact absurd rfl notes
      · obtain ⟨left, error, ran⟩ := failed_of_commandNotes inner
          (fun handled => silent (.normal parsed handled)) fun handled made isMade notes =>
            ih notes fun plays => silent (.execute parsed handled isMade plays)
        rw [ran]
        exact ⟨_, _, rfl⟩

/-- The error of a line is among its notes. -/
theorem failed_mem_lineNotes {nesting : Nat} {lineRun : LineRun} {left : Session} {error : SessionError}
    (ran : runLine nesting lineRun.session lineRun.line = some (left, .error error)) :
    .failed error ∈ lineNotes nesting lineRun := by
  cases nesting with
  | zero => cases ran
  | succ nesting =>
    unfold lineNotes
    rw [ran]
    exact List.mem_append_right _ (List.mem_singleton.mpr rfl)

end Session

/-- What a batch asks of its session. -/
inductive Request where
  | line (chars : List Char)
  | key (key : Key)
  /-- The end of waiting for keys. -/
  | flush

/-- What an action asks for, in order. -/
def Action.requests : Action → List Request
  | .line text => [.line ((Text.strip? [':'] text.toList).getD text.toList)]
  | .keys spelled => (Key.ofString spelled).map .key ++ [.flush]

namespace Request

/-- What comes of a request, and whether the batch takes it for a failure. -/
def answer (nesting : Nat) (session : Session) : Request → Option (Session × Bool)
  | .line chars =>
    (session.execute nesting chars).map fun (left, result) => (left, result matches .error _)
  | .key pressed => (session.feed nesting pressed).map fun (left, _) => (left, left.lastError?.isSome)
  | .flush => (session.flush nesting).map fun (left, _) => (left, left.lastError?.isSome)

/-- What becomes of the status while a request is met. -/
def notes (nesting : Nat) (session : Session) : Request → List StatusNote
  | .line chars => .cleared :: Session.lineNotes nesting ⟨session.clearStatus, chars⟩
  | .key pressed => session.feedNotes nesting pressed
  | .flush => session.flushNotes nesting

/-- Something fails while a request is met, however deeply it is nested. -/
def Fails (nesting : Nat) (session : Session) (request : Request) : Prop :=
  ∃ error, .failed error ∈ request.notes nesting session

/-- What the batch takes for a failure: the error of a line, and the error that stands after a key. -/
def Tells (nesting : Nat) (session : Session) : Request → Prop
  | .line chars => ∃ left error, session.execute nesting chars = some (left, .error error)
  | .key pressed => ∃ error, standing session.lastError? (session.feedNotes nesting pressed) = some error
  | .flush => ∃ error, standing session.lastError? (session.flushNotes nesting) = some error

/-- Where a failure can be lost: in a line that plays keys, and before a line that the same key begins. -/
def Loses (nesting : Nat) (session : Session) : Request → Prop
  | .line chars => LineRun.PlaysKeys ⟨session.clearStatus, chars⟩
  | .key pressed => (session.feedNotes nesting pressed).getLast? = some .cleared
  | .flush => (session.flushNotes nesting).getLast? = some .cleared

variable {nesting : Nat} {session left : Session} {request : Request} {failed : Bool}

/-- The last note of a request decides which error is the last one. -/
theorem lastError?_answer (answered : request.answer nesting session = some (left, failed)) :
    left.lastError? = standing session.lastError? (request.notes nesting session) := by
  cases request with
  | line chars =>
    obtain ⟨⟨ended, result⟩, executed, same⟩ := Option.map_eq_some_iff.mp answered
    cases same
    rw [Session.lastError?_execute executed]
    exact (StatusNote.standing_append session.lastError? [.cleared] _).symm
  | key pressed =>
    obtain ⟨⟨ended, result⟩, fed, same⟩ := Option.map_eq_some_iff.mp answered
    cases same
    exact Session.lastError?_feed fed
  | flush =>
    obtain ⟨⟨ended, result⟩, flushed, same⟩ := Option.map_eq_some_iff.mp answered
    cases same
    exact Session.lastError?_flush flushed

theorem failed_iff_tells (answered : request.answer nesting session = some (left, failed)) :
    failed = true ↔ request.Tells nesting session := by
  have last := lastError?_answer answered
  cases request with
  | line chars =>
    obtain ⟨⟨ended, result⟩, executed, same⟩ := Option.map_eq_some_iff.mp answered
    cases same
    cases result with
    | error error => exact ⟨fun _ => ⟨_, error, executed⟩, fun _ => rfl⟩
    | ok output? =>
      refine ⟨nofun, ?_⟩
      rintro ⟨other, error, failing⟩
      rw [executed] at failing
      cases failing
  | key | flush =>
    obtain ⟨outcome, _, same⟩ := Option.map_eq_some_iff.mp answered
    cases same
    refine Option.isSome_iff_exists.trans ?_
    rw [last]
    exact .rfl

theorem fails_line_iff {chars : List Char} :
    (line chars).Fails nesting session ↔
      ∃ error, .failed error ∈ Session.lineNotes nesting ⟨session.clearStatus, chars⟩ :=
  exists_congr fun _ => List.mem_cons.trans (or_iff_right StatusNote.noConfusion)

/-- A request that fails tells so, unless the failure is lost. -/
theorem Fails.tells_or_loses (fails : request.Fails nesting session) :
    request.Tells nesting session ∨ request.Loses nesting session := by
  cases request with
  | line chars =>
    obtain ⟨error, noted⟩ := fails_line_iff.mp fails
    by_cases plays : LineRun.PlaysKeys ⟨session.clearStatus, chars⟩
    · exact .inr plays
    · obtain ⟨left, error, ran⟩ := Session.failed_of_lineNotes (List.ne_nil_of_mem noted) plays
      exact .inl ⟨_, error, Option.map_eq_some_iff.mpr ⟨_, ran, rfl⟩⟩
  | key | flush =>
    obtain ⟨error, noted⟩ := fails
    rcases StatusNote.standing_cases session.lastError? noted with ⟨last, stands⟩ | cleared
    · exact .inl ⟨last, stands⟩
    · exact .inr cleared

/-- What a request tells has failed in it, or stood before. -/
theorem Tells.fails (tells : request.Tells nesting session) :
    request.Fails nesting session ∨ session.lastError?.isSome := by
  cases request with
  | line chars =>
    obtain ⟨left, error, executed⟩ := tells
    obtain ⟨⟨ran, result⟩, lineRan, shown⟩ := Option.map_eq_some_iff.mp executed
    cases shown
    exact .inl (fails_line_iff.mpr ⟨error, Session.failed_mem_lineNotes lineRan⟩)
  | key | flush =>
    obtain ⟨error, stands⟩ := tells
    exact (StatusNote.failed_mem_of_standing stands).imp (⟨error, ·⟩) Option.isSome_of_eq_some

/-- The error that a request leaves has failed in it, or stood before. -/
theorem fails_of_lastError? (answered : request.answer nesting session = some (left, failed))
    (isSome : left.lastError?.isSome) :
    request.Fails nesting session ∨ session.lastError?.isSome := by
  obtain ⟨error, isLast⟩ := Option.isSome_iff_exists.mp isSome
  rw [lastError?_answer answered] at isLast
  exact (StatusNote.failed_mem_of_standing isLast).imp (⟨error, ·⟩) Option.isSome_of_eq_some

/-- A line for the user in which anything fails leaves one of these errors, since no line that it runs
clears the status. -/
theorem Fails.lastError?_of_line {chars : List Char} (fails : (line chars).Fails nesting session)
    (answered : (line chars).answer nesting session = some (left, failed)) :
    ∃ error, left.lastError? = some error ∧ .failed error ∈ (line chars).notes nesting session := by
  obtain ⟨error, noted⟩ := fails_line_iff.mp fails
  have last : left.lastError? = standing none (Session.lineNotes nesting ⟨session.clearStatus, chars⟩) :=
    (lastError?_answer answered).trans (StatusNote.standing_append session.lastError? [.cleared] _)
  rcases StatusNote.standing_cases none noted with ⟨error, stands⟩ | cleared
  · have among := (StatusNote.failed_mem_of_standing stands).resolve_right nofun
    exact ⟨error, last.trans stands, List.mem_cons_of_mem _ among⟩
  · exact absurd (List.mem_of_getLast? cleared) (Session.cleared_notMem_lineNotes _ _)

end Request

namespace Batch

/-- The batch after a request, without its output. -/
def ask (nesting : Nat) (request : Request) (batch : Batch) : Option Batch :=
  (request.answer nesting batch.session).map fun (session, failed) => (batch.goOn session failed).1

/-- The batch after requests. -/
def askAll (nesting : Nat) (requests : List Request) (batch : Batch) : Option Batch :=
  requests.foldlM (fun batch request => batch.ask nesting request) batch

/-- The batch after actions, without their output. -/
def runAll (nesting : Nat) (actions : List Action) (batch : Batch) : Option Batch :=
  actions.foldlM (fun batch action => (batch.run nesting action).map Prod.fst) batch

/-- Requests are met one by one from a batch on, and this request finds this batch. -/
def Comes (nesting : Nat) (start : Batch) (requests : List Request) (request : Request) (found : Batch) :
    Prop :=
  ∃ earlier later, requests = earlier ++ request :: later ∧ askAll nesting earlier start = some found

variable {nesting : Nat} {start found next after : Batch} {request other : Request}
  {rest requests : List Request}

theorem askAll_cons (request : Request) (rest : List Request) (batch : Batch) :
    askAll nesting (request :: rest) batch = (batch.ask nesting request).bind (askAll nesting rest) :=
  List.foldlM_cons

/-- By induction along the keys, with the end of waiting behind them. -/
theorem runKeys_eq (keys : List Key) (batch : Batch) :
    (runKeys nesting keys batch).map Prod.fst = askAll nesting (keys.map .key ++ [.flush]) batch := by
  induction keys generalizing batch with
  | nil =>
    rw [List.map_nil, List.nil_append, askAll_cons]
    unfold runKeys ask Request.answer
    cases batch.session.flush nesting <;> rfl
  | cons key rest ih =>
    rw [List.map_cons, List.cons_append, askAll_cons]
    unfold runKeys ask Request.answer
    dsimp only
    cases batch.session.feed nesting key with
    | none => rfl
    | some fed =>
      dsimp only [Option.map_some, Option.bind_some]
      rw [← ih]
      dsimp only [bind, Option.bind_some]
      generalize runKeys nesting rest _ = more
      cases more <;> rfl

theorem run_eq (batch : Batch) (action : Action) :
    (batch.run nesting action).map Prod.fst = askAll nesting action.requests batch := by
  cases action with
  | line text =>
    unfold Action.requests
    rw [askAll_cons]
    unfold run ask Request.answer
    dsimp only
    cases batch.session.execute nesting _ <;> rfl
  | keys spelled => exact runKeys_eq _ batch

theorem runAll_eq (actions : List Action) (batch : Batch) :
    runAll nesting actions batch = askAll nesting (actions.flatMap Action.requests) batch := by
  induction actions generalizing batch with
  | nil => rfl
  | cons action rest ih =>
    unfold askAll at ih ⊢
    unfold runAll at ih ⊢
    rw [List.flatMap_cons, List.foldlM_append, List.foldlM_cons, run_eq]
    exact Option.bind_congr fun next _ => ih next

theorem comes_cons :
    Comes nesting start (other :: rest) request found ↔
      request = other ∧ found = start ∨
        ∃ next, start.ask nesting other = some next ∧ Comes nesting next rest request found := by
  constructor
  · rintro ⟨_ | ⟨first, earlier⟩, later, split, reached⟩
    · cases split
      cases reached
      exact .inl ⟨rfl, rfl⟩
    · cases split
      rw [askAll_cons] at reached
      obtain ⟨next, asked, reached⟩ := Option.bind_eq_some_iff.mp reached
      exact .inr ⟨next, asked, earlier, later, rfl, reached⟩
  · rintro (⟨rfl, rfl⟩ | ⟨next, asked, earlier, later, rfl, reached⟩)
    · exact ⟨[], rest, rfl, rfl⟩
    · refine ⟨other :: earlier, later, rfl, ?_⟩
      rw [askAll_cons, asked]
      exact reached

/-- A failure that is told is remembered. -/
theorem failed_ask (asked : start.ask nesting request = some next) :
    next.failed = true ↔ start.failed = true ∨ request.Tells nesting start.session := by
  obtain ⟨⟨session, failed⟩, answered, same⟩ := Option.map_eq_some_iff.mp asked
  cases same
  rw [← Request.failed_iff_tells answered]
  exact Bool.or_eq_true_iff

/-- Whether a failure is remembered, or an error stands. -/
def Marked (batch : Batch) : Prop :=
  batch.failed = true ∨ batch.session.lastError?.isSome

/-- Nothing marks a batch but what fails. -/
theorem fails_of_marked (asked : start.ask nesting request = some next) (marked : next.Marked) :
    start.Marked ∨ request.Fails nesting start.session := by
  rcases marked with failed | stands
  · rcases (failed_ask asked).mp failed with already | tells
    · exact .inl (.inl already)
    · exact tells.fails.symm.imp_left .inr
  · obtain ⟨⟨session, failed⟩, answered, same⟩ := Option.map_eq_some_iff.mp asked
    cases same
    exact (Request.fails_of_lastError? answered stands).symm.imp_left .inr

/-- A batch fails in the end just if it failed at first or some request that comes tells. -/
theorem failed_askAll (asked : askAll nesting requests start = some after) :
    after.failed = true ↔ start.failed = true ∨
      ∃ request found, Comes nesting start requests request found ∧
        request.Tells nesting found.session := by
  induction requests generalizing start with
  | nil =>
    cases asked
    refine ⟨.inl, fun failed => failed.resolve_right ?_⟩
    rintro ⟨request, found, ⟨earlier, later, split, _⟩, _⟩
    exact absurd split.symm (List.append_ne_nil_of_right_ne_nil earlier (List.cons_ne_nil request later))
  | cons request rest ih =>
    rw [askAll_cons] at asked
    obtain ⟨next, first, asked⟩ := Option.bind_eq_some_iff.mp asked
    rw [ih asked, failed_ask first, or_assoc]
    refine or_congr_right ?_
    constructor
    · rintro (tells | ⟨told, found, comes, tells⟩)
      · exact ⟨request, start, comes_cons.mpr (.inl ⟨rfl, rfl⟩), tells⟩
      · exact ⟨told, found, comes_cons.mpr (.inr ⟨next, first, comes⟩), tells⟩
    · rintro ⟨told, found, comes, tells⟩
      rcases comes_cons.mp comes with ⟨rfl, rfl⟩ | ⟨other, again, comes⟩
      · exact .inl tells
      · cases first.symm.trans again
        exact .inr ⟨told, found, comes, tells⟩

/-- Where a batch is marked in the end and was not at first, something fails in a request that comes. -/
theorem fails_of_askAll (asked : askAll nesting requests start = some after) (marked : after.Marked) :
    start.Marked ∨
      ∃ request found, Comes nesting start requests request found ∧
        request.Fails nesting found.session := by
  induction requests generalizing start with
  | nil =>
    cases asked
    exact .inl marked
  | cons request rest ih =>
    rw [askAll_cons] at asked
    obtain ⟨next, first, asked⟩ := Option.bind_eq_some_iff.mp asked
    rcases ih asked with already | ⟨failing, found, comes, fails⟩
    · exact (fails_of_marked first already).imp_right fun fails =>
        ⟨request, start, comes_cons.mpr (.inl ⟨rfl, rfl⟩), fails⟩
    · exact .inr ⟨failing, found, comes_cons.mpr (.inr ⟨next, first, comes⟩), fails⟩

/-- A batch that runs actions on a text remembers a failure just if some line or key of theirs tells one. It
never does so without a failure, and a line or key that fails tells, unless it loses the failure. The last
error after a line in which anything fails is one of those that fail in it, told or not. -/
theorem failed_iff {text : Document} {actions : List Action}
    (ran : runAll nesting actions (ofText text) = some after) :
    (after.failed = true ↔ ∃ request found,
      Comes nesting (ofText text) (actions.flatMap Action.requests) request found ∧
        request.Tells nesting found.session) ∧
    (after.failed = true → ∃ request found,
      Comes nesting (ofText text) (actions.flatMap Action.requests) request found ∧
        request.Fails nesting found.session) ∧
    ∀ request found, Comes nesting (ofText text) (actions.flatMap Action.requests) request found →
      request.Fails nesting found.session →
        (request.Tells nesting found.session ∨ request.Loses nesting found.session) ∧
        ∀ chars left failed, request = .line chars →
          request.answer nesting found.session = some (left, failed) →
            ∃ error, left.lastError? = some error ∧
              .failed error ∈ request.notes nesting found.session := by
  rw [runAll_eq] at ran
  refine ⟨(failed_askAll ran).trans (or_iff_right nofun), fun failed => ?_, ?_⟩
  · exact (fails_of_askAll ran (.inl failed)).resolve_left fun marked =>
      marked.elim nofun nofun
  · intro request found _ fails
    refine ⟨fails.tells_or_loses, ?_⟩
    rintro chars left failed rfl answered
    exact fails.lastError?_of_line answered

/-- A mapping that a line plays hands over a line that fails, and the failure is lost. -/
theorem failed_iff_played : ∃ after found,
    runAll 3 [.line "nmap Q :nosuch<CR>", .line "normal Q"] (ofText "abc".toList) = some after ∧
      Comes 3 (ofText "abc".toList) [.line "nmap Q :nosuch<CR>".toList, .line "normal Q".toList]
        (.line "normal Q".toList) found ∧
      (Request.line "normal Q".toList).Fails 3 found.session ∧ after.failed = false ∧
      (Request.line "normal Q".toList).Loses 3 found.session := by
  have ends : ((runAll 3 [.line "nmap Q :nosuch<CR>", .line "normal Q"] (ofText "abc".toList)).any
      fun after => !after.failed) = true := by decide +kernel
  have fails : ((askAll 3 [.line "nmap Q :nosuch<CR>".toList] (ofText "abc".toList)).any fun found =>
      ((Request.line "normal Q".toList).notes 3 found.session).any (· matches .failed _)) = true := by
    decide +kernel
  obtain ⟨after, ran, silent⟩ := (Option.any_eq_true _ _).mp ends
  obtain ⟨found, asked, noted⟩ := (Option.any_eq_true _ _).mp fails
  have silent : after.failed = false := Bool.not_eq_true' _ |>.mp silent
  have comes : Comes 3 (ofText "abc".toList)
      [.line "nmap Q :nosuch<CR>".toList, .line "normal Q".toList] (.line "normal Q".toList) found :=
    ⟨[.line "nmap Q :nosuch<CR>".toList], [], rfl, asked⟩
  have fails : (Request.line "normal Q".toList).Fails 3 found.session := by
    obtain ⟨note, among, isFailed⟩ := List.any_eq_true.mp noted
    cases note with
    | cleared => cases isFailed
    | failed error => exact ⟨error, among⟩
  obtain ⟨told, _, lost⟩ := failed_iff ran
  have tellsOrLoses := (lost _ found comes fails).1
  refine ⟨after, found, ran, comes, fails, silent, tellsOrLoses.resolve_left fun tells => ?_⟩
  rw [told.mpr ⟨_, found, comes, tells⟩] at silent
  cases silent

end Batch

end ModalEdit

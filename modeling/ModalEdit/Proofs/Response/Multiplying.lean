import ModalEdit.Proofs.Response.Counts

/-!
Counts on both sides of an operator. Only their product counts: two editors that wait behind an operator
and differ in how the count is split answer every key alike, and are the same once the operator is
done with.
-/

set_option autoImplicit false

namespace ModalEdit

open Number (IsCount IsRun digitsOf runsCount?)
open RegisterPrefix (allDigits last?)

/-- Whether the key may go on with a count. -/
def Key.isDigit (key : Key) : Bool :=
  key.printable?.any Char.isDigit

/-- The command with its count in one piece, as if it had been typed behind the operator. -/
def Pending.joined (pending : Pending) : Pending :=
  { pending with count? := pending.effectiveCount?, operatorCount? := none }

namespace Editor

/-- The editor with the count of its command in one piece. -/
def joined (editor : Editor) : Editor :=
  editor.withPending editor.pending.joined

/-- What is answered to keys, one after the other. -/
def answers : Editor → List Key → List Step
  | _, [] => []
  | editor, key :: rest => (editor.press key).2 :: (editor.press key).1.answers rest

/-- The same answer in a mode from editors that differ in how the count is split. -/
inductive SameAnswer (mode : Mode) : Outcome → Outcome → Prop where
  | same (outcome : Outcome) : SameAnswer mode outcome outcome
  | rejected {first second : Editor} (alike : first.joined = second.joined) :
      SameAnswer mode first.reject second.reject
  | awaiting {first second : Editor} {awaited : Awaited} (alike : first.joined = second.joined)
      (stays : first.mode = mode) (other : awaited ≠ .command) :
      SameAnswer mode (first.await awaited) (second.await awaited)

variable {mode : Mode} {first second : Editor} {operator : Operator} {target : ReturnMode} {key : Key}

theorem SameAnswer.ofEq {outcome other : Outcome} (same : outcome = other) :
    SameAnswer mode outcome other :=
  same ▸ .same outcome

theorem countKey?_of_isDigit {editor : Editor} (digit : key.isDigit = false) :
    editor.countKey? key = none := by
  unfold countKey?
  unfold Key.isDigit at digit
  cases typed : key.printable? with
  | none => rfl
  | some c =>
    rw [typed] at digit
    exact if_neg fun both => Bool.false_ne_true (digit.symm.trans both.1)

section Alike

variable (alike : first.joined = second.joined)

include alike

theorem takePending_alike : first.takePending = second.takePending :=
  (congrArg takePending alike :)

theorem joined_stopWaiting : first.stopWaiting.joined = second.stopWaiting.joined :=
  congrArg stopWaiting alike

theorem awaited_alike : first.pending.awaited = second.pending.awaited :=
  congrArg (fun editor => editor.pending.awaited) alike

theorem mode_alike : first.mode = second.mode :=
  (congrArg mode alike :)

theorem go_alike (destination : Destination) (operator? : Option Operator) :
    first.go destination operator? = second.go destination operator? := by
  unfold go
  rw [takePending_alike alike]

theorem sameAnswer_findKey (key : Key) (forward till : Bool) (operator? : Option Operator) :
    SameAnswer first.mode (first.findKey key forward till operator?)
      (second.findKey key forward till operator?) := by
  unfold findKey
  cases key.target? with
  | none => exact .rejected alike
  | some char =>
    have found : joined { first with lastFind? := some ⟨char, forward, till⟩ } =
        joined { second with lastFind? := some ⟨char, forward, till⟩ } :=
      congrArg (fun editor : Editor => { editor with lastFind? := some ⟨char, forward, till⟩ }) alike
    exact .ofEq (go_alike found _ operator?)

theorem sameAnswer_markKey (key : Key) (linewise : Bool) (operator? : Option Operator) :
    SameAnswer first.mode (first.markKey key linewise operator?)
      (second.markKey key linewise operator?) := by
  have marks : first.mark? = second.mark? := (congrArg mark? alike :)
  have reported (message : String) :
      (first.report message).joined = (second.report message).joined :=
    congrArg (report · message) alike
  unfold markKey
  cases key.printable? with
  | none => exact .rejected alike
  | some name =>
    dsimp only
    rw [marks, go_alike alike]
    split
    · exact .rejected (reported _)
    · exact .same _

theorem sameAnswer_motionStart? (key : Key) (operator? : Option Operator) :
    Option.Rel (SameAnswer first.mode) (first.motionStart? key operator?)
      (second.motionStart? key operator?) := by
  have finds : first.lastFind? = second.lastFind? := (congrArg lastFind? alike :)
  have again (motion : Find → Motion) :
      SameAnswer first.mode
        (first.lastFind?.elim first.reject fun find => first.go (.motion (motion find)) operator?)
        (second.lastFind?.elim second.reject fun find =>
          second.go (.motion (motion find)) operator?) := by
    rw [finds]
    cases second.lastFind? with
    | none => exact .rejected alike
    | some find => exact .ofEq (go_alike alike _ operator?)
  unfold motionStart?
  split
  · exact .some (.awaiting alike rfl nofun)
  · exact .some (.awaiting alike rfl nofun)
  · exact .some (.awaiting alike rfl nofun)
  · exact .some (.awaiting alike rfl nofun)
  · exact .some (.awaiting alike rfl nofun)
  · exact .some (.awaiting alike rfl nofun)
  · exact .some (.awaiting alike rfl nofun)
  · exact .some (again .repeatFind)
  · exact .some (again fun find => .repeatFind find.reversed)
  · exact .none

theorem sameAnswer_operatorAfterG (operator : Operator) (key : Key) :
    SameAnswer first.mode (first.operatorAfterG operator key) (second.operatorAfterG operator key) := by
  unfold operatorAfterG
  extract_lets isCase
  clear_value isCase
  rw [takePending_alike alike, go_alike alike]
  dsimp only
  split
  · exact .same _
  · split
    · exact .same _
    · exact .rejected alike
  · exact .rejected alike

theorem sameAnswer_operatorKey (operator : Operator) (digit : key.isDigit = false) :
    SameAnswer first.mode (first.operatorKey operator key) (second.operatorKey operator key) := by
  have escaped : clearPending { first with mode := .normal } =
      clearPending { second with mode := .normal } :=
    (congrArg (fun editor : Editor => clearPending { editor with mode := .normal }) alike :)
  have starts := sameAnswer_motionStart? alike key (some operator)
  unfold operatorKey
  rw [countKey?_of_isDigit digit, countKey?_of_isDigit digit, takePending_alike alike,
    escaped]
  dsimp only [Option.getD_none]
  split
  · exact .same _
  · split
    · exact .same _
    · generalize first.motionStart? key (some operator) = start? at starts
      generalize second.motionStart? key (some operator) = other? at starts
      cases starts with
      | some same => exact same
      | none =>
        cases key.motion? with
        | none => exact .rejected alike
        | some motion => exact .ofEq (go_alike alike (.motion motion) (some operator))

/-- Behind an operator only digits tell how the count is split. -/
theorem sameAnswer_pressOperator (awaits : (Mode.operatorPending operator target).awaits
      first.pending.awaited = true)
    (digit : first.pending.awaited = .command → key.isDigit = false) :
    SameAnswer first.mode (first.pressOperator operator key) (second.pressOperator operator key) := by
  have stopped := joined_stopWaiting alike
  unfold pressOperator
  rw [← awaited_alike alike]
  cases awaited : first.pending.awaited with
  | command => exact sameAnswer_operatorKey stopped operator (digit awaited)
  | afterG => exact sameAnswer_operatorAfterG stopped operator key
  | findTarget forward till => exact sameAnswer_findKey stopped key forward till _
  | markToReach linewise => exact sameAnswer_markKey stopped key linewise _
  | _ =>
    rw [awaited] at awaits
    cases awaits

/-- A key behind an operator leads to the same editor, or another key is waited for. -/
theorem press_alike (waits : first.mode = .operatorPending operator target)
    (awaits : first.mode.awaits first.pending.awaited = true)
    (digit : first.pending.awaited = .command → key.isDigit = false) :
    first.press key = second.press key ∨
      ∃ (before other : Editor) (awaited : Awaited), before.joined = other.joined ∧
        before.mode = first.mode ∧ awaited ≠ .command ∧
        first.press key = before.await awaited ∧ second.press key = other.await awaited := by
  have answer : SameAnswer first.mode (first.pressInMode key) (second.pressInMode key) := by
    rw [pressInMode_operator key waits, pressInMode_operator key ((mode_alike alike).symm.trans waits)]
    exact sameAnswer_pressOperator alike (waits ▸ awaits) digit
  generalize firstPressed : first.pressInMode key = outcome at answer
  generalize secondPressed : second.pressInMode key = other at answer
  cases answer with
  | same =>
    refine Or.inl ?_
    unfold press
    rw [firstPressed, secondPressed]
  | rejected alike =>
    refine Or.inl ?_
    rw [press_of_reject firstPressed, press_of_reject secondPressed]
    exact (congrArg (fun editor : Editor => editor.dropCommand.settle.reject) alike :)
  | awaiting alike stays other =>
    exact Or.inr ⟨_, _, _, alike, stays, other, press_of_pending firstPressed,
      press_of_pending secondPressed⟩

end Alike

/-- Keys are answered the same however the count is split, unless the first of them goes on with it. By
induction on the keys: the editors are the same as soon as the operator has been applied or dropped. -/
theorem pressAll_alike {keys : List Key} (alike : first.joined = second.joined)
    (waits : first.mode = .operatorPending operator target) (orderly : first.Orderly)
    (digit : first.pending.awaited = .command → ∀ key ∈ keys.head?, key.isDigit = false) :
    first.answers keys = second.answers keys ∧
      (first.pressAll keys = second.pressAll keys ∨
        (first.pressAll keys).mode = .operatorPending operator target ∧
          (first.pressAll keys).joined = (second.pressAll keys).joined) := by
  induction keys generalizing first second with
  | nil => exact ⟨rfl, Or.inr ⟨waits, alike⟩⟩
  | cons key rest ih =>
    have next := first.orderly_press key orderly
    unfold answers
    rw [pressAll_cons, pressAll_cons]
    rcases press_alike alike waits orderly.awaits fun awaits => digit awaits key rfl with
      same | ⟨before, after, awaited, alike, stays, other, firstPress, secondPress⟩
    · rw [same]
      exact ⟨rfl, Or.inl rfl⟩
    · rw [firstPress] at next ⊢
      rw [secondPress]
      have awaiting : (before.await awaited).1.joined = (after.await awaited).1.joined :=
        (congrArg (fun editor : Editor => (editor.await awaited).1) alike :)
      obtain ⟨sameRest, ends⟩ := ih awaiting (stays.trans waits) next
        fun awaits => absurd awaits other
      exact ⟨congrArg (Step.pending :: ·) sameRest, ends⟩

variable {editor : Editor}

/-- The operators of a single key, and those behind `g`. -/
theorem keys_operator (operator : Operator) :
    operator.keys.toList = [operator.doublingKey] ∧
        (Key.ofChar operator.doublingKey).operator? = some operator ∨
      operator.keys.toList = ['g', operator.doublingKey] ∧
        ∀ editor : Editor, editor.normalAfterG (.ofChar operator.doublingKey) =
          editor.startOperator operator := by
  cases operator with
  | delete | change | yank | shiftRight | shiftLeft => exact Or.inl ⟨by decide, rfl⟩
  | toggleCase | lowercase | uppercase => exact Or.inr ⟨by decide, fun _ => rfl⟩

/-- A key that begins an operator is no digit and begins no motion. -/
theorem normalKey_operator (key : (Key.ofChar operator.doublingKey).operator? = some operator) :
    editor.normalKey (.ofChar operator.doublingKey) = editor.startOperator operator := by
  cases operator with
  | delete | change | yank | shiftRight | shiftLeft => rfl
  | toggleCase | lowercase | uppercase => cases key

/-- The keys of an operator in normal mode. What has been typed of the command is kept. -/
theorem takesIn_operator (operator : Operator) (normal : editor.mode = .normal)
    (awaits : editor.pending.awaited = .command) :
    editor.TakesIn (Key.typing operator.keys.toList) (editor.startOperator operator).1 := by
  have pressed (message? : Option String) (key : Key) :
      (editor.reporting message?).pressInMode key = (editor.reporting message?).normalKey key :=
    @pressInMode_normalKey (editor.reporting message?) awaits key normal
  rcases keys_operator operator with ⟨keys, key⟩ | ⟨keys, behindG⟩
  · have begun (message? : Option String) :
        (editor.reporting message?).press (.ofChar operator.doublingKey) =
          ((editor.startOperator operator).1.reporting message?, .pending) :=
      press_of_pending ((pressed message? _).trans (normalKey_operator key))
    rw [keys]
    exact .cons begun (.nil _)
  · let waiting := (editor.await .afterG).1
    have begun (message? : Option String) : (editor.reporting message?).press (.ofChar 'g') =
        (waiting.reporting message?, .pending) :=
      press_of_pending (pressed message? _)
    have ended (message? : Option String) :
        (waiting.reporting message?).press (.ofChar operator.doublingKey) =
          ((editor.startOperator operator).1.reporting message?, .pending) := by
      have rest : (waiting.reporting message?).stopWaiting = editor.reporting message? :=
        @stopWaiting_of_command (editor.reporting message?) awaits
      have waited : (waiting.reporting message?).pressInMode (.ofChar operator.doublingKey) =
          (waiting.reporting message?).stopWaiting.normalAfterG (.ofChar operator.doublingKey) :=
        pressInMode_normal _ normal
      apply press_of_pending
      rw [waited, rest]
      exact behindG _
    rw [keys]
    exact .cons begun (.cons ended (.nil _))

/-- The count does not matter to where a line starts. -/
theorem press_zero (waits : editor.mode = .operatorPending operator target)
    (awaits : editor.pending.awaited = .command) (fresh : editor.pending.count? = none) :
    editor.press (.ofChar '0') =
      (editor.withPending { editor.pending with operatorCount? := none }).press (.ofChar '0') := by
  have pressed (editor : Editor) (waits : editor.mode = .operatorPending operator target)
      (awaits : editor.pending.awaited = .command) (fresh : editor.pending.count? = none) :
      editor.pressInMode (.ofChar '0') =
        editor.clearPending.operate operator (.motion .lineStart) none editor.pending.register? := by
    have zero : editor.countKey? (.ofChar '0') = none := by
      refine if_neg fun both => ?_
      rw [fresh] at both
      exact both.2.elim (absurd rfl) nofun
    rw [pressInMode_operatorKey awaits _ waits]
    unfold operatorKey
    rw [if_neg (ofChar_ne_escape '0'), zero, Option.getD_none, if_neg]
    · rfl
    · cases operator <;> decide
  have uncounted := pressed
    (editor.withPending { editor.pending with operatorCount? := none }) waits awaits fresh
  unfold press
  rw [pressed editor waits awaits fresh, uncounted]
  rfl

/-- What has been typed in front of an operator, and behind it up to what it acts on. -/
theorem takesIn_operator_digits {digits : List Char} (operator : Operator)
    (normal : editor.mode = .normal) (awaits : editor.pending.awaited = .command)
    (run : IsRun digits) :
    editor.TakesIn (Key.typing (operator.keys.toList ++ digits))
      ((editor.startOperator operator).1.withPending
        { editor.pending.countBeforeOperator with count? := runsCount? [digits] }) := by
  have typed : (editor.startOperator operator).1.TakesIn (Key.typing digits) _ :=
    takesIn_digits rfl awaits run.digit (Or.inl run.nonzero)
  rw [Pending.pushDigits_fresh rfl] at typed
  unfold Key.typing at typed ⊢
  rw [List.map_append]
  exact (takesIn_operator operator normal awaits).append typed

/-- A key that completes a command or cannot be used leaves nothing of it, unless it begins a selection
for typed text. -/
theorem pending_press_of_takesMotions (orderly : editor.Orderly)
    (takes : editor.mode.takesMotions = true) (uses : editor.leavesCommand key = false)
    (answered : (editor.press key).2 ≠ .pending) : (editor.press key).1.pending = {} := by
  rw [editor.pending_press key orderly answered,
    editor.commandLeft_of_unburdened (Or.inl takes) uses, ite_self]

theorem orderly_pressAll (keys : List Key) (orderly : editor.Orderly) :
    (editor.pressAll keys).Orderly := by
  induction keys generalizing editor with
  | nil => exact orderly
  | cons key rest ih => exact ih (editor.orderly_press key orderly)

end Editor

/-- What is typed up to a motion or a command: registers with digits before them, more digits, and an
operator with digits behind it. -/
structure CommandPrefix where
  registers : List RegisterPrefix := []
  digits : List Char := []
  operator? : Option Operator := none
  behind : List Char := []

namespace CommandPrefix

variable (command : CommandPrefix)

/-- All digits in front of the operator or the command. -/
def front : List Char :=
  allDigits command.registers command.digits

/-- The count that is meant: the number in front of the operator times the one behind it. -/
def count? : Option Nat :=
  runsCount? [command.front, command.behind]

def operatorKeys : List Char :=
  command.operator?.elim [] (·.keys.toList)

/-- What is typed. -/
def chars : List Char :=
  RegisterPrefix.typed command.registers command.digits ++ (command.operatorKeys ++ command.behind)

/-- The same with a single count, or with none, right before the motion or the command. -/
def counted (count? : Option Nat) : CommandPrefix :=
  { command with
    registers := command.registers.map RegisterPrefix.bare
    digits := if command.operator? = none then digitsOf count? else []
    behind := if command.operator? = none then [] else digitsOf count? }

/-- Whether this can be typed in a mode: registers are named, and no run of digits begins with zero.
Operators belong to normal mode. -/
structure Typable (mode : Mode) : Prop where
  takes : mode.takesCommands = true
  names : ∀ register ∈ command.registers, isRegisterName register.name = true
  front : IsRun command.front
  behind : IsRun command.behind
  alone : command.operator? = none → command.behind = []
  normal : command.operator? ≠ none → mode = .normal

theorem Typable.isCount {mode : Mode} {command : CommandPrefix} (typable : command.Typable mode) :
    IsCount command.count? := by
  unfold count?
  rw [← Pending.mergeCounts_runs typable.front typable.behind]
  exact Pending.isCount_mergeCounts typable.front.isCount typable.behind.isCount

variable {count? : Option Nat}

theorem front_counted : (command.counted count?).front =
    if command.operator? = none then digitsOf count? else [] :=
  RegisterPrefix.allDigits_bare ..

/-- A single count can be typed where the runs of digits can. -/
theorem Typable.counted {mode : Mode} {command : CommandPrefix} (typable : command.Typable mode)
    (counts : IsCount count?) : (command.counted count?).Typable mode := by
  have run := Number.isRun_digitsOf counts
  have none : IsRun [] := ⟨nofun, nofun⟩
  refine ⟨typable.takes, ?_, ?_, ?_, fun alone => if_pos alone, typable.normal⟩
  · intro bare member
    obtain ⟨register, named, rfl⟩ := List.mem_map.mp member
    exact typable.names register named
  · rw [front_counted]
    split <;> assumption
  · unfold CommandPrefix.counted
    dsimp only
    split <;> assumption

end CommandPrefix

namespace Editor

variable {editor : Editor} {command : CommandPrefix}

/-- What stands in front of an operator or a command leaves its count and its register. -/
theorem takesIn_front (clear : editor.pending = {}) (typable : command.Typable editor.mode) :
    editor.TakesIn (Key.typing (RegisterPrefix.typed command.registers command.digits))
      (editor.withPending
        { count? := runsCount? [command.front], register? := last? command.registers }) := by
  have awaits : editor.pending.awaited = .command := congrArg Pending.awaited clear
  have typed := takesIn_registers typable.takes awaits typable.names typable.front.digit
    (Or.inl typable.front.nonzero)
  rw [clear, Pending.pushDigits_fresh rfl] at typed
  unfold Pending.choose at typed
  rw [Option.orElse_eq_orElse, Option.orElse_eq_or, Option.or_none] at typed
  exact typed

/-- What has been typed up to a motion or a command. -/
theorem pressAll_commandPrefix (clear : editor.pending = {}) (typable : command.Typable editor.mode) :
    let front := editor.withPending
      { count? := runsCount? [command.front], register? := last? command.registers }
    editor.pressAll (Key.typing command.chars) =
      match command.operator? with
      | none => front
      | some operator =>
        { front with
          mode := .operatorPending operator .normal
          pending :=
            { operatorCount? := runsCount? [command.front], count? := runsCount? [command.behind]
              register? := last? command.registers } } := by
  intro front
  have typed : editor.pressAll
      (Key.typing (RegisterPrefix.typed command.registers command.digits)) = front :=
    (takesIn_front clear typable).pressAll editor.message?
  unfold CommandPrefix.chars CommandPrefix.operatorKeys
  rw [pressAll_typing_append, typed]
  cases operated : command.operator? with
  | none =>
    rw [typable.alone operated]
    rfl
  | some operator =>
    have normal : front.mode = .normal := typable.normal (operated ▸ nofun)
    exact (takesIn_operator_digits operator normal rfl typable.behind).pressAll editor.message?

/-- What has been typed up to a motion or a command with a single count. -/
theorem pressAll_counted {count? : Option Nat} (clear : editor.pending = {})
    (typable : command.Typable editor.mode) (counts : IsCount count?) :
    editor.pressAll (Key.typing (command.counted count?).chars) =
      match command.operator? with
      | none => editor.withPending { count?, register? := last? command.registers }
      | some operator =>
        { editor with
          mode := .operatorPending operator .normal
          pending := { count?, register? := last? command.registers } } := by
  have digits := Number.runsCount?_digitsOf counts
  have named : last? (command.counted count?).registers = last? command.registers :=
    RegisterPrefix.last?_bare _
  rw [pressAll_commandPrefix clear (typable.counted counts), CommandPrefix.front_counted, named]
  unfold CommandPrefix.counted
  dsimp only
  cases command.operator? with
  | none =>
    dsimp only
    rw [if_pos rfl, digits]
  | some operator =>
    dsimp only
    rw [if_neg nofun, if_neg nofun, digits]
    rfl

/-- All digits in front of a command are digits of one count, whatever registers are named between
them. The count behind an operator multiplies it, and nothing but the product counts. -/
theorem counts_multiply (clear : editor.pending = {}) (typable : command.Typable editor.mode) :
    let split := editor.pressAll (Key.typing command.chars)
    let single := editor.pressAll (Key.typing (command.counted command.count?).chars)
    let bare := editor.pressAll (Key.typing (command.counted none).chars)
    split.pending.effectiveCount? = command.count? ∧
      split.pending.register? = last? command.registers ∧
      (command.operator? = none → split = single) ∧
      (∀ operator, command.operator? = some operator →
        (∀ keys : List Key, (∀ key ∈ keys.head?, key.isDigit = false) →
          split.answers keys = single.answers keys ∧
            (split.pressAll keys = single.pressAll keys ∨
              (split.pressAll keys).mode = .operatorPending operator .normal ∧
                (split.pressAll keys).joined = (single.pressAll keys).joined)) ∧
        (command.behind = [] → split.press (.ofChar '0') = bare.press (.ofChar '0'))) ∧
      ∀ keys key, let before := split.pressAll keys
        before.mode.takesMotions = true → before.leavesCommand key = false →
          (before.press key).2 ≠ .pending → (before.press key).1.pending = {} := by
  intro split single bare
  have product : Pending.mergeCounts (runsCount? [command.front]) (runsCount? [command.behind]) =
      command.count? := Pending.mergeCounts_runs typable.front typable.behind
  have splitEq : split = _ := pressAll_commandPrefix clear typable
  have singleEq : single = _ := pressAll_counted clear typable typable.isCount
  have bareEq : bare = _ := pressAll_counted clear typable nofun
  have orderly : editor.Orderly := orderly_of_pending clear
  have once (keys : List Key) (key : Key) (takes : (split.pressAll keys).mode.takesMotions = true)
      (uses : (split.pressAll keys).leavesCommand key = false)
      (answered : ((split.pressAll keys).press key).2 ≠ .pending) :
      ((split.pressAll keys).press key).1.pending = {} :=
    pending_press_of_takesMotions (orderly_pressAll keys (orderly_pressAll _ orderly)) takes uses
      answered
  have splitOrderly : split.Orderly := orderly_pressAll _ orderly
  clear_value split single bare
  cases operated : command.operator? with
  | none =>
    rw [operated] at splitEq singleEq
    have front : runsCount? [command.front] = command.count? := by
      rw [← product, typable.alone operated]
      cases runsCount? [command.front] <;> rfl
    rw [front] at splitEq
    refine ⟨?_, ?_, fun _ => splitEq.trans singleEq.symm, nofun, once⟩
    · rw [splitEq]
      rfl
    · rw [splitEq]
      rfl
  | some operator =>
    rw [operated] at splitEq singleEq bareEq
    have joined : split.joined = single.joined := by
      rw [splitEq, singleEq, ← product]
      rfl
    have waits : split.mode = .operatorPending operator .normal := by rw [splitEq]
    refine ⟨?_, ?_, nofun, ?_, once⟩
    · rw [splitEq]
      exact product
    · rw [splitEq]
    · rintro _ ⟨⟩
      refine ⟨fun keys other => pressAll_alike joined waits splitOrderly fun _ => other, ?_⟩
      intro fresh
      have uncounted : split.withPending { split.pending with operatorCount? := none } = bare := by
        rw [splitEq, bareEq, fresh]
        rfl
      rw [press_zero waits (by rw [splitEq]) (by rw [splitEq, fresh]; rfl), uncounted]

/-- The digits on both sides of a register name make up 23, and the two behind the operator makes that
46 words. -/
theorem counts_multiply_delete :
    let editor : Editor := { window := { text := ['a', ' ', 'b', ' ', 'c'] } }
    editor.pressAll (Key.typing ['2', '"', 'a', '3', 'd', '2', 'w']) =
      editor.pressAll (Key.typing ['"', 'a', 'd', '4', '6', 'w']) := by
  intro editor
  let command : CommandPrefix :=
    { registers := [⟨['2'], 'a'⟩], digits := ['3'], operator? := some .delete, behind := ['2'] }
  have typable : command.Typable editor.mode :=
    ⟨rfl, by decide, by decide, by decide, nofun, fun _ => rfl⟩
  have split : command.chars = ['2', '"', 'a', '3', 'd', '2'] := by decide +kernel
  have single : (command.counted command.count?).chars = ['"', 'a', 'd', '4', '6'] := by
    decide +kernel
  obtain ⟨-, -, -, operated, -⟩ := counts_multiply (show editor.pending = {} from rfl) typable
  obtain ⟨-, same | ⟨waits, -⟩⟩ := (operated .delete rfl).1 [.ofChar 'w'] (by decide)
  · rw [split, single, ← pressAll_append, ← pressAll_append] at same
    exact same
  · have normal : ((editor.pressAll (Key.typing command.chars)).pressAll [.ofChar 'w']).mode =
        .normal := by decide +kernel
    cases normal.symm.trans waits

end Editor

end ModalEdit

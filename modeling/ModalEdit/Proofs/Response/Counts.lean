import ModalEdit.Proofs.Number.Digits
import ModalEdit.Proofs.Response.Press
import ModalEdit.Proofs.Session.Calls

/-!
What stands in front of a command: the digits of its count, and the names of registers. Names change
nothing of the count, so digits on either side of a name are digits of one number.
-/

set_option autoImplicit false

namespace ModalEdit

open Number (IsCount IsRun countOfDigits decimalValue runsCount? saturate)

/-- The keys that type characters. -/
def Key.typing (chars : List Char) : List Key :=
  chars.map Key.ofChar

/-- The name of a register in front of a command, and the digits typed before it. -/
structure RegisterPrefix where
  digits : List Char := []
  name : Char
deriving DecidableEq

namespace RegisterPrefix

def chars (register : RegisterPrefix) : List Char :=
  register.digits ++ ['"', register.name]

/-- The same name without digits. -/
def bare (register : RegisterPrefix) : RegisterPrefix :=
  { register with digits := [] }

/-- What is typed in front of a command: names of registers with digits before them, and the digits
behind the last name. -/
def typed (registers : List RegisterPrefix) (digits : List Char) : List Char :=
  registers.flatMap chars ++ digits

/-- All digits in front of a command, without the names between them. -/
def allDigits (registers : List RegisterPrefix) (digits : List Char) : List Char :=
  registers.flatMap RegisterPrefix.digits ++ digits

/-- The register that is used: the one named last. -/
def last? (registers : List RegisterPrefix) : Option Char :=
  registers.getLast?.map name

theorem allDigits_bare (registers : List RegisterPrefix) (digits : List Char) :
    allDigits (registers.map bare) digits = digits := by
  induction registers with
  | nil => rfl
  | cons register rest ih => exact ih

theorem last?_bare (registers : List RegisterPrefix) :
    last? (registers.map bare) = last? registers := by
  unfold last?
  rw [List.getLast?_map, Option.map_map]
  rfl

end RegisterPrefix

open RegisterPrefix (allDigits last?)

namespace Pending

/-- The command with more digits of its count. -/
def pushDigits (pending : Pending) (digits : List Char) : Pending :=
  digits.foldl (fun pending digit => pending.pushDigit (decimalValue digit)) pending

/-- The command with another register, if one is given. -/
def choose (pending : Pending) (register? : Option Char) : Pending :=
  { pending with register? := register? <|> pending.register? }

/-- Whether digits can go on with the count. Only the first of them must not be zero. -/
def GoesOn (pending : Pending) (digits : List Char) : Prop :=
  digits.head? ≠ some '0' ∨ pending.count?.isSome = true

/-- Digits change nothing but the count, and go on with what has been typed of it. -/
theorem pushDigits_eq (pending : Pending) (digits : List Char) :
    pending.pushDigits digits =
      { pending with
        count? := if digits = [] then pending.count? else
          some (digits.foldl (fun total digit => saturate (total * 10 + decimalValue digit))
            (pending.count?.getD 0)) } := by
  induction digits generalizing pending with
  | nil => rfl
  | cons digit rest ih =>
    unfold pushDigits at ih ⊢
    rw [List.foldl_cons, ih, if_neg (List.cons_ne_nil _ _), List.foldl_cons]
    cases rest with
    | nil => rfl
    | cons next rest => rfl

/-- The digits of a count that nothing has been typed of yet. -/
theorem pushDigits_fresh {pending : Pending} (fresh : pending.count? = none) (digits : List Char) :
    pending.pushDigits digits = { pending with count? := runsCount? [digits] } := by
  rw [pushDigits_eq, fresh, Number.runsCount?_single]
  rfl

theorem pushDigits_append (pending : Pending) (first second : List Char) :
    pending.pushDigits (first ++ second) = (pending.pushDigits first).pushDigits second :=
  List.foldl_append

theorem pushDigits_choose (pending : Pending) (register? : Option Char) (digits : List Char) :
    (pending.choose register?).pushDigits digits = (pending.pushDigits digits).choose register? := by
  rw [pushDigits_eq, pushDigits_eq]
  rfl

theorem choose_choose (pending : Pending) (first second : Option Char) :
    (pending.choose first).choose second = pending.choose (second <|> first) := by
  unfold choose
  cases second <;> rfl

theorem awaited_pushDigits (pending : Pending) (digits : List Char) :
    (pending.pushDigits digits).awaited = pending.awaited := by
  rw [pushDigits_eq]

theorem isSome_pushDigits {pending : Pending} {digits : List Char} (typed : digits ≠ []) :
    (pending.pushDigits digits).count?.isSome = true := by
  rw [pushDigits_eq]
  exact congrArg Option.isSome (if_neg typed)

theorem GoesOn.append_left {pending : Pending} {first second : List Char}
    (goesOn : pending.GoesOn (first ++ second)) : pending.GoesOn first := by
  refine goesOn.imp_left fun other zero => other ?_
  rw [List.head?_append, zero]
  rfl

theorem GoesOn.append_right {pending : Pending} {first second : List Char}
    (goesOn : pending.GoesOn (first ++ second)) : (pending.pushDigits first).GoesOn second := by
  by_cases typed : first = []
  · subst typed
    exact goesOn
  · exact Or.inr (isSome_pushDigits typed)

/-- The product of the counts on both sides of an operator. -/
theorem mergeCounts_runs {front behind : List Char} (first : IsRun front) (second : IsRun behind) :
    mergeCounts (runsCount? [front]) (runsCount? [behind]) = runsCount? [front, behind] := by
  rw [Number.runsCount?_single, Number.runsCount?_single]
  unfold runsCount?
  by_cases frontEmpty : front = [] <;> by_cases behindEmpty : behind = []
  · simp [frontEmpty, behindEmpty, mergeCounts]
  · simp [frontEmpty, behindEmpty, mergeCounts, Number.countOfDigits_eq]
  · simp [frontEmpty, behindEmpty, mergeCounts, Number.countOfDigits_eq]
  · have product := Number.saturate_mul_saturate (first.pos frontEmpty) (second.pos behindEmpty)
    simp [frontEmpty, behindEmpty, mergeCounts, Number.countOfDigits_eq, product]

theorem isCount_mergeCounts {first second : Option Nat} (frontCounts : IsCount first)
    (behindCounts : IsCount second) : IsCount (mergeCounts first second) := by
  cases first with
  | none => exact behindCounts
  | some front =>
    cases second with
    | none => exact frontCounts
    | some behind =>
      rintro count ⟨⟩
      have positive := Nat.mul_pos (frontCounts front rfl).1 (behindCounts behind rfl).1
      exact ⟨Number.saturate_pos positive, Number.saturate_le _⟩

end Pending

namespace Editor

/-- The editor with another command being typed. -/
def withPending (editor : Editor) (pending : Pending) : Editor :=
  { editor with pending }

/-- The editor with something else to report, or nothing. -/
def reporting (editor : Editor) (message? : Option String) : Editor :=
  { editor with message? }

/-- Keys that are only taken in: each of them is answered by waiting for more and reports nothing,
whatever is left to report. -/
inductive TakesIn : Editor → List Key → Editor → Prop where
  | nil (editor : Editor) : TakesIn editor [] editor
  | cons {before middle after : Editor} {key : Key} {rest : List Key}
      (pressed : ∀ message?, (before.reporting message?).press key =
        (middle.reporting message?, .pending))
      (takes : TakesIn middle rest after) : TakesIn before (key :: rest) after

variable {editor before middle after : Editor} {digits : List Char} {keys rest : List Key}

theorem TakesIn.append (first : before.TakesIn keys middle) (second : middle.TakesIn rest after) :
    before.TakesIn (keys ++ rest) after := by
  induction first with
  | nil => exact second
  | cons pressed _ ih => exact .cons pressed (ih second)

theorem TakesIn.pressAll (takes : before.TakesIn keys after) (message? : Option String) :
    (before.reporting message?).pressAll keys = after.reporting message? := by
  induction takes with
  | nil => rfl
  | cons pressed _ ih =>
    unfold Editor.pressAll at ih ⊢
    rw [List.foldl_cons, pressed, ih]

@[simp]
theorem pending_withPending (pending : Pending) : (editor.withPending pending).pending = pending :=
  rfl

@[simp]
theorem mode_withPending (pending : Pending) : (editor.withPending pending).mode = editor.mode :=
  rfl

@[simp]
theorem withPending_withPending (first second : Pending) :
    (editor.withPending first).withPending second = editor.withPending second :=
  rfl

theorem pressAll_cons (editor : Editor) (key : Key) (rest : List Key) :
    editor.pressAll (key :: rest) = (editor.press key).1.pressAll rest :=
  rfl

theorem pressAll_append (editor : Editor) (first second : List Key) :
    editor.pressAll (first ++ second) = (editor.pressAll first).pressAll second :=
  List.foldl_append

theorem pressAll_typing_append (editor : Editor) (first second : List Char) :
    editor.pressAll (Key.typing (first ++ second)) =
      (editor.pressAll (Key.typing first)).pressAll (Key.typing second) := by
  unfold Key.typing
  rw [List.map_append, pressAll_append]

theorem stopWaiting_of_command (awaits : editor.pending.awaited = .command) :
    editor.stopWaiting = editor := by
  unfold stopWaiting
  rw [← awaits]

section

variable (awaits : editor.pending.awaited = .command) (key : Key)

include awaits

/-- A key that no other key waits for begins a command, or is one. -/
theorem pressInMode_normalKey (normal : editor.mode = .normal) :
    editor.pressInMode key = editor.normalKey key := by
  rw [pressInMode_normal key normal]
  unfold pressNormal
  rw [awaits, stopWaiting_of_command awaits]

theorem pressInMode_visualKey {kind : SelectionKind} {target : ReturnMode}
    (visual : editor.mode = .visual kind target) :
    editor.pressInMode key = editor.visualKey kind target key := by
  rw [pressInMode_visual key visual]
  unfold pressVisual
  rw [awaits, stopWaiting_of_command awaits]

theorem pressInMode_operatorKey {operator : Operator} {target : ReturnMode}
    (waits : editor.mode = .operatorPending operator target) :
    editor.pressInMode key = editor.operatorKey operator key := by
  rw [pressInMode_operator key waits]
  unfold pressOperator
  rw [awaits, stopWaiting_of_command awaits]

end

theorem ofChar_ne_escape (c : Char) : Key.ofChar c ≠ .escape :=
  fun same => nomatch congrArg Key.code same

theorem isCtrl_ofChar (c other : Char) : (Key.ofChar c).isCtrl other = false :=
  rfl

theorem press_digit {digit : Char} (takes : editor.mode.takesMotions = true)
    (awaits : editor.pending.awaited = .command) (isDigit : digit.isDigit = true)
    (goesOn : editor.pending.GoesOn [digit]) :
    editor.press (.ofChar digit) =
      (editor.withPending (editor.pending.pushDigit (decimalValue digit)), .pending) := by
  have plain := ofChar_ne_escape digit
  have counted : editor.countKey? (.ofChar digit) =
      some (editor.withPending (editor.pending.pushDigit (decimalValue digit)), .pending) :=
    if_pos ⟨isDigit, goesOn.imp_left fun other zero => other (congrArg some zero)⟩
  apply press_of_pending
  rcases Mode.takesMotions_cases takes with normal | ⟨kind, target, visual⟩ | ⟨operator, target, waits⟩
  · rw [pressInMode_normalKey awaits _ normal]
    unfold normalKey
    rw [if_neg plain, counted]
    rfl
  · rw [pressInMode_visualKey awaits _ visual]
    unfold visualKey
    rw [if_neg (not_or.mpr ⟨plain, nofun⟩), counted]
    rfl
  · rw [pressInMode_operatorKey awaits _ waits]
    unfold operatorKey
    rw [if_neg plain, counted]
    rfl

/-- The digits of a count, or more digits of one. -/
theorem takesIn_digits (takes : editor.mode.takesMotions = true)
    (awaits : editor.pending.awaited = .command) (isDigit : ∀ digit ∈ digits, digit.isDigit = true)
    (goesOn : editor.pending.GoesOn digits) :
    editor.TakesIn (Key.typing digits) (editor.withPending (editor.pending.pushDigits digits)) := by
  induction digits generalizing editor with
  | nil => exact .nil editor
  | cons digit rest ih =>
    have starts : editor.pending.GoesOn ([digit] ++ rest) := goesOn
    have others : (editor.withPending (editor.pending.pushDigits [digit])).TakesIn
        (Key.typing rest) _ :=
      ih takes awaits (fun other member => isDigit other (List.mem_cons_of_mem digit member))
        (Or.inr rfl)
    have pressed (message? : Option String) : (editor.reporting message?).press (.ofChar digit) =
        ((editor.withPending (editor.pending.pushDigits [digit])).reporting message?, .pending) :=
      @press_digit (editor.reporting message?) digit takes awaits (isDigit digit List.mem_cons_self)
        starts.append_left
    exact .cons pressed others

theorem press_quote (takes : editor.mode.takesCommands = true)
    (awaits : editor.pending.awaited = .command) :
    editor.press (.ofChar '"') = editor.await .registerName := by
  apply press_of_pending
  rcases Mode.takesCommands_cases takes with normal | ⟨kind, target, visual⟩
  · exact pressInMode_normalKey awaits _ normal
  · exact pressInMode_visualKey awaits _ visual

theorem press_registerName {name : Char} (takes : editor.mode.takesCommands = true)
    (awaits : editor.pending.awaited = .registerName) (names : isRegisterName name = true) :
    editor.press (.ofChar name) =
      (editor.stopWaiting.withPending (editor.stopWaiting.pending.choose (some name)), .pending) := by
  have taken : editor.stopWaiting.registerKey (.ofChar name) =
      (editor.stopWaiting.withPending (editor.stopWaiting.pending.choose (some name)), .pending) :=
    if_pos names
  apply press_of_pending
  rcases Mode.takesCommands_cases takes with normal | ⟨kind, target, visual⟩
  · rw [pressInMode_normal _ normal]
    unfold pressNormal
    rw [awaits]
    exact taken
  · rw [pressInMode_visual _ visual]
    unfold pressVisual
    rw [awaits]
    exact taken

theorem takesIn_register {name : Char} (takes : editor.mode.takesCommands = true)
    (awaits : editor.pending.awaited = .command) (names : isRegisterName name = true) :
    editor.TakesIn (Key.typing ['"', name])
      (editor.withPending (editor.pending.choose (some name))) := by
  let waiting := (editor.await .registerName).1
  have rest : waiting.stopWaiting = editor := stopWaiting_of_command awaits
  have quoted (message? : Option String) : (editor.reporting message?).press (.ofChar '"') =
      (waiting.reporting message?, .pending) :=
    @press_quote (editor.reporting message?) takes awaits
  have named (message? : Option String) : (waiting.reporting message?).press (.ofChar name) =
      ((waiting.stopWaiting.withPending
        (waiting.stopWaiting.pending.choose (some name))).reporting message?, .pending) :=
    @press_registerName (waiting.reporting message?) name takes rfl names
  rw [rest] at named
  exact .cons quoted (.cons named (.nil _))

/-- What is typed in front of a command leaves the number of all its digits and the name of the last
register. By induction on the names. -/
theorem takesIn_registers {registers : List RegisterPrefix} (takes : editor.mode.takesCommands = true)
    (awaits : editor.pending.awaited = .command)
    (names : ∀ register ∈ registers, isRegisterName register.name = true)
    (isDigit : ∀ digit ∈ allDigits registers digits, digit.isDigit = true)
    (goesOn : editor.pending.GoesOn (allDigits registers digits)) :
    editor.TakesIn (Key.typing (RegisterPrefix.typed registers digits))
      (editor.withPending
        ((editor.pending.pushDigits (allDigits registers digits)).choose (last? registers))) := by
  have motions := Mode.takesMotions_of_takesCommands takes
  induction registers generalizing editor with
  | nil => exact takesIn_digits motions awaits isDigit goesOn
  | cons register rest ih =>
    have typed : RegisterPrefix.typed (register :: rest) digits =
        register.digits ++ (['"', register.name] ++ RegisterPrefix.typed rest digits) := by
      simp only [RegisterPrefix.typed, RegisterPrefix.chars, List.flatMap_cons, List.append_assoc]
    have split : allDigits (register :: rest) digits = register.digits ++ allDigits rest digits :=
      List.append_assoc ..
    have last : last? (register :: rest) = (last? rest <|> some register.name) := by
      unfold last?
      rw [List.getLast?_cons]
      cases rest.getLast? <;> rfl
    rw [split] at isDigit goesOn ⊢
    have front : (editor.pending.pushDigits register.digits).awaited = .command :=
      (Pending.awaited_pushDigits _ _).trans awaits
    have digitsTyped : editor.TakesIn (Key.typing register.digits)
        (editor.withPending (editor.pending.pushDigits register.digits)) :=
      takesIn_digits motions awaits
        (fun digit member => isDigit digit (List.mem_append_left _ member)) goesOn.append_left
    have named : (editor.withPending (editor.pending.pushDigits register.digits)).TakesIn
        (Key.typing ['"', register.name]) _ :=
      takesIn_register takes front (names register List.mem_cons_self)
    have others : (editor.withPending ((editor.pending.pushDigits register.digits).choose
        (some register.name))).TakesIn (Key.typing (RegisterPrefix.typed rest digits)) _ :=
      ih takes front (fun other member => names other (List.mem_cons_of_mem register member))
        (fun digit member => isDigit digit (List.mem_append_right _ member)) goesOn.append_right
        motions
    have typedAll := digitsTyped.append (named.append others)
    have joined : ((editor.pending.pushDigits register.digits).choose (some register.name)).pushDigits
          (allDigits rest digits) =
        (editor.pending.pushDigits (register.digits ++ allDigits rest digits)).choose
          (some register.name) := by
      rw [Pending.pushDigits_choose, ← Pending.pushDigits_append]
    rw [pending_withPending, withPending_withPending, joined, Pending.choose_choose, ← last]
      at typedAll
    unfold Key.typing at typedAll ⊢
    rw [typed, List.map_append, List.map_append]
    exact typedAll

end Editor

end ModalEdit

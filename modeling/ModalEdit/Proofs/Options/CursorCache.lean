import ModalEdit.Proofs.Options.Admitted

/-!
The look of the cursor is worked out once for each mode and kept. What is kept is always what the stored
entries give, so nobody can tell that anything is kept.
-/

set_option autoImplicit false

namespace ModalEdit

/-- The entries that describe the cursor are those of one option. -/
theorem OptionDefinition.grammar_of_hasName {definition : OptionDefinition}
    (declared : definition ∈ all) (named : definition.hasName "guicursor" = true) :
    definition.grammar = .guiCursor := by
  have only : ∀ definition ∈ all, definition.hasName "guicursor" = true →
      definition.grammar = .guiCursor := by decide
  exact only definition declared named

namespace Options

variable {options other : Options} {scope : Scope} {slot : OptionSlot} {value : OptionValue}
  {name : String}

theorem cursorEntries_congr (same : options.value? "guicursor" = other.value? "guicursor") :
    options.cursorEntries = other.cursorEntries := by
  unfold cursorEntries
  rw [same]

/-- The options that there are, and only such looks kept as the stored entries give. -/
structure Fresh (options : Options) : Prop where
  definitions : options.slots.map (·.definition) = OptionDefinition.all
  looks : ∀ mode look, options.cursorCache.lookup mode = some look →
    look = CursorLook.ofEntries options.cursorEntries mode

theorem fresh_default : ({} : Options).Fresh :=
  ⟨admitted_fresh.definitions, nofun⟩

/-- Looks are dropped with the entries they come from. A write that changes nothing leaves both, and
other options have no part in them. -/
theorem Fresh.write (fresh : options.Fresh) (member : slot ∈ options.slots) :
    (options.write scope slot value).Fresh := by
  refine ⟨definitions_write.trans fresh.definitions, ?_⟩
  intro mode look isKept
  by_cases unchanged : slot.read scope = value
  · subst unchanged
    have kept : (options.write scope slot (slot.read scope)).cursorCache = options.cursorCache := by
      unfold Options.write
      dsimp only
      rw [if_pos rfl]
    rw [kept] at isKept
    rw [cursorEntries_congr (value?_write_self fresh.definitions member)]
    exact fresh.looks mode look isKept
  · have kept : (options.write scope slot value).cursorCache =
        if slot.definition.grammar = .guiCursor then [] else options.cursorCache := by
      unfold Options.write
      dsimp only
      rw [if_neg unchanged]
    rw [kept] at isKept
    split at isKept
    · cases isKept
    · rename_i otherGrammar
      have unnamed : ¬ slot.definition.hasName "guicursor" = true := fun named =>
        otherGrammar (OptionDefinition.grammar_of_hasName
          (declared_of_mem fresh.definitions member) named)
      have entries : (options.write scope slot value).cursorEntries = options.cursorEntries := by
        apply cursorEntries_congr
        rw [value?_write fresh.definitions member, if_neg unnamed]
      rw [entries]
      exact fresh.looks mode look isKept

theorem Fresh.cursorLook (fresh : options.Fresh) (mode : CursorMode) :
    (options.cursorLook mode).1 = CursorLook.ofEntries options.cursorEntries mode ∧
      (options.cursorLook mode).2.Fresh := by
  unfold Options.cursorLook
  split
  · rename_i look isKept
    exact ⟨fresh.looks mode look isKept, fresh⟩
  · refine ⟨rfl, fresh.definitions, ?_⟩
    intro wanted look isKept
    dsimp only at isKept
    rw [List.lookup_cons] at isKept
    split at isKept
    · rename_i same
      cases isKept
      rw [eq_of_beq same]
      rfl
    · exact fresh.looks wanted look isKept

/-- The options with other looks kept. -/
def keeping (options : Options) (cache : List (CursorMode × CursorLook)) : Options :=
  { options with cursorCache := cache }

/-- A call that writes one option in a scope, or none, and does not depend on the looks kept. -/
def WritesOne {α : Type} (scope : Scope) (options : Options) (call : Options → Options × α) : Prop :=
  ∃ result, (∀ cache, call (options.keeping cache) = (options.keeping cache, result)) ∨
    ∃ slot ∈ options.slots, ∃ value, ∀ cache,
      call (options.keeping cache) = ((options.keeping cache).write scope slot value, result)

theorem writesOne_assign (assignment : OptionAssignment) (text : String) :
    options.WritesOne scope (·.assign scope name assignment text) := by
  have sameFound (cache) : (options.keeping cache).find name = options.find name := rfl
  unfold WritesOne Options.assign
  simp only [sameFound]
  cases found : options.find name with
  | error error => exact ⟨_, Or.inl fun _ => rfl⟩
  | ok slot =>
    have member := (mem_of_find found).1
    dsimp only
    cases slot.definition.kind with
    | bool => exact ⟨_, Or.inl fun _ => rfl⟩
    | number =>
      dsimp only
      cases Number.parseInteger? (Text.trim text.toList) with
      | none => exact ⟨_, Or.inl fun _ => rfl⟩
      | some operand =>
        dsimp only
        cases slot.definition.checkNumber
            (combineNumbers assignment ((slot.read scope).number?.getD 0) operand) with
        | error error => exact ⟨_, Or.inl fun _ => rfl⟩
        | ok checked => exact ⟨_, Or.inr ⟨slot, member, _, fun _ => rfl⟩⟩
    | string =>
      dsimp only
      cases slot.definition.grammar with
      | any | guiCursor => exact ⟨_, Or.inr ⟨slot, member, _, fun _ => rfl⟩⟩
      | oneOf words =>
        dsimp only
        by_cases isWord : words.contains (combineTexts assignment (slot.read scope).text text) = true
        · simp only [if_pos isWord]
          exact ⟨_, Or.inr ⟨slot, member, _, fun _ => rfl⟩⟩
        · simp only [if_neg isWord]
          exact ⟨_, Or.inl fun _ => rfl⟩
    | list =>
      dsimp only
      cases slot.read scope with
      | bool | number | string => exact ⟨_, Or.inl fun _ => rfl⟩
      | list old =>
        dsimp only
        cases (slot.definition.parseList text).2 with
        | none | some => exact ⟨_, Or.inr ⟨slot, member, _, fun _ => rfl⟩⟩

theorem writesOne_set (value : OptionValue) : options.WritesOne scope (·.set scope name value) := by
  have sameFound (cache) : (options.keeping cache).find name = options.find name := rfl
  have assigned (text : String) : options.WritesOne scope (·.assign scope name .set text) :=
    writesOne_assign .set text
  unfold WritesOne at assigned ⊢
  unfold Options.set
  simp only [sameFound]
  cases found : options.find name with
  | error error => exact ⟨_, Or.inl fun _ => rfl⟩
  | ok slot =>
    have member := (mem_of_find found).1
    dsimp only
    cases slot.definition.kind <;> cases value
    case string.string text => exact assigned text
    case list.string text => exact assigned text
    case number.number value =>
      dsimp only
      cases slot.definition.checkNumber value with
      | error error => exact ⟨_, Or.inl fun _ => rfl⟩
      | ok checked => exact ⟨_, Or.inr ⟨slot, member, _, fun _ => rfl⟩⟩
    all_goals first
      | exact ⟨_, Or.inl fun _ => rfl⟩
      | exact ⟨_, Or.inr ⟨slot, member, _, fun _ => rfl⟩⟩

theorem writesOne_reset : options.WritesOne scope (·.reset scope name) := by
  have sameFound (cache) : (options.keeping cache).find name = options.find name := rfl
  unfold WritesOne Options.reset
  simp only [sameFound]
  cases found : options.find name with
  | error error => exact ⟨_, Or.inl fun _ => rfl⟩
  | ok slot => exact ⟨_, Or.inr ⟨slot, (mem_of_find found).1, _, fun _ => rfl⟩⟩

/-- What a call answers may be put in other words. -/
theorem WritesOne.map {α β : Type} {call : Options → Options × α}
    (writes : options.WritesOne scope call) (next : α → β) :
    options.WritesOne scope fun options => ((call options).1, next (call options).2) := by
  obtain ⟨result, kept | ⟨slot, member, value, written⟩⟩ := writes
  · exact ⟨next result, Or.inl fun cache => by simp only [kept cache]⟩
  · exact ⟨next result, Or.inr ⟨slot, member, value, fun cache => by simp only [written cache]⟩⟩

theorem writesOne_runDirective (directive : SetDirective) :
    options.WritesOne scope (·.runDirective scope directive) := by
  have sameFound (name : String) (cache) : (options.keeping cache).find name = options.find name := rfl
  cases directive with
  | showChanged => exact ⟨.ok (some (options.listing scope false)), Or.inl fun _ => rfl⟩
  | showAll => exact ⟨.ok (some (options.listing scope true)), Or.inl fun _ => rfl⟩
  | query name => exact ⟨(options.format scope name).map some, Or.inl fun _ => rfl⟩
  | off name => exact (writesOne_set (.bool false)).map _
  | reset name => exact writesOne_reset.map _
  | assign name assignment text => exact (writesOne_assign assignment text).map _
  | on name =>
    have set : options.WritesOne scope fun options =>
        ((options.set scope name (.bool true)).1,
          (options.set scope name (.bool true)).2.map fun _ => (none : Option String)) :=
      (writesOne_set (.bool true)).map _
    unfold WritesOne at set ⊢
    simp only [Options.runDirective, sameFound]
    cases options.find name with
    | error error => exact ⟨_, Or.inl fun _ => rfl⟩
    | ok slot =>
      dsimp only
      by_cases isBool : slot.definition.kind = .bool
      · simp only [if_pos isBool]
        exact set
      · simp only [if_neg isBool]
        exact ⟨_, Or.inl fun _ => rfl⟩
  | toggle name =>
    unfold WritesOne
    simp only [Options.runDirective, sameFound]
    cases options.find name with
    | error error => exact ⟨_, Or.inl fun _ => rfl⟩
    | ok slot =>
      dsimp only
      cases (slot.read scope).bool? with
      | none => exact ⟨_, Or.inl fun _ => rfl⟩
      | some value =>
        have set : options.WritesOne scope (·.set scope name (.bool !value)) := writesOne_set _
        exact set.map (Except.map fun _ => (none : Option String))

/-- Options with fresh looks, and others that differ in the looks they keep at most. -/
structure Beside (options other : Options) : Prop where
  fresh : options.Fresh
  same : ∃ cache, other = options.keeping cache

theorem Beside.write (beside : options.Beside other) (member : slot ∈ options.slots) :
    (options.write scope slot value).Beside (other.write scope slot value) := by
  obtain ⟨fresh, cache, rfl⟩ := beside
  refine ⟨fresh.write member, ?_⟩
  unfold Options.write
  dsimp only
  split
  · exact ⟨_, rfl⟩
  · exact ⟨_, rfl⟩

/-- The same call answers the same beside, and leads to options beside each other. -/
theorem Beside.of_writesOne {α : Type} {call : Options → Options × α} (beside : options.Beside other)
    (writes : options.WritesOne scope call) :
    (call options).1.Beside (call other).1 ∧ (call options).2 = (call other).2 := by
  obtain ⟨cache, isOther⟩ := beside.same
  obtain ⟨result, kept | ⟨slot, member, value, written⟩⟩ := writes
  · have own : call options = (options, result) := kept options.cursorCache
    rw [own, isOther, kept cache, ← isOther]
    exact ⟨beside, rfl⟩
  · have own : call options = (options.write scope slot value, result) := written options.cursorCache
    rw [own, isOther, written cache, ← isOther]
    exact ⟨beside.write member, rfl⟩

/-- By induction on the directives: the first that fails is the same beside. -/
theorem Beside.runDirectives {directives : List SetDirective} (beside : options.Beside other)
    (scope : Scope) :
    (Options.runDirectives scope directives options).1.Beside
      (Options.runDirectives scope directives other).1 := by
  induction directives generalizing options other with
  | nil => exact beside
  | cons directive rest ih =>
    obtain ⟨after, sameResult⟩ :=
      beside.of_writesOne (writesOne_runDirective directive : options.WritesOne scope _)
    unfold Options.runDirectives
    cases ran : options.runDirective scope directive with
    | mk options' result =>
      cases ranOther : other.runDirective scope directive with
      | mk other' otherResult =>
        rw [ran, ranOther] at after sameResult
        obtain rfl : result = otherResult := sameResult
        cases result with
        | error error => exact after
        | ok shown => exact ih after

theorem Beside.call (beside : options.Beside other) (call : OptionCall) :
    (options.call call).Beside (other.call call) := by
  cases call with
  | set scope name value => exact (beside.of_writesOne (writesOne_set value.toOption)).1
  | assign scope name assignment text =>
    exact (beside.of_writesOne (writesOne_assign assignment text)).1
  | reset scope name => exact (beside.of_writesOne writesOne_reset).1
  | execute scope arguments => exact beside.runDirectives scope

end Options

/-- What happens to options: calls, lists given as their entries, and looks at the cursor. -/
inductive OptionEvent where
  | call (call : OptionCall)
  | setList (scope : Scope) (name : String) (entries : List OptionEntry)
  | look (mode : CursorMode)
deriving DecidableEq, Inhabited

namespace Options

/-- What the looks at the cursor answer, where each may find what an earlier one has kept. -/
def looks (options : Options) : List OptionEvent → List CursorLook
  | [] => []
  | .call call :: rest => (options.call call).looks rest
  | .setList scope name entries :: rest => (options.set scope name (.list entries)).1.looks rest
  | .look mode :: rest => (options.cursorLook mode).1 :: (options.cursorLook mode).2.looks rest

/-- What the stored entries give at each look, where nothing is kept. -/
def storedLooks (options : Options) : List OptionEvent → List CursorLook
  | [] => []
  | .call call :: rest => (options.call call).storedLooks rest
  | .setList scope name entries :: rest =>
    (options.set scope name (.list entries)).1.storedLooks rest
  | .look mode :: rest =>
    CursorLook.ofEntries options.cursorEntries mode :: options.storedLooks rest

variable {options other : Options}

theorem Beside.looks {events : List OptionEvent} (beside : options.Beside other) :
    options.looks events = other.storedLooks events := by
  induction events generalizing options other with
  | nil => rfl
  | cons event rest ih =>
    cases event with
    | call call => exact ih (beside.call call)
    | setList scope name entries =>
      exact ih (beside.of_writesOne (writesOne_set (.list entries))).1
    | look mode =>
      obtain ⟨answer, fresh⟩ := beside.fresh.cursorLook mode
      obtain ⟨cache, rfl⟩ := beside.same
      have still : (options.cursorLook mode).2.Beside (options.keeping cache) := by
        refine ⟨fresh, cache, ?_⟩
        unfold Options.cursorLook
        split <;> rfl
      unfold Options.looks Options.storedLooks
      rw [answer, ih still]
      rfl

/-- However options are set, assigned and reset between looks at the cursor, in whatever scopes and with
whatever failures: each look answers what the entries stored at that moment give in its mode, as if
nothing were ever kept. -/
theorem looks_eq_storedLooks (events : List OptionEvent) :
    ({} : Options).looks events = ({} : Options).storedLooks events :=
  Beside.looks ⟨fresh_default, [], rfl⟩

end Options

end ModalEdit

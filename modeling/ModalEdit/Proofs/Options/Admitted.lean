import Mathlib.Logic.Relation
import ModalEdit.Proofs.Options.CursorLook
import ModalEdit.Proofs.Options.Writing

/-!
Whatever has been set, assigned and reset before, each option holds values of its own type and
grammar, and a list option can be given its own text back: the entries that are read from a text may
stand in the list, and such a list reads back from its own text.
-/

set_option autoImplicit false

namespace ModalEdit

namespace OptionDefinition

variable {definition : OptionDefinition} {entry : OptionEntry} {entries : List OptionEntry}

/-- What a list option may hold: an entry whose text is no empty token, has no comma, and is read as
the entry. -/
structure Accepts (definition : OptionDefinition) (entry : OptionEntry) : Prop where
  nonempty : entry.token ≠ ""
  comma : ',' ∉ entry.token.toList
  reads : definition.parseToken entry.token.toList = .ok entry

/-- An entry keeps the text that it was read from. -/
theorem token_of_parseToken {token : List Char} (read : definition.parseToken token = .ok entry) :
    entry.token = String.ofList token := by
  unfold parseToken at read
  dsimp only at read
  split at read
  · cases read
    rfl
  · split at read
    · cases read
      rfl
    · cases read
  · cases parsed : CursorEntry.parse token with
    | error error =>
      rw [parsed] at read
      cases read
    | ok cursor =>
      rw [parsed] at read
      cases read
      exact CursorEntry.token_of_parse parsed

/-- Each entry has been read from one of the tokens. -/
theorem exists_of_mem_parseTokens {tokens : List (List Char)}
    (member : entry ∈ (definition.parseTokens tokens).1) :
    ∃ token ∈ tokens, definition.parseToken token = .ok entry := by
  induction tokens with
  | nil => cases member
  | cons token rest ih =>
    unfold parseTokens at member
    split at member
    · cases member
    · rename_i first read
      rcases List.mem_cons.mp member with rfl | later
      · exact ⟨token, List.mem_cons_self, read⟩
      · obtain ⟨other, among, read⟩ := ih later
        exact ⟨other, List.mem_cons_of_mem token among, read⟩

/-- Whatever the text, what is read of it may stand in the list, also in front of a token that
cannot be read. -/
theorem accepts_of_mem_parseList {text : String} (member : entry ∈ (definition.parseList text).1) :
    definition.Accepts entry := by
  obtain ⟨token, among, read⟩ := exists_of_mem_parseTokens member
  obtain ⟨piece, nonempty⟩ := List.mem_filter.mp among
  have same : entry.token.toList = token := by
    rw [token_of_parseToken read, String.toList_ofList]
  constructor
  · intro empty
    rw [empty] at same
    rw [← same] at nonempty
    cases nonempty
  · rw [same]
    exact Text.notMem_of_mem_splitOn piece
  · rw [same]
    exact read

theorem parseTokens_tokens (accepted : ∀ entry ∈ entries, definition.Accepts entry) :
    definition.parseTokens (entries.map (·.token.toList)) = (entries, none) := by
  induction entries with
  | nil => rfl
  | cons entry rest ih =>
    have first := accepted entry List.mem_cons_self
    have others := ih fun other member => accepted other (List.mem_cons_of_mem entry member)
    rw [List.map_cons, parseTokens, first.reads, others]

/-- The tokens of a list are the pieces of its text between the commas. -/
theorem tokens_of_text (accepted : ∀ entry ∈ entries, definition.Accepts entry) :
    (Text.splitOn ',' (OptionValue.list entries).text.toList).filter (!·.isEmpty) =
      entries.map (·.token.toList) := by
  have joined : (OptionValue.list entries).text.toList =
      [','].intercalate (entries.map (·.token.toList)) := by
    show (",".intercalate (entries.map OptionEntry.token)).toList = _
    rw [String.toList_intercalate, List.map_map]
    rfl
  rw [joined, Text.splitOn_eq]
  cases entries with
  | nil => rfl
  | cons first rest =>
    rw [List.splitOn_intercalate]
    · rw [List.filter_eq_self]
      intro token member
      obtain ⟨entry, among, rfl⟩ := List.mem_map.mp member
      have nonempty := (accepted entry among).nonempty
      simpa using nonempty
    · intro token member
      obtain ⟨entry, among, rfl⟩ := List.mem_map.mp member
      exact (accepted entry among).comma
    · exact List.cons_ne_nil _ _

/-- A list reads back from its own text. -/
theorem parseList_text (accepted : ∀ entry ∈ entries, definition.Accepts entry) :
    definition.parseList (OptionValue.list entries).text = (entries, none) := by
  unfold parseList
  rw [tokens_of_text accepted, parseTokens_tokens accepted]

end OptionDefinition

namespace OptionDefinition

variable {definition : OptionDefinition} {value : OptionValue}

/-- The values that an option may hold: those of its type, numbers that are not negative, its own
words, and lists of the entries that it accepts. -/
def Admits (definition : OptionDefinition) : OptionValue → Prop
  | .bool _ => definition.kind = .bool
  | .number value => definition.kind = .number ∧ 0 ≤ value
  | .string text => definition.kind = .string ∧
      ∀ words, definition.grammar = .oneOf words → text ∈ words
  | .list entries => definition.kind = .list ∧ ∀ entry ∈ entries, definition.Accepts entry

theorem exists_text_of_admits (admits : definition.Admits value)
    (isString : definition.kind = .string) : ∃ text, value = .string text ∧
      ∀ words, definition.grammar = .oneOf words → text ∈ words := by
  cases value with
  | string text => exact ⟨text, rfl, admits.2⟩
  | bool value => exact absurd (isString.symm.trans admits) nofun
  | number value => exact absurd (isString.symm.trans admits.1) nofun
  | list entries => exact absurd (isString.symm.trans admits.1) nofun

theorem exists_number_of_admits (admits : definition.Admits value)
    (isNumber : definition.kind = .number) : ∃ number, value = .number number := by
  cases value with
  | number value => exact ⟨value, rfl⟩
  | bool value => exact absurd (isNumber.symm.trans admits) nofun
  | string text => exact absurd (isNumber.symm.trans admits.1) nofun
  | list entries => exact absurd (isNumber.symm.trans admits.1) nofun

theorem exists_entries_of_admits (admits : definition.Admits value)
    (isList : definition.kind = .list) : ∃ entries, value = .list entries ∧
      ∀ entry ∈ entries, definition.Accepts entry := by
  cases value with
  | list entries => exact ⟨entries, rfl, admits.2⟩
  | bool value => exact absurd (isList.symm.trans admits) nofun
  | number value => exact absurd (isList.symm.trans admits.1) nofun
  | string text => exact absurd (isList.symm.trans admits.1) nofun

/-- Whether the declared default is of the option's type, and one of its words. -/
def defaultFits (definition : OptionDefinition) : Bool :=
  match definition.kind, definition.default with
  | .bool, .bool _ => true
  | .number, .number value => decide (0 ≤ value)
  | .string, .text text =>
    match definition.grammar with
    | .oneOf words => words.contains text
    | _ => true
  | .list, .text _ => true
  | _, _ => false

theorem admits_defaultValue (declared : definition ∈ all) :
    definition.Admits definition.defaultValue := by
  have fits : ∀ definition ∈ all, definition.defaultFits = true := by decide
  have fits := fits definition declared
  unfold defaultFits at fits
  unfold defaultValue
  split at fits
  · rename_i isBool isDefault
    rw [isDefault]
    exact isBool
  · rename_i isNumber isDefault
    rw [isDefault]
    exact ⟨isNumber, of_decide_eq_true fits⟩
  · rename_i text isString isDefault
    rw [isString, isDefault]
    refine ⟨isString, ?_⟩
    intro words isOneOf
    rw [isOneOf] at fits
    exact List.contains_iff_mem.mp fits
  · rename_i isList isDefault
    rw [isList, isDefault]
    exact ⟨isList, fun _ => accepts_of_mem_parseList⟩
  · cases fits

theorem nonneg_of_checkNumber {value checked : Int64}
    (passed : definition.checkNumber value = .ok checked) : 0 ≤ checked := by
  unfold checkNumber at passed
  split at passed
  · cases passed
  · rename_i nonneg
    cases passed
    exact Int64.not_lt.mp nonneg

end OptionDefinition

namespace OptionSlot

variable {slot : OptionSlot} {value : OptionValue}

/-- An option whose values are among those that it may hold. -/
structure Admitted (slot : OptionSlot) : Prop where
  global : slot.definition.Admits slot.global
  own : ∀ value ∈ slot.local?, slot.definition.Admits value

theorem admitted_initial {definition : OptionDefinition} (declared : definition ∈ OptionDefinition.all) :
    (initial definition).Admitted := by
  have admits := OptionDefinition.admits_defaultValue declared
  refine ⟨admits, ?_⟩
  intro value isLocal
  simp only [initial, Option.mem_def] at isLocal
  split at isLocal
  · cases isLocal
    exact admits
  · cases isLocal

theorem Admitted.read (admitted : slot.Admitted) (scope : Scope) :
    slot.definition.Admits (slot.read scope) := by
  unfold OptionSlot.read
  split
  · exact admitted.global
  · cases isLocal : slot.local? with
    | none => exact admitted.global
    | some value => exact admitted.own value isLocal

theorem Admitted.write (admitted : slot.Admitted) (admits : slot.definition.Admits value)
    (scope : Scope) : (slot.write scope value).Admitted := by
  constructor
  · rw [definition_write]
    rcases slot.global_write scope value with written | kept
    · rwa [written]
    · rw [kept]
      exact admitted.global
  · rw [definition_write]
    intro other isLocal
    rcases slot.local_write scope value with written | kept | taken
    · rw [written] at isLocal
      cases isLocal
      exact admits
    · rw [kept] at isLocal
      exact admitted.own other isLocal
    · rw [taken] at isLocal
      cases isLocal

end OptionSlot

namespace Options

variable {options : Options} {slot : OptionSlot} {value : OptionValue} {name : String}

/-- The options that there are, each with values that it may hold. -/
structure Admitted (options : Options) : Prop where
  definitions : options.slots.map (·.definition) = OptionDefinition.all
  slots : ∀ slot ∈ options.slots, slot.Admitted

theorem admitted_fresh : ({} : Options).Admitted := by
  constructor
  · show (OptionDefinition.all.map OptionSlot.initial).map (·.definition) = OptionDefinition.all
    rw [List.map_map]
    exact List.map_id _
  · intro slot member
    obtain ⟨definition, declared, rfl⟩ := List.mem_map.mp member
    exact OptionSlot.admitted_initial declared

theorem Admitted.declared (admitted : options.Admitted) (member : slot ∈ options.slots) :
    slot.definition ∈ OptionDefinition.all :=
  admitted.definitions ▸ List.mem_map_of_mem member

/-- Every name of an option finds it. -/
theorem Admitted.find (admitted : options.Admitted) {definition : OptionDefinition}
    (declared : definition ∈ OptionDefinition.all) (named : definition.hasName name = true) :
    ∃ slot, options.find name = .ok slot ∧ slot.definition = definition := by
  rw [← admitted.definitions] at declared
  obtain ⟨slot, member, rfl⟩ := List.mem_map.mp declared
  have some : (options.find? name).isSome = true :=
    List.find?_isSome.mpr ⟨slot, member, named⟩
  obtain ⟨found, isFound⟩ := Option.isSome_iff_exists.mp some
  have isFound := find_eq_ok.mpr isFound
  obtain ⟨among, foundNamed⟩ := mem_of_find isFound
  have same := OptionDefinition.eq_of_hasName (admitted.declared among) (admitted.declared member)
    foundNamed named
  exact ⟨found, isFound, same⟩

/-- An admitted value is written into one option only, since no other has its name. -/
theorem Admitted.write (admitted : options.Admitted) (scope : Scope)
    (found : options.find name = .ok slot) (admits : slot.definition.Admits value) :
    (options.write scope slot value).Admitted := by
  have member := (mem_of_find found).1
  refine ⟨definitions_write.trans admitted.definitions, ?_⟩
  rw [slots_write]
  intro written isWritten
  obtain ⟨other, among, rfl⟩ := List.mem_map.mp isWritten
  have otherAdmitted := admitted.slots other among
  split
  · rename_i sameName
    have same : other.definition = slot.definition :=
      OptionDefinition.eq_of_hasName (admitted.declared among) (admitted.declared member)
        other.definition.hasName_self (sameName ▸ slot.definition.hasName_self)
    exact otherAdmitted.write (same ▸ admits) scope
  · exact otherAdmitted

theorem mem_combineLists {assignment : OptionAssignment} {old new : List OptionEntry}
    {entry : OptionEntry} (member : entry ∈ combineLists assignment old new) :
    entry ∈ old ∨ entry ∈ new := by
  cases assignment with
  | set => exact Or.inr member
  | subtract => exact Or.inl (List.mem_filter.mp member).1
  | prepend =>
    rcases List.mem_append.mp member with isNew | kept
    · exact Or.inr isNew
    · exact Or.inl (List.mem_filter.mp kept).1
  | add =>
    unfold combineLists at member
    dsimp only at member
    induction new generalizing old with
    | nil => exact Or.inl member
    | cons first rest ih =>
      rw [List.foldl_cons] at member
      rcases ih member with before | later
      · split at before
        · exact Or.inl before
        · rcases List.mem_append.mp before with isOld | isFirst
          · exact Or.inl isOld
          · rw [List.mem_singleton.mp isFirst]
            exact Or.inr List.mem_cons_self
      · exact Or.inr (List.mem_cons_of_mem first later)

/-- What a call leads to that writes one option in a scope, or none. -/
inductive Sets (scope : Scope) (options : Options) : Options → Prop where
  | kept : Sets scope options options
  | written {name : String} {slot : OptionSlot} {value : OptionValue}
      (found : options.find name = .ok slot) (admits : slot.definition.Admits value) :
      Sets scope options (options.write scope slot value)

/-- What writes in a scope lead to, one after the other. -/
abbrev Writes (scope : Scope) : Options → Options → Prop :=
  Relation.ReflTransGen (Sets scope)

theorem Admitted.of_sets {scope : Scope} {after : Options} (admitted : options.Admitted)
    (sets : options.Sets scope after) : after.Admitted := by
  cases sets with
  | kept => exact admitted
  | written found admits => exact admitted.write scope found admits

theorem Admitted.of_writes {scope : Scope} {after : Options} (admitted : options.Admitted)
    (writes : options.Writes scope after) : after.Admitted := by
  induction writes with
  | refl => exact admitted
  | tail _ sets ih => exact ih.of_sets sets

/-- What a call leads to that writes the option of a name in a scope, or none. Under a condition, the option
may hold what is written. -/
inductive Puts (condition : Prop) (scope : Scope) (name : String) (options : Options) : Options → Prop where
  | kept : Puts condition scope name options options
  | written {slot : OptionSlot} {value : OptionValue} (found : options.find name = .ok slot)
      (admits : condition → slot.definition.Admits value) :
      Puts condition scope name options (options.write scope slot value)

section Puts

variable {condition weaker : Prop} {scope : Scope} {after : Options}

theorem Puts.imp (puts : options.Puts weaker scope name after) (weaken : condition → weaker) :
    options.Puts condition scope name after := by
  cases puts with
  | kept => exact .kept
  | written found admits => exact .written found (admits ∘ weaken)

theorem Puts.sets (puts : options.Puts condition scope name after) (holds : condition) :
    options.Sets scope after := by
  cases puts with
  | kept => exact .kept
  | written found admits => exact .written found (admits holds)

end Puts

theorem puts_assign (scope : Scope) (name : String) (assignment : OptionAssignment) (text : String) :
    options.Puts options.Admitted scope name (options.assign scope name assignment text).1 := by
  unfold Options.assign
  split
  · exact .kept
  · rename_i slot found
    dsimp only
    split
    · exact .kept
    · rename_i isNumber
      split
      · exact .kept
      · split
        · exact .kept
        · rename_i checked
          refine .written found fun _ => ?_
          exact ⟨isNumber, OptionDefinition.nonneg_of_checkNumber checked⟩
    · rename_i isString
      split
      · rename_i words isOneOf
        split
        · rename_i isWord
          refine .written found fun _ => ⟨isString, ?_⟩
          intro others isOneOf'
          rw [isOneOf] at isOneOf'
          cases isOneOf'
          exact List.contains_iff_mem.mp isWord
        · exact .kept
      · rename_i notOneOf
        refine .written found fun _ => ⟨isString, ?_⟩
        intro words isOneOf
        exact absurd isOneOf (notOneOf words)
    · rename_i isList
      split
      · rename_i old isOld
        have written : options.Puts options.Admitted scope name (options.write scope slot
            (.list (combineLists assignment old (slot.definition.parseList text).1))) := by
          refine .written found fun admitted => ⟨isList, ?_⟩
          have current := (admitted.slots slot (mem_of_find found).1).read scope
          rw [isOld] at current
          intro entry member
          rcases mem_combineLists member with isOldEntry | isNew
          · exact current.2 entry isOldEntry
          · exact OptionDefinition.accepts_of_mem_parseList isNew
        split <;> exact written
      · exact .kept

theorem puts_set (scope : Scope) (name : String) (value : OptionValue) :
    options.Puts (options.Admitted ∧ ∀ entries, value ≠ .list entries) scope name
      (options.set scope name value).1 := by
  unfold Options.set
  split
  · exact .kept
  · rename_i slot found
    split
    · rename_i isBool
      exact .written found fun _ => isBool
    · rename_i isBool
      exact .written found fun _ => isBool
    · rename_i isNumber
      split
      · exact .kept
      · rename_i checked
        refine .written found fun _ => ?_
        exact ⟨isNumber, OptionDefinition.nonneg_of_checkNumber checked⟩
    · rename_i isNumber
      refine .written found fun _ => ⟨isNumber, ?_⟩
      split <;> decide
    · exact (puts_assign scope name .set _).imp And.left
    · exact (puts_assign scope name .set _).imp And.left
    · rename_i entries _
      exact .written found fun plain => absurd rfl (plain.2 entries)
    · exact .kept

theorem puts_reset (scope : Scope) (name : String) :
    options.Puts options.Admitted scope name (options.reset scope name).1 := by
  unfold Options.reset
  split
  · exact .kept
  · rename_i slot found
    refine .written found fun admitted => ?_
    exact OptionDefinition.admits_defaultValue (admitted.declared (mem_of_find found).1)

theorem Admitted.sets_assign (admitted : options.Admitted) (scope : Scope) (name : String)
    (assignment : OptionAssignment) (text : String) :
    options.Sets scope (options.assign scope name assignment text).1 :=
  (puts_assign scope name assignment text).sets admitted

/-- A value that is no list can be set as it is. -/
theorem Admitted.sets_set (admitted : options.Admitted) (scope : Scope) (name : String)
    (plain : ∀ entries, value ≠ .list entries) :
    options.Sets scope (options.set scope name value).1 :=
  (puts_set scope name value).sets ⟨admitted, plain⟩

theorem Admitted.sets_reset (admitted : options.Admitted) (scope : Scope) (name : String) :
    options.Sets scope (options.reset scope name).1 :=
  (puts_reset scope name).sets admitted

theorem Admitted.sets_runDirective (admitted : options.Admitted) (scope : Scope)
    (directive : SetDirective) : options.Sets scope (options.runDirective scope directive).1 := by
  cases directive with
  | showChanged | showAll | query name => exact .kept
  | on name =>
    unfold Options.runDirective
    dsimp only
    split
    · exact .kept
    · split
      · exact admitted.sets_set scope name nofun
      · exact .kept
  | off name => exact admitted.sets_set scope name nofun
  | toggle name =>
    unfold Options.runDirective
    dsimp only
    split
    · exact .kept
    · split
      · exact admitted.sets_set scope name nofun
      · exact .kept
  | reset name => exact admitted.sets_reset scope name
  | assign name assignment text => exact admitted.sets_assign scope name assignment text

theorem Admitted.writes_runDirectives {directives : List SetDirective}
    (admitted : options.Admitted) (scope : Scope) :
    options.Writes scope (runDirectives scope directives options).1 := by
  induction directives generalizing options with
  | nil => exact .refl
  | cons directive rest ih =>
    have sets := admitted.sets_runDirective scope directive
    unfold Options.runDirectives
    split
    · rename_i ran
      rw [ran] at sets
      exact .single sets
    · rename_i ran
      rw [ran] at sets
      exact (ih (admitted.of_sets sets)).head sets

theorem Admitted.writes_execute (admitted : options.Admitted) (scope : Scope)
    (arguments : String) : options.Writes scope (options.execute scope arguments).1 :=
  admitted.writes_runDirectives scope

end Options

/-- A value that is given to an option from outside. Lists are given as texts. -/
inductive GivenValue where
  | bool (value : Bool)
  | number (value : Int64)
  | string (text : String)
deriving DecidableEq, Inhabited

def GivenValue.toOption : GivenValue → OptionValue
  | bool value => .bool value
  | number value => .number value
  | string text => .string text

/-- What can be asked of options. -/
inductive OptionCall where
  | set (scope : Scope) (name : String) (value : GivenValue)
  | assign (scope : Scope) (name : String) (assignment : OptionAssignment) (text : String)
  | reset (scope : Scope) (name : String)
  | execute (scope : Scope) (arguments : String)
deriving DecidableEq, Inhabited

namespace Options

variable {options : Options} {slot : OptionSlot} {name : String}

/-- The options after a call, whether it fails or not. -/
def call (options : Options) : OptionCall → Options
  | .set scope name value => (options.set scope name value.toOption).1
  | .assign scope name assignment text => (options.assign scope name assignment text).1
  | .reset scope name => (options.reset scope name).1
  | .execute scope arguments => (options.execute scope arguments).1

/-- The options after calls, one after the other. -/
def callAll (options : Options) (calls : List OptionCall) : Options :=
  calls.foldl call options

theorem Admitted.call (admitted : options.Admitted) (call : OptionCall) :
    (options.call call).Admitted := by
  cases call with
  | set scope name value =>
    refine admitted.of_sets (admitted.sets_set scope name ?_)
    cases value <;> exact nofun
  | assign scope name assignment text =>
    exact admitted.of_sets (admitted.sets_assign scope name assignment text)
  | reset scope name => exact admitted.of_sets (admitted.sets_reset scope name)
  | execute scope arguments => exact admitted.of_writes (admitted.writes_execute scope arguments)

theorem Admitted.callAll {calls : List OptionCall} (admitted : options.Admitted) :
    (options.callAll calls).Admitted := by
  induction calls generalizing options with
  | nil => exact admitted
  | cons call rest ih => exact ih (admitted.call call)

/-- A list that is assigned its own text is read completely, and nothing else is written. -/
theorem assign_ownText {entries : List OptionEntry} {scope : Scope}
    (found : options.find name = .ok slot) (holds : slot.read scope = .list entries)
    (isList : slot.definition.kind = .list)
    (accepted : ∀ entry ∈ entries, slot.definition.Accepts entry) :
    options.assign scope name .set (OptionValue.list entries).text =
      (options.write scope slot (.list entries), .ok ()) := by
  unfold Options.assign
  simp only [found, holds, isList, OptionDefinition.parseList_text accepted, combineLists]

/-- Whatever has been set, assigned and reset before, in whatever scopes and with whatever failures:
every option there is holds values of its type only, numbers that are not negative, one of its own
words, and lists of tokens that are not empty, have no commas and are read as they stand. Under each of
its names and in each scope a list can be assigned the text it is shown as; that succeeds, and the same
list is read afterwards. -/
theorem admitted_callAll (calls : List OptionCall) :
    let options := ({} : Options).callAll calls
    options.slots.map (·.definition) = OptionDefinition.all ∧
    (∀ slot ∈ options.slots, slot.definition.Admits slot.global ∧
      ∀ value, slot.local? = some value → slot.definition.Admits value) ∧
    options.text "selection" ∈ ["old", "inclusive", "exclusive"] ∧
    ∀ definition ∈ OptionDefinition.all, definition.kind = .list →
      ∀ name, definition.hasName name = true → ∀ scope, ∃ entries,
        options.get scope name = .ok (.list entries) ∧
        (∀ entry ∈ entries, definition.Accepts entry) ∧
        (options.assign scope name .set (OptionValue.list entries).text).2 = .ok () ∧
        (options.assign scope name .set (OptionValue.list entries).text).1.get scope name =
          .ok (.list entries) := by
  intro options
  have admitted : options.Admitted := admitted_fresh.callAll
  refine ⟨admitted.definitions, ?_, ?_, ?_⟩
  · intro slot member
    exact ⟨(admitted.slots slot member).global, (admitted.slots slot member).own⟩
  · have declared : (⟨"selection", "sel", .global, .string, .text "inclusive",
        .oneOf ["old", "inclusive", "exclusive"]⟩ : OptionDefinition) ∈ OptionDefinition.all := by
      decide
    obtain ⟨slot, found, same⟩ := admitted.find declared (OptionDefinition.hasName_self _)
    have admits := (admitted.slots slot (mem_of_find found).1).read .both
    have shown : options.text "selection" = (slot.read .both).text := by
      rw [Options.text, value?, find_eq_ok.mp found]
      rfl
    obtain ⟨text, holds, isWord⟩ := OptionDefinition.exists_text_of_admits admits (same ▸ rfl)
    rw [shown, holds]
    exact isWord _ (same ▸ rfl)
  · intro definition declared isList name named scope
    obtain ⟨slot, found, rfl⟩ := admitted.find declared named
    have admits := (admitted.slots slot (mem_of_find found).1).read scope
    obtain ⟨entries, holds, accepted⟩ := OptionDefinition.exists_entries_of_admits admits isList
    have read : options.get scope name = .ok (.list entries) := by
      rw [Options.get, found]
      exact congrArg Except.ok holds
    refine ⟨entries, read, accepted, ?_⟩
    rw [assign_ownText found holds isList accepted]
    exact ⟨rfl, get_write found⟩

/-- After a line that stops at a negative number and an assignment that stops at a bad token, the list
takes its own text. -/
theorem admitted_callAll_partly :
    let options := ({} : Options).callAll [
      .execute .both "km=startsel ts-=9", .assign .local "km" .add "stopsel,startsel,bad,stopvisual"]
    ∃ entries, options.get .both "km" = .ok (.list entries) ∧
      (options.assign .both "km" .set "startsel,stopsel").2 = .ok () ∧
      (options.assign .both "km" .set "startsel,stopsel").1.get .both "km" = .ok (.list entries) := by
  intro options
  obtain ⟨_, _, _, lists⟩ := admitted_callAll [
    .execute .both "km=startsel ts-=9", .assign .local "km" .add "stopsel,startsel,bad,stopvisual"]
  obtain ⟨entries, read, _, assigned, again⟩ :=
    lists ⟨"keymodel", "km", .global, .list, .text "continueselect,stopselect",
        .oneOf ["startsel", "stopsel", "stopselect", "stopvisual", "continueselect",
          "continuevisual"]⟩
      (by decide) rfl "km" (by decide) .both
  have shown : (options.get .both "km").map OptionValue.text = .ok "startsel,stopsel" := by
    decide +kernel
  have isText : (OptionValue.list entries).text = "startsel,stopsel" := by
    rw [read] at shown
    exact Except.ok.inj shown
  rw [isText] at assigned again
  exact ⟨entries, read, assigned, again⟩

end Options

end ModalEdit

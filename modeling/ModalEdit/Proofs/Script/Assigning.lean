import ModalEdit.Proofs.Options.Writing
import ModalEdit.Proofs.Script.Equality
import ModalEdit.Proofs.Script.Variables
import ModalEdit.Script.Assign

/-!
Assignment as a whole. It fails and leaves everything as it was, or the target holds what it takes of the new
value and nothing else has changed, the registers that go along with a written one apart.
-/

set_option autoImplicit false

namespace ModalEdit

/-- The text that a script gives to a register: whole lines if it ends in a line break. -/
def Register.ofText (text : List Char) : Register :=
  ⟨text, if text.getLast? = some '\n' then .line else .char⟩

namespace RegisterSlot

theorem ofName?_blackHole : ofName? (some '_') = none := by
  decide

theorem ofName?_unnamed : ofName? (some '"') = some .unnamed := by
  decide

/-- Every other name of a register stands for a place of its own. -/
theorem ofName?_of_isRegisterName {name : Char} (isName : isRegisterName name = true)
    (kept : name ≠ '_') (named : name ≠ '"') :
    ∃ slot, ofName? (some name) = some slot ∧ slot ≠ .unnamed := by
  unfold ofName?
  dsimp only
  split
  · exact ⟨_, rfl, nofun⟩
  · rename_i notAlpha
    split
    · exact ⟨_, rfl, nofun⟩
    · split
      · exact ⟨_, rfl, nofun⟩
      · rename_i notDigit
        split
        · exact ⟨_, rfl, nofun⟩
        · rename_i notDash
          simp [isRegisterName, Char.isAlphanum, notAlpha, notDigit, notDash, kept, named] at isName

end RegisterSlot

namespace RegisterFile

variable {registers : RegisterFile} {name : Char} {text : List Char}

theorem set_blackHole : registers.set '_' text = registers := by
  unfold set record
  dsimp only
  rw [if_neg (by decide), RegisterSlot.ofName?_blackHole]

theorem set_unnamed : registers.set '"' text =
    (registers.write .lastYank (Register.ofText text)).write .unnamed (Register.ofText text) := by
  rfl

/-- A register that has a place of its own is written there, and the unnamed one with it. -/
theorem set_named {slot : RegisterSlot} (isSlot : RegisterSlot.ofName? (some name) = some slot)
    (own : slot ≠ .unnamed) :
    let written :=
      if name.isUpper then
        (registers.read slot).append (Register.ofText text).content (Register.ofText text).kind
      else Register.ofText text
    registers.set name text = (registers.write slot written).write .unnamed written := by
  have notQuote : name ≠ '"' := by
    rintro rfl
    rw [RegisterSlot.ofName?_unnamed] at isSlot
    cases isSlot
    exact own rfl
  unfold set record
  dsimp only
  rw [if_neg notQuote, isSlot]
  cases slot with
  | unnamed => exact absurd rfl own
  | lastYank | smallDelete | numbered | named => rfl

/-- A register that is set holds the text, or with an upper-case name its own text with the new one behind. -/
theorem get_set (isName : isRegisterName name = true) : (registers.set name text).get (some name) =
    if name = '_' then {}
    else if name.isUpper then (registers.get (some name)).append text (Register.ofText text).kind
    else Register.ofText text := by
  split
  · rename_i isHole
    rw [isHole, set_blackHole, get, RegisterSlot.ofName?_blackHole]
  · rename_i kept
    by_cases isUnnamed : name = '"'
    · subst isUnnamed
      rw [set_unnamed, if_neg (by decide), get, RegisterSlot.ofName?_unnamed]
      exact read_write_self _ _ _
    · obtain ⟨slot, isSlot, own⟩ := RegisterSlot.ofName?_of_isRegisterName isName kept isUnnamed
      rw [set_named isSlot own, get, get, isSlot]
      dsimp only
      rw [read_write_of_ne own, read_write_self]
      rfl

/-- The other registers stay, but for the unnamed one, and for that of the last copied text where the unnamed
one is set. -/
theorem read_set_of_others {slot : RegisterSlot} (isName : isRegisterName name = true)
    (other : RegisterSlot.ofName? (some name) ≠ some slot) (unnamed : slot = .unnamed → name = '_')
    (lastYank : slot = .lastYank → name ≠ '"') :
    (registers.set name text).read slot = registers.read slot := by
  by_cases isHole : name = '_'
  · rw [isHole, set_blackHole]
  · have notUnnamed : slot ≠ .unnamed := fun isSlot => isHole (unnamed isSlot)
    by_cases isUnnamed : name = '"'
    · have notLastYank : slot ≠ .lastYank := fun isSlot => lastYank isSlot isUnnamed
      rw [isUnnamed, set_unnamed, read_write_of_ne notUnnamed, read_write_of_ne notLastYank]
    · obtain ⟨own, isOwn, ownPlace⟩ := RegisterSlot.ofName?_of_isRegisterName isName isHole isUnnamed
      have apart : slot ≠ own := by
        rintro rfl
        exact other isOwn
      rw [set_named isOwn ownPlace, read_write_of_ne notUnnamed, read_write_of_ne apart]

end RegisterFile

/-! ### Options -/

namespace Options

variable {options : Options} {scope : Scope} {name : String} {slot : OptionSlot}

/-- A text goes into an option of texts that has it among its words, and into no other but a list. -/
theorem set_string_cases (found : options.find name = .ok slot) (notList : slot.definition.kind ≠ .list)
    (text : String) :
    ((slot.definition.kind = .string ∧ ∀ words, slot.definition.grammar = .oneOf words → text ∈ words) ∧
      options.set scope name (.string text) = (options.write scope slot (.string text), .ok ())) ∨
    (¬ (slot.definition.kind = .string ∧
        ∀ words, slot.definition.grammar = .oneOf words → text ∈ words) ∧
      ∃ error, options.set scope name (.string text) = (options, .error error)) := by
  unfold Options.set
  rw [found]
  dsimp only
  cases kind : slot.definition.kind with
  | list => exact absurd kind notList
  | bool | number => exact .inr ⟨by simp, _, rfl⟩
  | string =>
    dsimp only
    cases grammar : slot.definition.grammar with
    | any | guiCursor =>
      refine .inl ⟨⟨rfl, nofun⟩, ?_⟩
      simp only [assign, found, kind, grammar, combineTexts]
    | oneOf words =>
      by_cases isWord : text ∈ words
      · refine .inl ⟨⟨rfl, fun _ same => ?_⟩, ?_⟩
        · cases same
          exact isWord
        · simp only [assign, found, kind, grammar, combineTexts, List.contains_iff_mem, if_pos isWord]
      · refine .inr ⟨fun among => isWord (among.2 words rfl), .invalidArgument s!"{name}={text}", ?_⟩
        simp only [assign, found, kind, grammar, combineTexts, List.contains_iff_mem, if_neg isWord]

/-- A number is on or off for some options, and others keep it unless it is negative. -/
theorem set_number_cases (found : options.find name = .ok slot) (n : Int64) :
    (slot.definition.kind = .bool ∧
      options.set scope name (.number n) = (options.write scope slot (.bool (n != 0)), .ok ())) ∨
    ((slot.definition.kind = .number ∧ 0 ≤ n) ∧
      options.set scope name (.number n) = (options.write scope slot (.number n), .ok ())) ∨
    (slot.definition.kind ≠ .bool ∧ ¬ (slot.definition.kind = .number ∧ 0 ≤ n) ∧
      ∃ error, options.set scope name (.number n) = (options, .error error)) := by
  unfold Options.set
  rw [found]
  dsimp only
  cases kind : slot.definition.kind with
  | bool => exact .inl ⟨rfl, rfl⟩
  | string | list => exact .inr (.inr ⟨nofun, by simp, _, rfl⟩)
  | number =>
    dsimp only [OptionDefinition.checkNumber]
    by_cases negative : n < 0
    · rw [if_pos negative]
      exact .inr (.inr ⟨nofun, fun nonneg => absurd nonneg.2 (Int64.not_le.mpr negative), _, rfl⟩)
    · rw [if_neg negative]
      exact .inr (.inl ⟨⟨rfl, Int64.not_lt.mp negative⟩, rfl⟩)

end Options

end ModalEdit

namespace ModalEdit.Script

/-! ### Variables -/

theorem Variables.get?_insertSorted_of_ne {key other : String} (apart : other ≠ key) (value : Value)
    (entries : Dict Value) : Dict.get? (insertSorted key value entries) other = entries.get? other := by
  induction entries with
  | nil => rw [insertSorted, Dict.get?_cons, if_neg apart]
  | cons entry rest ih =>
    obtain ⟨first, old⟩ := entry
    unfold insertSorted
    split
    · rename_i isKey
      rw [Dict.get?_cons, Dict.get?_cons, isKey, if_neg apart, if_neg apart]
    · split
      · rw [Dict.get?_cons, if_neg apart]
      · rw [Dict.get?_cons, Dict.get?_cons, ih]

/-- A variable that is set is no other one. -/
theorem Variables.get?_set_of_ne {vars after : Variables} {name other : String} {value : Value}
    (done : vars.set name value = .ok after) (apart : fullName other ≠ fullName name) :
    after.get? other = vars.get? other := by
  unfold set at done
  split at done
  · cases done
  · cases done
    unfold get?
    rw [get?_insertSorted_of_ne apart]

/-! ### Operators -/

/-- An operator that changes the old value in place gives what its binary operation gives, where it fits. -/
theorem AssignOperator.combine_eq_ok {operator : AssignOperator} {current operand new : Value}
    (changes : operator ≠ .assign) : operator.combine current operand = .ok new ↔
      ∃ binary, operator.binary? = some binary ∧ operator.fits current = true ∧
        binary.apply current operand = .ok new := by
  unfold combine
  cases isBinary : operator.binary? with
  | none => exact absurd (by cases operator <;> trivial) changes
  | some binary =>
    dsimp only
    by_cases fits : operator.fits current = true
    · rw [if_pos fits]
      constructor
      · exact fun applied => ⟨binary, rfl, fits, applied⟩
      · rintro ⟨_, ⟨⟩, -, applied⟩
        exact applied
    · rw [if_neg fits]
      constructor
      · exact nofun
      · rintro ⟨_, -, isFit, -⟩
        exact absurd isFit fits

/-! ### Targets -/

/-- What a target holds after it has been given a value, where it takes the value at all. Options that are on
or off hold one or zero, and the register that keeps nothing takes every text. -/
inductive Environment.Takes (environment : Environment) : Target → Value → Value → Prop where
  | var {name : String} {value : Value}
      (writable : Variables.isReadOnly (Variables.fullName name) = false) :
      Takes environment (.var name) value value
  | bool {name : String} {scope : Scope} {slot : OptionSlot} {value : Value} {n : Int64}
      (found : environment.options.find name = .ok slot) (isBool : slot.definition.kind = .bool)
      (noText : value.type ≠ .string) (gives : value.toInteger = .ok n) :
      Takes environment (.option name scope) value (.number (if n = 0 then 0 else 1))
  | number {name : String} {scope : Scope} {slot : OptionSlot} {value : Value} {n : Int64}
      (found : environment.options.find name = .ok slot) (isNumber : slot.definition.kind = .number)
      (noText : value.type ≠ .string) (gives : value.toInteger = .ok n) (nonneg : 0 ≤ n) :
      Takes environment (.option name scope) value (.number n)
  | string {name : String} {scope : Scope} {slot : OptionSlot} {text : String}
      (found : environment.options.find name = .ok slot) (isString : slot.definition.kind = .string)
      (isWord : ∀ words, slot.definition.grammar = .oneOf words → text ∈ words) :
      Takes environment (.option name scope) (.string text) (.string text)
  | register {name : Char} {value : Value} {text : String} (kept : name ≠ '_')
      (replaced : name.isUpper = false) (gives : value.toText = .ok text) :
      Takes environment (.register name) value (.string text)
  | appended {name : Char} {value : Value} {text : String} (upper : name.isUpper = true)
      (gives : value.toText = .ok text) :
      Takes environment (.register name) value (.string (String.ofList
        ((environment.registers.get (some name)).append text.toList
          (Register.ofText text.toList).kind).content))
  | blackHole {value : Value} {text : String} (gives : value.toText = .ok text) :
      Takes environment (.register '_') value (.string "")
  | env {name : String} {value : Value} {text : String} (gives : value.toText = .ok text) :
      Takes environment (.env name) value (.string text)

/-- Whether a target keeps what it is given as a whole: every target but list options, whose tokens count one
by one, and characters that name no register. -/
def Environment.IsPlain (environment : Environment) : Target → Prop
  | .var _ | .env _ => True
  | .option name _ => ∀ slot, environment.options.find name = .ok slot → slot.definition.kind ≠ .list
  | .register name => isRegisterName name = true

/-- Whether everything that a target does not name is as it was. With a register the unnamed one is written,
unless nothing is kept, and with the unnamed one that of the last copied text. -/
structure Environment.KeepsOthers (environment : Environment) (target : Target) (after : Environment) :
    Prop where
  vars : ∀ name, (∀ own, target = .var own → Variables.fullName name ≠ Variables.fullName own) →
    after.vars.get? name = environment.vars.get? name
  env : ∀ name, target ≠ .env name → after.vars.environment? name = environment.vars.environment? name
  options : ∀ name scope,
    (∀ own ownScope slot other, target = .option own ownScope → environment.options.find own = .ok slot →
      environment.options.find name = .ok other → other.definition.name ≠ slot.definition.name) →
    after.options.get scope name = environment.options.get scope name
  registers : ∀ slot,
    (∀ own, target = .register own → RegisterSlot.ofName? (some own) ≠ some slot ∧
      (slot = .unnamed → own = '_') ∧ (slot = .lastYank → own ≠ '"')) →
    after.registers.read slot = environment.registers.read slot

namespace Environment

variable {environment : Environment}

/-- What a write leads to: the target holds what it takes, and nothing else has changed, or all is as it was
and the target takes nothing of the value. -/
inductive AllOrNothing (environment : Environment) (target : Target) (value : Value) : Prop where
  | done {after : Environment} {held : Value} (written : environment.write target value = (after, .ok ()))
      (takes : environment.Takes target value held) (reads : after.read target = .ok held)
      (keeps : environment.KeepsOthers target after)
  | refused {error : ScriptError} (written : environment.write target value = (environment, .error error))
      (takesNot : ∀ held, ¬ environment.Takes target value held)

theorem write_var (name : String) (value : Value) : environment.AllOrNothing (.var name) value := by
  cases isReadOnly : Variables.isReadOnly (Variables.fullName name) with
  | true =>
    have refused : environment.vars.set name value = .error (.readOnlyVariable name) := if_pos isReadOnly
    have written : environment.write (.var name) value = (environment, .error (.readOnlyVariable name)) := by
      simp only [write, refused]
    refine .refused written fun held takes => ?_
    cases takes with
    | var writable => exact absurd (isReadOnly.symm.trans writable) nofun
  | false =>
    have set : environment.vars.set name value = .ok { environment.vars with
        values := Variables.insertSorted (Variables.fullName name) value environment.vars.values } :=
      if_neg (Bool.eq_false_iff.mp isReadOnly)
    have written : environment.write (.var name) value =
        ({ environment with vars := { environment.vars with
          values := Variables.insertSorted (Variables.fullName name) value environment.vars.values } },
          .ok ()) := by
      simp only [write, set]
    refine .done written (.var isReadOnly) ?_ ⟨fun other apart => ?_, ?_, ?_, ?_⟩
    · simp only [read, Environment.variable, Variables.get?_set set]
    · exact Variables.get?_set_of_ne set (apart name rfl)
    · exact fun _ _ => rfl
    · exact fun _ _ _ => rfl
    · exact fun _ _ => rfl

theorem write_env (name : String) (value : Value) : environment.AllOrNothing (.env name) value := by
  cases gives : value.toText with
  | error error =>
    have written : environment.write (.env name) value = (environment, .error error) := by
      simp only [write, gives]
    refine .refused written fun held takes => ?_
    cases takes with
    | env isText => exact absurd (gives.symm.trans isText) nofun
  | ok text =>
    have written : environment.write (.env name) value =
        ({ environment with vars := environment.vars.setEnvironment name text }, .ok ()) := by
      simp only [write, gives]
    have others (other : String) : (environment.vars.setEnvironment name text).environment? other =
        if other = name then some text else environment.vars.environment? other :=
      Dict.get?_insert name other text environment.vars.environment
    refine .done written (.env gives) ?_ ⟨?_, fun other apart => ?_, ?_, ?_⟩
    · simp only [read, others, if_true, Option.getD_some]
    · exact fun _ _ => rfl
    · have differs : other ≠ name := fun same => apart (congrArg Target.env same.symm)
      exact (others other).trans (if_neg differs)
    · exact fun _ _ _ => rfl
    · exact fun _ _ => rfl

theorem write_register {name : Char} (isName : isRegisterName name = true) (value : Value) :
    environment.AllOrNothing (.register name) value := by
  cases gives : value.toText with
  | error error =>
    have written : environment.write (.register name) value = (environment, .error error) := by
      simp only [write, gives]
    refine .refused written fun held takes => ?_
    cases takes with
    | register _ _ isText | appended _ isText | blackHole isText =>
      exact absurd (gives.symm.trans isText) nofun
  | ok text =>
    have written : environment.write (.register name) value =
        (environment.setRegister name text, .ok ()) := by
      simp only [write, gives]
    have keeps : environment.KeepsOthers (.register name) (environment.setRegister name text) := by
      refine ⟨fun _ _ => rfl, fun _ _ => rfl, fun _ _ _ => rfl, fun slot others => ?_⟩
      obtain ⟨other, unnamed, lastYank⟩ := others name rfl
      exact RegisterFile.read_set_of_others isName other unnamed lastYank
    have holds : (environment.setRegister name text).read (.register name) =
        .ok (.string (String.ofList
          ((environment.registers.set name text.toList).get (some name)).content)) := rfl
    rw [RegisterFile.get_set isName] at holds
    split at holds
    · rename_i isHole
      subst isHole
      exact .done written (.blackHole gives) holds keeps
    · rename_i kept
      split at holds
      · rename_i upper
        exact .done written (.appended upper gives) holds keeps
      · rename_i notUpper
        rw [Register.ofText, String.ofList_toList] at holds
        exact .done written (.register kept (Bool.eq_false_iff.mpr notUpper) gives) holds keeps

section Option

variable {name : String} {scope : Scope} {slot : OptionSlot} {value : Value} {given stored : OptionValue}

/-- An option that is written reads as what has been stored, and the others read as before. -/
theorem allOrNothing_of_stored (found : environment.options.find name = .ok slot)
    (gives : value.toOption = .ok given)
    (set : environment.options.set scope name given =
      (environment.options.write scope slot stored, .ok ()))
    (takes : environment.Takes (.option name scope) value (.ofOption stored)) :
    environment.AllOrNothing (.option name scope) value := by
  have written : environment.write (.option name scope) value =
      ({ environment with options := environment.options.write scope slot stored }, .ok ()) := by
    simp only [write, setOption, gives, set]
    rfl
  refine .done written takes ?_ ⟨?_, ?_, fun other ownScope others => ?_, ?_⟩
  · simp only [read, Environment.option, Options.get_write found]
  · exact fun _ _ => rfl
  · exact fun _ _ => rfl
  · refine Options.get_write_of_others (fun own isOwn => ?_) ownScope
    exact others name scope slot own rfl found (Options.find_eq_ok.mpr isOwn)
  · exact fun _ _ => rfl

theorem allOrNothing_of_refused {reason : EditorError} (gives : value.toOption = .ok given)
    (set : environment.options.set scope name given = (environment.options, .error reason))
    (takesNot : ∀ held, ¬ environment.Takes (.option name scope) value held) :
    environment.AllOrNothing (.option name scope) value := by
  have written : environment.write (.option name scope) value =
      (environment, .error (.editor reason)) := by
    simp only [write, setOption, gives, set]
    rfl
  exact .refused written takesNot

/-- An option that is not there takes nothing. -/
theorem write_option_unknown {error : EditorError} (unknown : environment.options.find name = .error error)
    (value : Value) : environment.AllOrNothing (.option name scope) value := by
  have takesNot (held : Value) : ¬ environment.Takes (.option name scope) value held := by
    intro takes
    cases takes with
    | bool found | number found | string found => exact absurd (unknown.symm.trans found) nofun
  cases gives : value.toOption with
  | error reason => exact .refused (by simp only [write, setOption, gives]; rfl) takesNot
  | ok given =>
    have set : environment.options.set scope name given = (environment.options, .error error) := by
      simp only [Options.set, unknown]
    exact allOrNothing_of_refused gives set takesNot

theorem write_option_text (text : String) (found : environment.options.find name = .ok slot)
    (notList : slot.definition.kind ≠ .list) :
    environment.AllOrNothing (.option name scope) (.string text) := by
  rcases Options.set_string_cases found notList text with
    ⟨⟨isString, isWord⟩, set⟩ | ⟨unfit, reason, set⟩
  · exact allOrNothing_of_stored found rfl set (.string found isString isWord)
  · refine allOrNothing_of_refused rfl set fun held takes => ?_
    cases takes with
    | bool _ _ noText | number _ _ noText => exact noText rfl
    | string isFound isString isWord =>
      cases found.symm.trans isFound
      exact unfit ⟨isString, isWord⟩

theorem write_option_number (noText : value.type ≠ .string)
    (found : environment.options.find name = .ok slot) :
    environment.AllOrNothing (.option name scope) value := by
  have gives : value.toOption = value.toInteger.map .number := by
    cases value with
    | string text => exact absurd rfl noText
    | number | float | list | dict | funcref | blob => rfl
  cases isInteger : value.toInteger with
  | error error =>
    rw [isInteger] at gives
    have written : environment.write (.option name scope) value = (environment, .error error) := by
      simp only [write, setOption, gives]
      rfl
    refine .refused written fun held takes => ?_
    cases takes with
    | bool _ _ _ isNumber | number _ _ _ isNumber => exact absurd (isInteger.symm.trans isNumber) nofun
    | string => exact noText rfl
  | ok n =>
    rw [isInteger] at gives
    rcases Options.set_number_cases found n with
      ⟨isBool, set⟩ | ⟨⟨isNumber, nonneg⟩, set⟩ | ⟨notBool, unfit, reason, set⟩
    · have same : Value.ofOption (.bool (n != 0)) = .number (if n = 0 then 0 else 1) := by
        by_cases zero : n = 0 <;> simp [Value.ofOption, Value.ofBool, zero]
      exact allOrNothing_of_stored found gives set (same ▸ .bool found isBool noText isInteger)
    · exact allOrNothing_of_stored found gives set (.number found isNumber noText isInteger nonneg)
    · refine allOrNothing_of_refused gives set fun held takes => ?_
      cases takes with
      | bool isFound isBool =>
        cases found.symm.trans isFound
        exact notBool isBool
      | number isFound isNumber _ isValue nonneg =>
        cases found.symm.trans isFound
        cases isInteger.symm.trans isValue
        exact unfit ⟨isNumber, nonneg⟩
      | string => exact noText rfl

end Option

theorem write_plain {target : Target} (plain : environment.IsPlain target) (value : Value) :
    environment.AllOrNothing target value := by
  cases target with
  | var name => exact write_var name value
  | env name => exact write_env name value
  | register name => exact write_register plain value
  | option name scope =>
    cases found : environment.options.find name with
    | error error => exact write_option_unknown found value
    | ok slot =>
      by_cases isText : value.type = .string
      · cases value with
        | string text => exact write_option_text text found (plain slot found)
        | number | float | list | dict | funcref | blob => cases isText
      · exact write_option_number isText found

/-- The values that an assignment may bring: that of the operand, or the one that the operator makes of it and
of what the target holds. -/
def Brings (environment : Environment) (target : Target) (operator : AssignOperator) (operand : Expr)
    (new : Value) : Prop :=
  ∃ value, operand.eval environment = .ok value ∧
    (operator = .assign ∧ new = value ∨ ∃ binary old, operator.binary? = some binary ∧
      environment.read target = .ok old ∧ operator.fits old = true ∧ binary.apply old value = .ok new)

theorem brings_iff {target : Target} {operator : AssignOperator} {operand : Expr} {new : Value} :
    environment.Brings target operator operand new ↔
      environment.assignedValue target operator operand = .ok new := by
  unfold Brings assignedValue
  cases operand.eval environment with
  | error error => exact ⟨nofun, nofun⟩
  | ok value =>
    by_cases plain : operator = .assign
    · subst plain
      constructor
      · rintro ⟨_, ⟨⟩, ⟨-, rfl⟩ | ⟨_, _, none, -⟩⟩
        · rfl
        · cases none
      · exact fun isValue => ⟨new, isValue, .inl ⟨rfl, rfl⟩⟩
    · dsimp only [bind, Except.bind]
      rw [if_neg plain]
      cases environment.read target with
      | error error =>
        constructor
        · rintro ⟨_, -, ⟨same, -⟩ | ⟨_, _, -, isOld, -⟩⟩
          · exact absurd same plain
          · cases isOld
        · exact nofun
      | ok old =>
        refine Iff.trans ?_ (AssignOperator.combine_eq_ok plain).symm
        constructor
        · rintro ⟨_, ⟨⟩, ⟨same, -⟩ | ⟨binary, _, isBinary, ⟨⟩, fits, applied⟩⟩
          · exact absurd same plain
          · exact ⟨binary, isBinary, fits, applied⟩
        · rintro ⟨binary, isBinary, fits, applied⟩
          exact ⟨value, rfl, .inr ⟨binary, old, isBinary, rfl, fits, applied⟩⟩

/-- An assignment to a variable, a register, an environment variable or an option that is no list fails and
leaves everything as it was, or succeeds: then the target holds what it takes of the new value, and nothing
else has changed but the registers that go along. It succeeds just if there is a new value that the target
takes. -/
theorem assign_all_or_nothing {target : Target} (plain : environment.IsPlain target)
    (operator : AssignOperator) (operand : Expr) :
    (∃ after new held, environment.assign target operator operand = (after, .ok ()) ∧
      environment.Brings target operator operand new ∧ environment.Takes target new held ∧
      after.read target = .ok held ∧ environment.KeepsOthers target after) ∨
    ((∃ error, environment.assign target operator operand = (environment, .error error)) ∧
      ∀ new held, environment.Brings target operator operand new → ¬ environment.Takes target new held) := by
  cases assigned : environment.assignedValue target operator operand with
  | error error =>
    refine .inr ⟨⟨error, by simp only [assign, assigned]⟩, fun new held brings => ?_⟩
    exact absurd (assigned.symm.trans (brings_iff.mp brings)) nofun
  | ok new =>
    have isWrite : environment.assign target operator operand = environment.write target new := by
      simp only [assign, assigned]
    rw [isWrite]
    cases write_plain plain new with
    | done written takes reads keeps =>
      exact .inl ⟨_, new, _, written, brings_iff.mpr assigned, takes, reads, keeps⟩
    | refused written takesNot =>
      refine .inr ⟨⟨_, written⟩, fun other held brings => ?_⟩
      cases assigned.symm.trans (brings_iff.mp brings)
      exact takesNot held

/-- A register of whole lines, put together with a text and appended to itself. -/
theorem assign_all_or_nothing_appended :
    let environment : Environment :=
      { registers := ({} : RegisterFile).write (.named 0) ⟨['x', '\n'], .line⟩ }
    environment.IsPlain (.register 'A') ∧
      ∃ after, environment.assign (.register 'A') .concat (.str "y") = (after, .ok ()) ∧
        (after.registers.get (some 'A')).content = ['x', '\n', 'x', '\n', 'y'] ∧
        environment.KeepsOthers (.register 'A') after := by
  intro environment
  have plain : environment.IsPlain (.register 'A') := by rfl
  have holds : ((environment.assign (.register 'A') .concat (.str "y")).1.registers.get (some 'A')).content =
      ['x', '\n', 'x', '\n', 'y'] := by decide +zetaReduce
  refine ⟨plain, ?_⟩
  rcases assign_all_or_nothing plain .concat (.str "y") with
    ⟨after, _, _, assigned, _, _, _, keeps⟩ | ⟨⟨error, failed⟩, -⟩
  · rw [assigned] at holds
    exact ⟨after, assigned, holds, keeps⟩
  · have before : (environment.registers.get (some 'A')).content ≠ ['x', '\n', 'x', '\n', 'y'] := by
      decide +zetaReduce
    rw [failed] at holds
    exact absurd holds before

end Environment

end ModalEdit.Script

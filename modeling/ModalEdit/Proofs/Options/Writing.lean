import Mathlib.Data.List.Nodup
import Mathlib.Data.List.Pairwise
import ModalEdit.Options.Basic

/-!
Writing an option: what its scopes read afterwards, and that every other option stays as it is.
-/

set_option autoImplicit false

namespace ModalEdit

namespace OptionDefinition

theorem hasName_iff {definition : OptionDefinition} {name : String} :
    definition.hasName name = true ↔ name ∈ [definition.name, definition.abbreviation] := by
  simp only [hasName, Bool.or_eq_true, beq_iff_eq, List.mem_cons, List.not_mem_nil, or_false,
    @eq_comm _ name]

theorem hasName_self (definition : OptionDefinition) :
    definition.hasName definition.name = true :=
  hasName_iff.mpr List.mem_cons_self

/-- No two options share a name, full or short. -/
theorem eq_of_hasName {name : String} {first second : OptionDefinition} (isFirst : first ∈ all)
    (isSecond : second ∈ all) (namesFirst : first.hasName name = true)
    (namesSecond : second.hasName name = true) : first = second := by
  have distinct : (all.flatMap fun definition => [definition.name, definition.abbreviation]).Nodup :=
    by decide
  have apart := (List.nodup_flatMap.mp distinct).2
  have symmetric : Std.Symm (Function.onFun List.Disjoint
      fun definition : OptionDefinition => [definition.name, definition.abbreviation]) :=
    ⟨fun _ _ disjoint _ isSecond isFirst => disjoint isFirst isSecond⟩
  by_contra differ
  have disjoint := apart.forall isFirst isSecond differ
  exact disjoint (hasName_iff.mp namesFirst) (hasName_iff.mp namesSecond)

end OptionDefinition

namespace OptionSlot

variable {slot : OptionSlot} {scope : Scope} {value : OptionValue}

@[simp] theorem definition_write : (slot.write scope value).definition = slot.definition := by
  unfold write
  split <;> rfl

/-- What a scope has written it reads. -/
@[simp] theorem read_write : (slot.write scope value).read scope = value := by
  unfold read write
  cases reach : slot.definition.reach <;> cases scope <;> simp [reach]

/-- What a scope has already, it may be given again. -/
theorem read_both_write_self :
    (slot.write scope (slot.read scope)).read .both = slot.read .both := by
  unfold read write
  cases reach : slot.definition.reach <;> cases scope <;> simp [reach]

/-- A write puts the value into the places of its scope, and leaves what was there elsewhere. -/
theorem global_write (slot : OptionSlot) (scope : Scope) (value : OptionValue) :
    (slot.write scope value).global = value ∨
    (slot.write scope value).global = slot.global := by
  unfold write
  cases slot.definition.reach <;> cases scope <;> simp

theorem local_write (slot : OptionSlot) (scope : Scope) (value : OptionValue) :
    (slot.write scope value).local? = some value ∨
    (slot.write scope value).local? = slot.local? ∨ (slot.write scope value).local? = none := by
  unfold write
  cases slot.definition.reach <;> cases scope <;> simp

end OptionSlot

namespace Options

variable {options : Options} {scope : Scope} {slot other : OptionSlot} {value : OptionValue}
  {name : String}

theorem find_eq_ok : options.find name = .ok slot ↔ options.find? name = some slot := by
  unfold find
  split <;> simp_all

theorem mem_of_find (found : options.find name = .ok slot) :
    slot ∈ options.slots ∧ slot.definition.hasName name = true := by
  have found : options.slots.find? (·.definition.hasName name) = some slot := find_eq_ok.mp found
  have named := List.find?_some found
  exact ⟨List.mem_of_find?_eq_some found, named⟩

theorem slots_write : (options.write scope slot value).slots = options.slots.map fun other =>
    if other.definition.name = slot.definition.name then other.write scope value else other := by
  unfold write
  dsimp only
  split <;> rfl

@[simp] theorem definitions_write :
    (options.write scope slot value).slots.map (·.definition) =
      options.slots.map (·.definition) := by
  rw [slots_write, List.map_map]
  apply List.map_congr_left
  intro other _
  show (if other.definition.name = slot.definition.name then other.write scope value
    else other).definition = other.definition
  split
  · exact OptionSlot.definition_write
  · rfl

/-- A write of an option changes what is found under its names, and nothing else. -/
theorem find?_write : (options.write scope slot value).find? name =
    (options.find? name).map fun other =>
      if other.definition.name = slot.definition.name then other.write scope value else other := by
  unfold find?
  rw [slots_write, List.find?_map]
  have sameName : ((·.definition.hasName name) ∘ fun other : OptionSlot =>
      if other.definition.name = slot.definition.name then other.write scope value else other) =
      (·.definition.hasName name) := by
    funext other
    simp only [Function.comp_apply]
    split
    · rw [OptionSlot.definition_write]
    · rfl
  rw [sameName]

theorem get_of_find (found : options.find name = .ok slot) (scope : Scope) :
    options.get scope name = .ok (slot.read scope) := by
  rw [get, found]
  rfl

/-- What is written under a name is read under it. -/
theorem get_write_of_find (found : options.find name = .ok slot) (other : Scope) :
    (options.write scope slot value).get other name = .ok ((slot.write scope value).read other) := by
  refine get_of_find ?_ other
  rw [find_eq_ok, find?_write, find_eq_ok.mp found, Option.map_some, if_pos rfl]

/-- What is written in a scope is what that scope reads. -/
theorem get_write (found : options.find name = .ok slot) :
    (options.write scope slot value).get scope name = .ok value := by
  rw [get_write_of_find found, OptionSlot.read_write]

/-- The names of other options read what they have read before. -/
theorem get_write_of_others
    (others : ∀ own, options.find? name = some own → own.definition.name ≠ slot.definition.name)
    (other : Scope) : (options.write scope slot value).get other name = options.get other name := by
  have same : (options.write scope slot value).find? name = options.find? name := by
    rw [find?_write]
    cases found : options.find? name with
    | none => rfl
    | some own => rw [Option.map_some, if_neg (others own found)]
  rw [get, get, find, find, same]

section Declared

variable (definitions : options.slots.map (·.definition) = OptionDefinition.all)

include definitions

theorem declared_of_mem (member : slot ∈ options.slots) : slot.definition ∈ OptionDefinition.all :=
  definitions ▸ List.mem_map_of_mem member

/-- Only one place holds the values of an option. -/
theorem eq_of_name (member : slot ∈ options.slots) (among : other ∈ options.slots)
    (sameName : slot.definition.name = other.definition.name) : slot = other := by
  have distinct : (options.slots.map (·.definition)).Nodup := by
    rw [definitions]
    decide
  refine List.inj_on_of_nodup_map distinct member among ?_
  exact OptionDefinition.eq_of_hasName (declared_of_mem definitions member)
    (declared_of_mem definitions among) (OptionDefinition.hasName_self _)
    (sameName ▸ OptionDefinition.hasName_self _)

/-- A name finds the values of the option that it belongs to. -/
theorem find?_definition (found : options.find name = .ok slot) :
    OptionDefinition.find? name = some slot.definition := by
  unfold OptionDefinition.find?
  rw [← definitions, List.find?_map]
  exact congrArg (Option.map (·.definition)) (find_eq_ok.mp found)

/-- Every name of an option finds it. -/
theorem find?_of_hasName (member : slot ∈ options.slots)
    (named : slot.definition.hasName name = true) : options.find? name = some slot := by
  cases isFound : options.find? name with
  | none => exact absurd named (List.find?_eq_none.mp isFound slot member)
  | some own =>
    obtain ⟨among, ownNamed⟩ := mem_of_find (find_eq_ok.mpr isFound)
    have same := OptionDefinition.eq_of_hasName (declared_of_mem definitions among)
      (declared_of_mem definitions member) ownNamed named
    rw [eq_of_name definitions among member (congrArg OptionDefinition.name same)]

/-- A write decides the value in effect under the names of its option, and under no others. -/
theorem value?_write (member : slot ∈ options.slots) :
    (options.write scope slot value).value? name =
      if slot.definition.hasName name then some ((slot.write scope value).read .both)
      else options.value? name := by
  unfold value?
  rw [find?_write]
  split
  · rename_i named
    rw [find?_of_hasName definitions member named, Option.map_some, if_pos rfl, Option.map_some]
  · rename_i unnamed
    cases isFound : options.find? name with
    | none => rfl
    | some own =>
      obtain ⟨among, named⟩ := mem_of_find (find_eq_ok.mpr isFound)
      have others : own.definition.name ≠ slot.definition.name := fun sameName =>
        unnamed (eq_of_name definitions among member sameName ▸ named)
      rw [Option.map_some, if_neg others]

/-- What is written where it stands already changes no value in effect. -/
theorem value?_write_self (member : slot ∈ options.slots) :
    (options.write scope slot (slot.read scope)).value? name = options.value? name := by
  rw [value?_write definitions member]
  split
  · rename_i named
    rw [OptionSlot.read_both_write_self, value?, find?_of_hasName definitions member named,
      Option.map_some]
  · rfl

end Declared

end Options

end ModalEdit

import ModalEdit.Mapping
import Mathlib.Data.List.Basic

/-!
A table of mappings stands for a finite map: each mode has its own, from keys to what they stand for.
Defining a mapping overwrites, removing one erases, and looking keys up reads, whatever operations have
come before and whether they failed or not.

What becomes of the keys typed so far is read off that map. They wait while more keys may make them a longer
mapping. Otherwise the longest of the first keys that are mapped is expanded, and where none are mapped the first
key stands for itself.
-/

set_option autoImplicit false

namespace ModalEdit

namespace MapModes

theorem contains_inter (first second : MapModes) (mode : MapMode) :
    (first.inter second).contains mode = (first.contains mode && second.contains mode) := by
  cases mode <;> rfl

theorem contains_diff (first second : MapModes) (mode : MapMode) :
    (first.diff second).contains mode = (first.contains mode && !second.contains mode) := by
  cases mode <;> rfl

theorem contains_none (mode : MapMode) : none.contains mode = false := by
  cases mode <;> rfl

theorem contains_single (mode other : MapMode) :
    (single mode).contains other = decide (mode = other) := by
  cases mode <;> cases other <;> rfl

/-- A set of modes is what it contains. -/
theorem ext_contains {first second : MapModes}
    (same : ∀ mode, first.contains mode = second.contains mode) : first = second := by
  obtain ⟨normal, visual, select, operatorPending, insert⟩ := first
  have inNormal := same .normal
  have inVisual := same .visual
  have inSelect := same .select
  have inOperatorPending := same .operatorPending
  have inInsert := same .insert
  simp only [contains] at inNormal inVisual inSelect inOperatorPending inInsert
  rw [inNormal, inVisual, inSelect, inOperatorPending, inInsert]

theorem ne_none_iff {modes : MapModes} : modes ≠ none ↔ ∃ mode, modes.contains mode = true := by
  constructor
  · intro some
    by_contra empty
    refine some (ext_contains fun mode => ?_)
    rw [contains_none]
    exact Bool.eq_false_iff.mpr fun here => empty ⟨mode, here⟩
  · rintro ⟨mode, here⟩ same
    rw [same, contains_none] at here
    cases here

theorem meet_iff {first second : MapModes} : first.meet second = true ↔
    ∃ mode, first.contains mode = true ∧ second.contains mode = true := by
  unfold meet
  rw [bne_iff_ne, ne_none_iff]
  simp only [contains_inter, Bool.and_eq_true]

theorem meet_single {modes : MapModes} {mode : MapMode} :
    modes.meet (single mode) = modes.contains mode := by
  rw [Bool.eq_iff_iff, meet_iff]
  simp only [contains_single, decide_eq_true_eq, exists_eq_right']

end MapModes

/-- What can be done to mappings. -/
inductive MappingOperation where
  | define (mapping : Mapping)
  | remove (modes : MapModes) (lhs : List Key)
deriving DecidableEq, Inhabited

/-- What keys stand for in each mode, and whether that is final. -/
abbrev KeyMap := MapMode → List Key → Option (List Key × Bool)

namespace KeyMap

/-- Nothing is mapped. -/
def empty : KeyMap := fun _ _ => none

/-- The map with other results, or none, for some keys in some modes. -/
def overwrite (map : KeyMap) (modes : MapModes) (lhs : List Key)
    (result? : Option (List Key × Bool)) : KeyMap := fun mode keys =>
  if keys = lhs ∧ modes.contains mode = true then result? else map mode keys

/-- The map after an operation. Without keys or modes nothing can be defined. -/
def perform (map : KeyMap) : MappingOperation → KeyMap
  | .define mapping =>
    if mapping.lhs = [] ∨ mapping.modes = .none then map
    else map.overwrite mapping.modes mapping.lhs (some (mapping.rhs, mapping.noremap))
  | .remove modes lhs => map.overwrite modes lhs none

/-- The map after operations, one after the other. -/
def performAll (map : KeyMap) (operations : List MappingOperation) : KeyMap :=
  operations.foldl perform map

end KeyMap

namespace MappingTable

/-- What an operation comes down to. -/
def perform (table : MappingTable) : MappingOperation → Except EditorError MappingTable
  | .define mapping => table.define mapping
  | .remove modes lhs => table.remove modes lhs

/-- The table after operations, one after the other. Those that fail leave it as it is. -/
def performAll (table : MappingTable) (operations : List MappingOperation) : MappingTable :=
  operations.foldl (fun table operation => (table.perform operation).toOption.getD table) table

/-- A table stands for a map: it has one entry for whatever is mapped in a mode, and no others. -/
structure Represents (table : MappingTable) (map : KeyMap) : Prop where
  mapped : ∀ mode keys result, map mode keys = some result ↔
    ∃ entry ∈ table.entries, entry.lhs = keys ∧ entry.modes.contains mode = true ∧
      (entry.rhs, entry.noremap) = result
  apart : table.entries.Pairwise fun first second =>
    first.lhs = second.lhs → first.modes.meet second.modes = false
  proper : ∀ entry ∈ table.entries, entry.lhs ≠ [] ∧ entry.modes ≠ .none

variable {table after : MappingTable} {map : KeyMap}

theorem represents_empty : Represents {} KeyMap.empty where
  mapped := by
    intro mode keys result
    constructor
    · exact nofun
    · rintro ⟨entry, member, _⟩
      cases member
  apart := List.Pairwise.nil
  proper := fun _ member => nomatch member

/-- What is left of an entry when keys are no longer mapped in some modes. -/
def leftOf (modes : MapModes) (lhs : List Key) (entry : Mapping) : Mapping :=
  if entry.lhs = lhs then { entry with modes := entry.modes.diff modes } else entry

theorem entries_clear (table : MappingTable) (modes : MapModes) (lhs : List Key) :
    (table.clear modes lhs).entries =
      (table.entries.map (leftOf modes lhs)).filter (·.modes != .none) := rfl

theorem leftOf_keeps (modes : MapModes) (lhs : List Key) (entry : Mapping) :
    (leftOf modes lhs entry).lhs = entry.lhs ∧ (leftOf modes lhs entry).rhs = entry.rhs ∧
      (leftOf modes lhs entry).noremap = entry.noremap := by
  unfold leftOf
  split <;> exact ⟨rfl, rfl, rfl⟩

theorem contains_leftOf (modes : MapModes) (lhs : List Key) (entry : Mapping) (mode : MapMode) :
    (leftOf modes lhs entry).modes.contains mode = true ↔
      entry.modes.contains mode = true ∧ ¬(entry.lhs = lhs ∧ modes.contains mode = true) := by
  unfold leftOf
  split
  · rename_i same
    simp only [MapModes.contains_diff, Bool.and_eq_true, Bool.not_eq_true', same, true_and,
      Bool.not_eq_true]
  · rename_i other
    simp only [other, false_and, not_false_eq_true, and_true]

/-- Clearing keys erases them. -/
theorem Represents.clear (represents : table.Represents map) (modes : MapModes) (lhs : List Key) :
    (table.clear modes lhs).Represents (map.overwrite modes lhs none) := by
  have mem {entry : Mapping} : entry ∈ (table.clear modes lhs).entries ↔
      (∃ old ∈ table.entries, leftOf modes lhs old = entry) ∧ entry.modes ≠ .none := by
    rw [entries_clear, List.mem_filter, List.mem_map, bne_iff_ne]
  constructor
  · intro mode keys result
    unfold KeyMap.overwrite
    split
    · rename_i erased
      constructor
      · exact nofun
      · rintro ⟨entry, member, sameKeys, here, _⟩
        obtain ⟨⟨old, _, rfl⟩, _⟩ := mem.mp member
        have notErased := ((contains_leftOf modes lhs old mode).mp here).2
        rw [(leftOf_keeps modes lhs old).1] at sameKeys
        exact absurd ⟨sameKeys.trans erased.1, erased.2⟩ notErased
    · rename_i notErased
      rw [represents.mapped]
      constructor
      · rintro ⟨old, member, rfl, here, same⟩
        obtain ⟨sameKeys, sameResult, final⟩ := leftOf_keeps modes lhs old
        have still := (contains_leftOf modes lhs old mode).mpr ⟨here, notErased⟩
        refine ⟨_, mem.mpr ⟨⟨old, member, rfl⟩, MapModes.ne_none_iff.mpr ⟨mode, still⟩⟩, sameKeys,
          still, ?_⟩
        rw [sameResult, final]
        exact same
      · rintro ⟨entry, member, sameKeys, here, same⟩
        obtain ⟨⟨old, wasThere, rfl⟩, _⟩ := mem.mp member
        obtain ⟨oldKeys, oldResult, final⟩ := leftOf_keeps modes lhs old
        rw [oldKeys] at sameKeys
        rw [oldResult, final] at same
        exact ⟨old, wasThere, sameKeys, ((contains_leftOf modes lhs old mode).mp here).1, same⟩
  · rw [entries_clear]
    refine List.Pairwise.filter _ (List.pairwise_map.mpr (represents.apart.imp ?_))
    intro first second apart sameKeys
    rw [(leftOf_keeps modes lhs first).1, (leftOf_keeps modes lhs second).1] at sameKeys
    -- Fewer modes cannot have one in common where all of them had none.
    refine Bool.eq_false_iff.mpr fun meet => ?_
    obtain ⟨mode, inFirst, inSecond⟩ := MapModes.meet_iff.mp meet
    have met : first.modes.meet second.modes = true := MapModes.meet_iff.mpr
      ⟨mode, ((contains_leftOf modes lhs first mode).mp inFirst).1,
        ((contains_leftOf modes lhs second mode).mp inSecond).1⟩
    rw [apart sameKeys] at met
    cases met
  · intro entry member
    obtain ⟨⟨old, wasThere, rfl⟩, some⟩ := mem.mp member
    rw [(leftOf_keeps modes lhs old).1]
    exact ⟨(represents.proper old wasThere).1, some⟩

/-- Where nothing was mapped any more, an entry for these keys and modes maps them. -/
theorem Represents.append {mapping : Mapping} (keys : mapping.lhs ≠ [])
    (modes : mapping.modes ≠ .none)
    (cleared : table.Represents (map.overwrite mapping.modes mapping.lhs none)) :
    Represents ⟨table.entries ++ [mapping]⟩
      (map.overwrite mapping.modes mapping.lhs (some (mapping.rhs, mapping.noremap))) := by
  have mem {entry : Mapping} : entry ∈ table.entries ++ [mapping] ↔
      entry ∈ table.entries ∨ entry = mapping := by
    rw [List.mem_append, List.mem_singleton]
  have gone {entry : Mapping} {mode : MapMode} (member : entry ∈ table.entries)
      (sameKeys : entry.lhs = mapping.lhs) (here : entry.modes.contains mode = true) :
      mapping.modes.contains mode = false := by
    refine Bool.eq_false_iff.mpr fun inBoth => ?_
    have still := (cleared.mapped mode entry.lhs _).mpr ⟨entry, member, rfl, here, rfl⟩
    unfold KeyMap.overwrite at still
    rw [if_pos ⟨sameKeys, inBoth⟩] at still
    cases still
  constructor
  · intro mode keys result
    unfold KeyMap.overwrite
    split
    · rename_i overwritten
      obtain ⟨rfl, here⟩ := overwritten
      rw [Option.some.injEq]
      constructor
      · intro same
        exact ⟨mapping, mem.mpr (Or.inr rfl), rfl, here, same⟩
      · rintro ⟨entry, member, sameKeys, there, same⟩
        rcases mem.mp member with old | rfl
        · rw [gone old sameKeys there] at here
          cases here
        · exact same
    · rename_i kept
      have old := cleared.mapped mode keys result
      unfold KeyMap.overwrite at old
      rw [if_neg kept] at old
      rw [old]
      constructor
      · rintro ⟨entry, member, facts⟩
        exact ⟨entry, mem.mpr (Or.inl member), facts⟩
      · rintro ⟨entry, member, sameKeys, here, same⟩
        rcases mem.mp member with old | rfl
        · exact ⟨entry, old, sameKeys, here, same⟩
        · exact absurd ⟨sameKeys.symm, here⟩ kept
  · refine List.pairwise_append.mpr ⟨cleared.apart, List.pairwise_singleton _ _, ?_⟩
    intro entry member last isLast sameKeys
    rw [List.mem_singleton.mp isLast] at sameKeys ⊢
    refine Bool.eq_false_iff.mpr fun meet => ?_
    obtain ⟨mode, inEntry, inMapping⟩ := MapModes.meet_iff.mp meet
    rw [gone member sameKeys inEntry] at inMapping
    cases inMapping
  · intro entry member
    rcases mem.mp member with old | rfl
    · exact cleared.proper entry old
    · exact ⟨keys, modes⟩

/-- Something can be removed where one of the modes has the keys. -/
theorem Represents.any_iff (represents : table.Represents map) (modes : MapModes)
    (lhs : List Key) :
    (table.entries.any fun entry => entry.lhs = lhs && entry.modes.meet modes) = true ↔
      ∃ mode, modes.contains mode = true ∧ map mode lhs ≠ none := by
  simp only [List.any_eq_true, Bool.and_eq_true, decide_eq_true_eq, MapModes.meet_iff,
    Option.ne_none_iff_exists', represents.mapped]
  constructor
  · rintro ⟨entry, member, same, mode, here, wanted⟩
    exact ⟨mode, wanted, _, entry, member, same, here, rfl⟩
  · rintro ⟨mode, wanted, _, entry, member, same, here, _⟩
    exact ⟨entry, member, same, mode, here, wanted⟩

/-- Removing keys fails just where none of the modes has them. -/
theorem Represents.remove_eq (represents : table.Represents map) (modes : MapModes)
    (lhs : List Key) :
    (∀ mode, modes.contains mode = true → map mode lhs = none) ∧
        table.remove modes lhs = .error .noSuchMapping ∨
      (∃ mode, modes.contains mode = true ∧ map mode lhs ≠ none) ∧
        table.remove modes lhs = .ok (table.clear modes lhs) := by
  have found := represents.any_iff modes lhs
  unfold remove
  split
  · rename_i some
    exact Or.inr ⟨found.mp some, rfl⟩
  · rename_i absent
    refine Or.inl ⟨fun mode wanted => ?_, rfl⟩
    by_contra mapped
    exact absent (found.mpr ⟨mode, wanted, mapped⟩)

/-- Erasing keys that no mode has changes nothing. -/
theorem overwrite_of_unmapped {modes : MapModes} {lhs : List Key}
    (unmapped : ∀ mode, modes.contains mode = true → map mode lhs = none) :
    map.overwrite modes lhs none = map := by
  funext mode keys
  unfold KeyMap.overwrite
  split
  · rename_i erased
    rw [erased.1, unmapped mode erased.2]
  · rfl

/-- An operation goes the same way for a table and the map that it stands for. -/
theorem Represents.perform (represents : table.Represents map) (operation : MappingOperation) :
    ((table.perform operation).toOption.getD table).Represents (map.perform operation) := by
  cases operation with
  | define mapping =>
    unfold MappingTable.perform KeyMap.perform define
    dsimp only
    split
    · exact represents
    · rename_i proper
      obtain ⟨keys, modes⟩ := not_or.mp proper
      exact (represents.clear mapping.modes mapping.lhs).append keys modes
  | remove modes lhs =>
    unfold MappingTable.perform KeyMap.perform
    dsimp only
    rcases represents.remove_eq modes lhs with ⟨unmapped, failed⟩ | ⟨_, removed⟩
    · rw [failed, overwrite_of_unmapped unmapped]
      exact represents
    · rw [removed]
      exact represents.clear modes lhs

/-- By induction on the operations, from any table that stands for a map. -/
theorem Represents.performAll (represents : table.Represents map)
    (operations : List MappingOperation) :
    (table.performAll operations).Represents (map.performAll operations) := by
  induction operations generalizing table map with
  | nil => exact represents
  | cons operation rest ih => exact ih (represents.perform operation)

/-- One more operation, if it fails, leaves the table as it is. -/
theorem performAll_append_of_error {operation : MappingOperation} {error : EditorError}
    (operations : List MappingOperation)
    (failed : (table.performAll operations).perform operation = .error error) :
    table.performAll (operations ++ [operation]) = table.performAll operations := by
  unfold performAll at failed ⊢
  rw [List.foldl_append, List.foldl_cons, List.foldl_nil, failed]
  rfl

theorem mem_within {modes : MapModes} {entry : Mapping} :
    entry ∈ table.within modes ↔ entry ∈ table.entries ∧ entry.modes.meet modes = true :=
  List.mem_filter

/-- The keys are looked up in the map. -/
theorem Represents.lookup_full (represents : table.Represents map) (mode : MapMode)
    (keys : List Key) :
    (table.lookup (.single mode) keys).full?.map (fun entry => (entry.lhs, entry.rhs, entry.noremap)) =
      (map mode keys).map fun result => (keys, result) := by
  have mem {entry : Mapping} : entry ∈ (table.within (.single mode)).reverse ↔
      entry ∈ table.entries ∧ entry.modes.contains mode = true := by
    rw [List.mem_reverse, mem_within, MapModes.meet_single]
  unfold lookup
  dsimp only
  cases found : (table.within (.single mode)).reverse.find? (·.lhs = keys) with
  | some entry =>
    have same : entry.lhs = keys := by
      simpa only [decide_eq_true_eq] using List.find?_some found
    obtain ⟨member, here⟩ := mem.mp (List.mem_of_find?_eq_some found)
    have mapped := (represents.mapped mode keys _).mpr ⟨entry, member, same, here, rfl⟩
    rw [mapped, Option.map_some, Option.map_some, same]
  | none =>
    cases mapped : map mode keys with
    | none => rfl
    | some result =>
      obtain ⟨entry, member, same, here, _⟩ := (represents.mapped mode keys result).mp mapped
      have absent := List.find?_eq_none.mp found entry (mem.mpr ⟨member, here⟩)
      exact absurd (decide_eq_true same) absent

/-- Keys start a mapping where longer ones that go on from them are mapped. -/
theorem Represents.lookup_starts (represents : table.Represents map) (mode : MapMode)
    (keys : List Key) :
    (table.lookup (.single mode) keys).starts = true ↔
      ∃ more, more ≠ [] ∧ map mode (keys ++ more) ≠ none := by
  unfold lookup
  simp only [List.any_eq_true, mem_within, MapModes.meet_single, Bool.and_eq_true,
    decide_eq_true_eq, List.isPrefixOf_iff_prefix, Option.ne_none_iff_exists', represents.mapped]
  constructor
  · rintro ⟨entry, ⟨member, here⟩, longer, more, goesOn⟩
    refine ⟨more, ?_, _, entry, member, goesOn.symm, here, rfl⟩
    rintro rfl
    rw [List.append_nil] at goesOn
    rw [goesOn] at longer
    exact absurd longer (Nat.lt_irrefl _)
  · rintro ⟨more, some, _, entry, member, goesOn, here, _⟩
    refine ⟨entry, ⟨member, here⟩, ?_, more, goesOn.symm⟩
    rw [goesOn, List.length_append]
    exact Nat.lt_add_of_pos_right (List.length_pos_iff.mpr some)

/-- Whatever has been defined and removed before, in whatever modes: the table stands for the map that
overwriting and erasing gives. What is looked up in a mode is what the map has for the keys, and whether
the map has longer keys that start with them. Defining fails just without keys or without modes, and
removing just where none of the modes has the keys. Then nothing changes; otherwise both do to the table
what they do to the map. -/
theorem performAll_represents (operations : List MappingOperation) :
    let table := performAll {} operations
    let map := KeyMap.empty.performAll operations
    table.Represents map ∧
    (∀ mode keys,
      ((table.lookup (.single mode) keys).full?.map
          fun entry => (entry.lhs, entry.rhs, entry.noremap)) =
        (map mode keys).map (fun result => (keys, result)) ∧
      ((table.lookup (.single mode) keys).starts = true ↔
        ∃ more, more ≠ [] ∧ map mode (keys ++ more) ≠ none)) ∧
    (∀ mapping,
      (mapping.lhs = [] ∨ mapping.modes = .none) ∧
          table.define mapping = .error (.invalidArgument (Key.spellAll mapping.lhs)) ∧
          performAll {} (operations ++ [.define mapping]) = table ∨
        (mapping.lhs ≠ [] ∧ mapping.modes ≠ .none) ∧
          ∃ after, table.define mapping = .ok after ∧
            after.Represents
              (map.overwrite mapping.modes mapping.lhs (some (mapping.rhs, mapping.noremap)))) ∧
    ∀ modes lhs,
      (∀ mode, modes.contains mode = true → map mode lhs = none) ∧
          table.remove modes lhs = .error .noSuchMapping ∧
          performAll {} (operations ++ [.remove modes lhs]) = table ∨
        (∃ mode, modes.contains mode = true ∧ map mode lhs ≠ none) ∧
          ∃ after, table.remove modes lhs = .ok after ∧
            after.Represents (map.overwrite modes lhs none) := by
  intro table map
  have represents : table.Represents map := represents_empty.performAll operations
  refine ⟨represents, ?_, ?_, ?_⟩
  · intro mode keys
    exact ⟨represents.lookup_full mode keys, represents.lookup_starts mode keys⟩
  · intro mapping
    by_cases improper : mapping.lhs = [] ∨ mapping.modes = .none
    · have failed : table.define mapping = .error (.invalidArgument (Key.spellAll mapping.lhs)) :=
        if_pos improper
      exact Or.inl ⟨improper, failed, performAll_append_of_error operations failed⟩
    · obtain ⟨keys, modes⟩ := not_or.mp improper
      have cleared := represents.clear mapping.modes mapping.lhs
      exact Or.inr ⟨⟨keys, modes⟩, _, if_neg improper, cleared.append keys modes⟩
  · intro modes lhs
    rcases represents.remove_eq modes lhs with ⟨unmapped, failed⟩ | ⟨some, removed⟩
    · exact Or.inl ⟨unmapped, failed, performAll_append_of_error operations failed⟩
    · exact Or.inr ⟨some, _, removed, represents.clear modes lhs⟩

/-- A mapping of four modes is defined anew in one of them and removed from another. -/
example :
    let keys : List Key := [.ofChar 'Q']
    let table := performAll {} [
      .define ⟨.general, keys, [.ofChar 'g', .ofChar 'q'], false⟩,
      .define ⟨.single .normal, keys, [.ofChar 'x'], true⟩,
      .remove (.single .select) keys]
    [MapMode.normal, .visual, .select, .insert].map (fun mode =>
        (table.lookup (.single mode) keys).full?.map (·.rhs)) =
      [some [.ofChar 'x'], some [.ofChar 'g', .ofChar 'q'], none, none] := by
  decide

end MappingTable

/-- How many of the keys typed so far are used up. -/
def Resolution.consumed : Resolution → Nat
  | .wait => 0
  | .raw => 1
  | .expand consumed .. => consumed

namespace KeyMap

variable {map : KeyMap} {mode : MapMode} {keys front : List Key} {result : List Key × Bool}

/-- Whether keys that go on from these are mapped. -/
def GoesOn (map : KeyMap) (mode : MapMode) (keys : List Key) : Prop :=
  ∃ more, more ≠ [] ∧ map mode (keys ++ more) ≠ none

/-- The longest of the first keys that are mapped, and what they stand for. -/
structure Longest (map : KeyMap) (mode : MapMode) (keys front : List Key)
    (result : List Key × Bool) : Prop where
  starts : front <+: keys
  mapped : map mode front = some result
  longest : ∀ other, other <+: keys → map mode other ≠ none → other.length ≤ front.length

/-- What becomes of keys that do not wait: the longest mapping among them is expanded. The result is not mapped
again if that is final, and otherwise the keys that it starts with are not mapped again if they are those
of the mapping. -/
inductive Resolves (map : KeyMap) (mode : MapMode) (keys : List Key) : Resolution → Prop where
  | expand {front rhs : List Key} {noremap : Bool}
      (longest : map.Longest mode keys front (rhs, noremap)) :
      Resolves map mode keys (.expand front.length rhs (!noremap)
        (if noremap = false ∧ front <+: rhs then front.length else 0))
  | raw (unmapped : ∀ front, front <+: keys → map mode front = none) : Resolves map mode keys .raw

theorem longest_self (mapped : map mode keys = some result) : map.Longest mode keys keys result where
  starts := List.prefix_refl keys
  mapped := mapped
  longest := fun _ starts _ => starts.length_le

/-- A key more, if the keys are not mapped with it, changes nothing. -/
theorem Resolves.append_of_unmapped {key : Key} {answer : Resolution}
    (resolves : map.Resolves mode keys answer) (unmapped : map mode (keys ++ [key]) = none) :
    map.Resolves mode (keys ++ [key]) answer := by
  cases resolves with
  | expand longest =>
    refine .expand ⟨longest.starts.trans (List.prefix_append keys [key]), longest.mapped, ?_⟩
    intro other starts mapped
    rcases List.prefix_concat_iff.mp starts with rfl | shorter
    · exact absurd unmapped mapped
    · exact longest.longest other shorter mapped
  | raw none =>
    refine .raw fun front starts => ?_
    rcases List.prefix_concat_iff.mp starts with rfl | shorter
    · exact unmapped
    · exact none front shorter

end KeyMap

theorem Mapping.expansion_prefix (mapping : Mapping) (consumed : Nat) :
    mapping.expansion consumed = .expand consumed mapping.rhs (!mapping.noremap)
      (if mapping.noremap = false ∧ mapping.lhs <+: mapping.rhs then mapping.lhs.length else 0) := by
  unfold expansion
  simp only [Bool.and_eq_true, Bool.not_eq_true', List.isPrefixOf_iff_prefix]

namespace MappingTable

variable {table : MappingTable} {map : KeyMap} {mode : MapMode} {modes : MapModes} {flush : Bool}

/-- Keys that do not wait are searched like any of the first ones. -/
theorem resolve_cons (table : MappingTable) (modes : MapModes) (key : Key) (rest : List Key)
    (flush : Bool) :
    table.resolve modes (key :: rest) flush =
      if (table.lookup modes (key :: rest)).starts = true ∧ flush = false then .wait
      else table.longestFull modes (key :: rest) (key :: rest).length := by
  have all : (key :: rest).take (rest.length + 1) = key :: rest := List.take_length (l := key :: rest)
  unfold resolve
  rw [if_neg (List.cons_ne_nil key rest)]
  simp only [Bool.and_eq_true, Bool.not_eq_true', List.length_cons, Nat.add_sub_cancel, longestFull,
    all]

theorem mem_of_full? {keys : List Key} {mapping : Mapping}
    (found : (table.lookup modes keys).full? = some mapping) :
    mapping ∈ table.within modes ∧ mapping.lhs = keys := by
  have isLhs := List.find?_some found
  exact ⟨List.mem_reverse.mp (List.mem_of_find?_eq_some found), of_decide_eq_true isLhs⟩

theorem longestFull_cases (keys : List Key) (count : Nat) :
    table.longestFull modes keys count = .raw ∨
      ∃ mapping ∈ table.within modes, ∃ others, mapping.lhs = keys.take (others + 1) ∧
        table.longestFull modes keys count = mapping.expansion (others + 1) := by
  induction count with
  | zero => exact Or.inl rfl
  | succ count ih =>
    unfold longestFull
    split
    · rename_i mapping found
      obtain ⟨member, isLhs⟩ := mem_of_full? found
      exact Or.inr ⟨mapping, member, count, isLhs, rfl⟩
    · exact ih

theorem longestFull_ne_wait (keys : List Key) (count : Nat) :
    table.longestFull modes keys count ≠ .wait := by
  rcases @longestFull_cases table modes keys count with isRaw | ⟨mapping, _, others, _, expands⟩
  · rw [isRaw]
    nofun
  · rw [expands]
    nofun

/-- Keys wait where a longer mapping starts with them, or the first of them stands for itself, or the
first of them are those of a mapping. -/
theorem resolve_cases (key : Key) (rest : List Key) :
    (table.resolve modes (key :: rest) flush = .wait ∧
        ∃ mapping ∈ table.within modes, mapping.lhs.head? = some key) ∨
      table.resolve modes (key :: rest) flush = .raw ∨
      ∃ mapping ∈ table.within modes, ∃ others, mapping.lhs = (key :: rest).take (others + 1) ∧
        table.resolve modes (key :: rest) flush = mapping.expansion (others + 1) := by
  rw [resolve_cons]
  split
  · rename_i waits
    obtain ⟨mapping, member, longer⟩ := List.any_eq_true.mp waits.1
    obtain ⟨others, same⟩ := List.isPrefixOf_iff_prefix.mp (Bool.and_eq_true_iff.mp longer).2
    exact Or.inl ⟨rfl, mapping, member, by rw [← same]; rfl⟩
  · exact Or.inr (longestFull_cases (key :: rest) _)

/-- What is found for keys is what they are mapped to. -/
theorem Represents.of_full {keys : List Key} {mapping : Mapping} (represents : table.Represents map)
    (found : (table.lookup (.single mode) keys).full? = some mapping) :
    mapping.lhs = keys ∧ map mode keys = some (mapping.rhs, mapping.noremap) := by
  have read := represents.lookup_full mode keys
  rw [found, Option.map_some] at read
  obtain ⟨result, mapped, same⟩ := Option.map_eq_some_iff.mp read.symm
  cases same
  exact ⟨rfl, mapped⟩

theorem Represents.of_full_none {keys : List Key} (represents : table.Represents map)
    (absent : (table.lookup (.single mode) keys).full? = none) : map mode keys = none := by
  have read := represents.lookup_full mode keys
  rw [absent, Option.map_none] at read
  exact Option.map_eq_none_iff.mp read.symm

theorem Represents.unmapped_nil (represents : table.Represents map) : map mode [] = none := by
  by_contra mapped
  obtain ⟨result, mapped⟩ := Option.ne_none_iff_exists'.mp mapped
  obtain ⟨entry, member, empty, _⟩ := (represents.mapped mode [] result).mp mapped
  exact (represents.proper entry member).1 empty

/-- By induction on the number of keys: the search goes from all of them down to the first. -/
theorem Represents.resolves_longestFull (represents : table.Represents map) (mode : MapMode)
    (keys : List Key) {count : Nat} (within : count ≤ keys.length) :
    map.Resolves mode (keys.take count) (table.longestFull (.single mode) keys count) := by
  induction count with
  | zero =>
    refine .raw fun front starts => ?_
    rw [List.prefix_nil.mp starts]
    exact represents.unmapped_nil
  | succ count ih =>
    unfold longestFull
    split
    · rename_i mapping found
      obtain ⟨sameKeys, mapped⟩ := represents.of_full found
      have consumed : (keys.take (count + 1)).length = count + 1 := List.length_take_of_le within
      have expands := KeyMap.Resolves.expand (KeyMap.longest_self mapped)
      rw [consumed] at expands
      rw [Mapping.expansion_prefix, sameKeys, consumed]
      exact expands
    · rename_i absent
      have unmapped := represents.of_full_none absent
      have last : keys.take (count + 1) = keys.take count ++ [keys[count]] :=
        (List.take_append_getElem within).symm
      rw [last] at unmapped ⊢
      exact (ih (Nat.le_of_succ_le within)).append_of_unmapped unmapped

end MappingTable

/-- At least one of the keys is used up, and no more than there are. -/
theorem KeyMap.Resolves.consumed_bounds {map : KeyMap} {mode : MapMode} {keys : List Key}
    {answer : Resolution} (resolves : map.Resolves mode keys answer) (unmapped : map mode [] = none)
    (some : keys ≠ []) : 1 ≤ answer.consumed ∧ answer.consumed ≤ keys.length := by
  cases resolves with
  | raw => exact ⟨Nat.le_refl 1, List.length_pos_iff.mpr some⟩
  | @expand front rhs noremap longest =>
    refine ⟨List.length_pos_iff.mpr ?_, longest.starts.length_le⟩
    rintro rfl
    have mapped := longest.mapped
    rw [unmapped] at mapped
    cases mapped

namespace MappingTable

/-- Whatever has been defined and removed before: keys wait just if no flush is asked for and longer keys that
go on from them are mapped in the mode. If they do not wait, the longest mapping among the first of them is
expanded, or the first key stands for itself where there is none, and some of them are used up, no more
than there are. -/
theorem resolve_longest (operations : List MappingOperation) (mode : MapMode) (key : Key)
    (rest : List Key) (flush : Bool) :
    let keys := key :: rest
    let map := KeyMap.empty.performAll operations
    let answer := (performAll {} operations).resolve (.single mode) keys flush
    (answer = .wait ↔ flush = false ∧ map.GoesOn mode keys) ∧
      (flush = true → answer ≠ .wait) ∧
      (answer ≠ .wait → map.Resolves mode keys answer ∧
        1 ≤ answer.consumed ∧ answer.consumed ≤ keys.length) := by
  intro keys map answer
  have represents : (performAll {} operations).Represents map := represents_empty.performAll operations
  have answers := resolve_cons (performAll {} operations) (.single mode) key rest flush
  have starts : _ ↔ map.GoesOn mode keys := represents.lookup_starts mode keys
  by_cases waits : flush = false ∧ map.GoesOn mode keys
  · have waiting : answer = .wait := answers.trans (if_pos ⟨starts.mpr waits.2, waits.1⟩)
    refine ⟨iff_of_true waiting waits, fun flushed => ?_, fun goes => absurd waiting goes⟩
    rw [waits.1] at flushed
    cases flushed
  · have goes : answer = longestFull _ _ keys keys.length :=
      answers.trans (if_neg fun both => waits ⟨both.2, starts.mp both.1⟩)
    have notWaiting : answer ≠ .wait := goes ▸ longestFull_ne_wait keys keys.length
    have resolves := represents.resolves_longestFull mode keys (Nat.le_refl keys.length)
    rw [List.take_length, ← goes] at resolves
    exact ⟨iff_of_false notWaiting waits, fun _ => notWaiting, fun _ =>
      ⟨resolves, resolves.consumed_bounds represents.unmapped_nil (List.cons_ne_nil key rest)⟩⟩

/-- Two mappings, of which one is the start of the other. -/
example :
    let table := performAll {} [
      .define ⟨.general, [.ofChar 'g', .ofChar 'x'], [.ofChar 'd'], true⟩,
      .define ⟨.single .normal, [.ofChar 'g', .ofChar 'x', .ofChar 'y'], [.ofChar 'u'], false⟩]
    let keys : List Key := [.ofChar 'g', .ofChar 'x']
    table.resolve (.single .normal) keys false = .wait ∧
      table.resolve (.single .normal) keys true = .expand 2 [.ofChar 'd'] false 0 ∧
      table.resolve (.single .visual) (keys ++ [.ofChar 'z']) false = .expand 2 [.ofChar 'd'] false 0 ∧
      table.resolve (.single .visual) [.ofChar 'z'] false = .raw := by
  decide

end MappingTable

end ModalEdit

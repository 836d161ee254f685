import Mathlib.Data.List.Forall2
import Mathlib.Data.List.Nodup
import Mathlib.Data.List.Perm.Subperm
import ModalEdit.Script.Value.Compare

/-!
Dictionaries that are built by inserting entries, and equality of containers. The keys of such a dictionary are
distinct, and distinct keys that are inserted one after the other make it up as they are. Equality is reflexive and
symmetric, and it does not see the order in which the entries were inserted, at any depth.
-/

set_option autoImplicit false

namespace ModalEdit.Script.Dict

variable {α : Type}

theorem get?_cons (first other : String) (value : α) (rest : Dict α) :
    get? ((first, value) :: rest) other = if other = first then some value else rest.get? other := by
  unfold get?
  rw [List.lookup_cons]
  by_cases same : other = first
  · rw [if_pos same, beq_iff_eq.mpr same]
  · rw [if_neg same, beq_eq_false_iff_ne.mpr same]

theorem get?_insert (key other : String) (value : α) (entries : Dict α) :
    (insert key value entries).get? other =
      if other = key then some value else entries.get? other := by
  induction entries with
  | nil => exact get?_cons key other value []
  | cons entry rest ih =>
    obtain ⟨first, old⟩ := entry
    unfold insert
    by_cases isKey : first = key
    · subst isKey
      rw [if_pos rfl, get?_cons, get?_cons]
      split <;> rfl
    · rw [if_neg isKey, get?_cons, get?_cons, ih]
      by_cases here : other = first
      · rw [if_pos here, if_pos here, if_neg (here ▸ isKey)]
      · rw [if_neg here, if_neg here]

theorem insert_of_notMem {entries : Dict α} {key : String} (new : key ∉ entries.map Prod.fst)
    (value : α) : insert key value entries = entries ++ [(key, value)] := by
  induction entries with
  | nil => rfl
  | cons entry entries ih =>
    simp only [List.map_cons, List.mem_cons, not_or] at new
    rw [insert, if_neg (Ne.symm new.1), ih new.2]
    rfl

/-- A key that is there keeps its place. -/
theorem keys_insert_of_mem {entries : Dict α} {key : String} (old : key ∈ entries.map Prod.fst)
    (value : α) : (insert key value entries).map Prod.fst = entries.map Prod.fst := by
  induction entries with
  | nil => cases old
  | cons entry rest ih =>
    obtain ⟨first, before⟩ := entry
    unfold insert
    by_cases isKey : first = key
    · rw [if_pos isKey, List.map_cons, List.map_cons, isKey]
    · have later : key ∈ rest.map Prod.fst := by
        rcases List.mem_cons.mp old with here | later
        · exact absurd here.symm isKey
        · exact later
      rw [if_neg isKey, List.map_cons, List.map_cons, ih later]

theorem distinct_insert {entries : Dict α} (distinct : (entries.map Prod.fst).Nodup) (key : String)
    (value : α) : ((insert key value entries).map Prod.fst).Nodup := by
  by_cases old : key ∈ entries.map Prod.fst
  · rw [keys_insert_of_mem old]
    exact distinct
  · rw [insert_of_notMem old, List.map_append, List.map_singleton, ← List.concat_eq_append]
    exact distinct.concat old

/-- The dictionary that is made by inserting entries one after the other. -/
def ofEntries (entries : List (String × α)) : Dict α :=
  entries.foldl (fun built entry => insert entry.1 entry.2 built) []

theorem distinct_foldl_insert (entries : List (String × α)) {built : Dict α}
    (distinct : (built.map Prod.fst).Nodup) :
    ((entries.foldl (fun built entry => insert entry.1 entry.2 built) built).map Prod.fst).Nodup := by
  induction entries generalizing built with
  | nil => exact distinct
  | cons entry rest ih => exact ih (distinct_insert distinct entry.1 entry.2)

theorem distinct_ofEntries (entries : List (String × α)) :
    ((ofEntries entries).map Prod.fst).Nodup :=
  distinct_foldl_insert entries List.nodup_nil

theorem foldl_insert_of_distinct (entries : List (String × α)) {built : Dict α}
    (distinct : ((built ++ entries).map Prod.fst).Nodup) :
    entries.foldl (fun built entry => insert entry.1 entry.2 built) built = built ++ entries := by
  induction entries generalizing built with
  | nil => simp
  | cons entry rest ih =>
    have new : entry.1 ∉ built.map Prod.fst := by
      intro old
      rw [List.map_append] at distinct
      exact (List.nodup_append.mp distinct).2.2 entry.1 old entry.1 List.mem_cons_self rfl
    rw [List.foldl_cons, insert_of_notMem new, ih (by simpa using distinct), List.append_assoc]
    rfl

/-- Entries with distinct keys stay in the order of their insertion. -/
theorem ofEntries_of_distinct {entries : List (String × α)}
    (distinct : (entries.map Prod.fst).Nodup) : ofEntries entries = entries :=
  foldl_insert_of_distinct entries distinct

theorem get?_eq_some_iff {entries : Dict α} (distinct : (entries.map Prod.fst).Nodup) (key : String)
    (value : α) : entries.get? key = some value ↔ (key, value) ∈ entries := by
  induction entries with
  | nil => simp [get?]
  | cons entry rest ih =>
    obtain ⟨first, here⟩ := entry
    rw [List.map_cons, List.nodup_cons] at distinct
    rw [get?_cons, List.mem_cons, Prod.mk.injEq]
    by_cases isFirst : key = first
    · subst isFirst
      have nowhereElse : (key, value) ∉ rest := by
        intro later
        exact distinct.1 (List.mem_map.mpr ⟨(key, value), later, rfl⟩)
      simp [nowhereElse, eq_comm]
    · simp [isFirst, ih distinct.2]

theorem exists_of_sameKeys {entries others : List (String × α)}
    (sameKeys : (entries.map Prod.fst).Perm (others.map Prod.fst)) {entry : String × α}
    (member : entry ∈ entries) : ∃ value, (entry.1, value) ∈ others := by
  have isKey := sameKeys.mem_iff.mp (List.mem_map.mpr ⟨entry, member, rfl⟩)
  obtain ⟨other, isOther, sameKey⟩ := List.mem_map.mp isKey
  rw [← sameKey]
  exact ⟨other.2, isOther⟩

/-- Of two dictionaries of one size, if each entry of the first has a match under its key in the
second, then each entry of the second has one in the first. -/
theorem matches_back {β : Type} (related : α → β → Prop) {entries : Dict α} {others : Dict β}
    (distinct : (entries.map Prod.fst).Nodup) (distinctOthers : (others.map Prod.fst).Nodup)
    (sameSize : entries.length = others.length)
    (each : ∀ entry ∈ entries, ∃ other, others.get? entry.1 = some other ∧ related entry.2 other) :
    ∀ other ∈ others, ∃ value, entries.get? other.1 = some value ∧ related value other.2 := by
  have covered : entries.map Prod.fst ⊆ others.map Prod.fst := by
    intro key member
    obtain ⟨entry, isEntry, isKey⟩ := List.mem_map.mp member
    obtain ⟨other, found, -⟩ := each entry isEntry
    rw [← isKey]
    exact List.mem_map.mpr ⟨_, (get?_eq_some_iff distinctOthers _ _).mp found, rfl⟩
  -- As many keys as there are on the other side, all of them different: they are all of them.
  have sameKeys : (entries.map Prod.fst).Perm (others.map Prod.fst) := by
    apply (List.subperm_of_subset distinct covered).perm_of_length_le
    rw [List.length_map, List.length_map]
    omega
  intro other isOther
  have isKey : other.1 ∈ entries.map Prod.fst :=
    sameKeys.mem_iff.mpr (List.mem_map.mpr ⟨other, isOther, rfl⟩)
  obtain ⟨entry, isEntry, sameKey⟩ := List.mem_map.mp isKey
  obtain ⟨value, found, matching⟩ := each entry isEntry
  have isValue : others.get? other.1 = some other.2 :=
    (get?_eq_some_iff distinctOthers _ _).mpr isOther
  rw [sameKey, isValue] at found
  cases found
  rw [← sameKey]
  exact ⟨entry.2, (get?_eq_some_iff distinct _ _).mpr isEntry, matching⟩

end ModalEdit.Script.Dict

namespace ModalEdit

theorem Text.compareText_eq_iff (first second : List Char) :
    compareText first second = .eq ↔ first = second := by
  induction first generalizing second with
  | nil => cases second <;> simp [compareText]
  | cons a first ih =>
    cases second with
    | nil => simp [compareText]
    | cons b second =>
      unfold compareText
      by_cases same : a = b
      · simp [same, ih]
      · have differs : a.toNat ≠ b.toNat := by
          intro equal
          exact same (Char.toNat_inj.mp equal)
        simp [same, differs]

namespace Script.Value

/-- Values without floating-point numbers, whose dictionaries are built by inserting entries. -/
inductive Plain : Value → Prop
  | number (n : Int64) : Plain (number n)
  | string (text : String) : Plain (string text)
  | funcref (name : String) : Plain (funcref name)
  | blob (bytes : List UInt8) : Plain (blob bytes)
  | list {items : List Value} : (∀ item ∈ items, Plain item) → Plain (list items)
  | dict (entries : List (String × Value)) :
      (∀ entry ∈ Dict.ofEntries entries, Plain entry.2) → Plain (dict (Dict.ofEntries entries))

/-! ### Equality, one level at a time -/

section Equal

variable {ignoreCase : Bool}

theorem equalItems_iff (items others : List Value) :
    equalItems ignoreCase items others = true ↔
      List.Forall₂ (fun item other => equal ignoreCase item other = true) items others := by
  induction items generalizing others with
  | nil => cases others <;> simp [equalItems]
  | cons item rest ih => cases others <;> simp [equalItems, ih]

/-- Items that cannot be told from others, one by one, cannot be told from them together. -/
theorem equalItems_congr {items others : List Value} (sameLength : items.length = others.length)
    (each : ∀ pair ∈ items.zip others, ∀ right,
      equal ignoreCase pair.1 right = equal ignoreCase pair.2 right) (rights : List Value) :
    equalItems ignoreCase items rights = equalItems ignoreCase others rights := by
  induction items generalizing others rights with
  | nil =>
    cases others with
    | nil => rfl
    | cons other others => cases sameLength
  | cons item items ih =>
    cases others with
    | nil => cases sameLength
    | cons other others =>
      rw [List.zip_cons_cons, List.forall_mem_cons] at each
      cases rights with
      | nil => rfl
      | cons right rights =>
        rw [equalItems, equalItems, each.1 right, ih (Nat.succ.inj sameLength) each.2 rights]

theorem equalEntries_iff (others entries : Dict Value) :
    equalEntries ignoreCase others entries = true ↔
      ∀ entry ∈ entries, ∃ other, others.get? entry.1 = some other ∧
        equal ignoreCase entry.2 other = true := by
  induction entries with
  | nil => simp [equalEntries]
  | cons entry rest ih =>
    obtain ⟨key, value⟩ := entry
    rw [equalEntries, Bool.and_eq_true, ih, List.forall_mem_cons]
    cases others.get? key <;> simp

theorem equal_list_iff (items others : List Value) :
    equal ignoreCase (list items) (list others) = true ↔
      List.Forall₂ (fun item other => equal ignoreCase item other = true) items others := by
  rw [equal, equalItems_iff]

theorem equal_dict_iff (entries others : Dict Value) :
    equal ignoreCase (dict entries) (dict others) = true ↔
      entries.length = others.length ∧ ∀ entry ∈ entries, ∃ other,
        others.get? entry.1 = some other ∧ equal ignoreCase entry.2 other = true := by
  rw [equal, Bool.and_eq_true, beq_iff_eq, equalEntries_iff]

/-- Two values of different types are compared as numbers. -/
theorem equal_of_types_differ {left right : Value} (differ : left.type ≠ right.type) :
    equal ignoreCase left right = scalarsEqual ignoreCase left right := by
  cases left <;> cases right <;> first | exact absurd rfl differ | rfl

theorem scalarsEqual_strings_iff (first second : String) :
    scalarsEqual ignoreCase (string first) (string second) = true ↔
      comparedText ignoreCase first = comparedText ignoreCase second := by
  rw [← Text.compareText_eq_iff]
  unfold scalarsEqual order?
  cases order : Text.compareText (comparedText ignoreCase first) (comparedText ignoreCase second) <;>
    simp [order]

/-- Where not both of two values are texts, the numbers that they stand for are compared. -/
theorem scalarsEqual_iff {left right : Value} (noFloat : left.type ≠ .float ∧ right.type ≠ .float)
    (notTexts : ¬ (left.type = .string ∧ right.type = .string)) :
    scalarsEqual ignoreCase left right = true ↔
      ∃ n, left.toNumber = .ok n ∧ right.toNumber = .ok n := by
  have isOrder : order? ignoreCase left right = do
      return some (compare (← left.toNumber).toInt (← right.toNumber).toInt) := by
    cases left <;> cases right <;>
      first
      | exact absurd rfl noFloat.1
      | exact absurd rfl noFloat.2
      | exact absurd ⟨rfl, rfl⟩ notTexts
      | rfl
  unfold scalarsEqual
  rw [isOrder]
  cases left.toNumber with
  | error error => simp [bind, Except.bind]
  | ok m =>
    cases right.toNumber with
    | error error => simp [bind, Except.bind]
    | ok n =>
      have same : compare m.toInt n.toInt = .eq ↔ m = n := by
        rw [Int.compare_eq_eq, Int64.toInt_inj]
      cases order : compare m.toInt n.toInt <;> rw [order] at same <;>
        simp [bind, Except.bind, pure, Except.pure, order, @eq_comm _ n m, ← same]

theorem scalarsEqual_comm {left right : Value}
    (noFloat : left.type ≠ .float ∧ right.type ≠ .float) :
    scalarsEqual ignoreCase left right = scalarsEqual ignoreCase right left := by
  rw [Bool.eq_iff_iff]
  by_cases texts : left.type = .string ∧ right.type = .string
  · cases left <;> cases right <;> simp [type] at texts
    rw [scalarsEqual_strings_iff, scalarsEqual_strings_iff]
    exact eq_comm
  · rw [scalarsEqual_iff noFloat texts, scalarsEqual_iff noFloat.symm (mt And.symm texts)]
    constructor <;>
    · intro same
      obtain ⟨n, first, second⟩ := same
      exact ⟨n, second, first⟩

end Equal

/-! ### Reflexivity and symmetry -/

namespace Plain

variable {ignoreCase : Bool} {left right : Value}

theorem noFloat (plain : left.Plain) : left.type ≠ .float := by
  cases plain <;> exact nofun

theorem of_list {items : List Value} (plain : (Value.list items).Plain) : ∀ item ∈ items, item.Plain := by
  cases plain
  assumption

theorem of_dict {entries : Dict Value} (plain : (Value.dict entries).Plain) :
    ∀ entry ∈ entries, entry.2.Plain := by
  cases plain
  assumption

theorem equal_self (plain : left.Plain) : equal ignoreCase left left = true := by
  induction plain with
  | number n =>
    have noFloat := (Plain.number n).noFloat
    exact (scalarsEqual_iff ⟨noFloat, noFloat⟩ (by simp [type])).mpr ⟨n, rfl, rfl⟩
  | string text =>
    exact (scalarsEqual_strings_iff text text).mpr rfl
  | funcref name => simp [equal]
  | blob bytes => simp [equal]
  | list _ each =>
    rw [equal_list_iff, List.forall₂_same]
    exact each
  | dict entries _ each =>
    rw [equal_dict_iff]
    refine ⟨rfl, ?_⟩
    intro entry member
    have found := (Dict.get?_eq_some_iff (Dict.distinct_ofEntries entries) entry.1 entry.2).mpr member
    exact ⟨entry.2, found, each entry member⟩

theorem equal_comm_of_differ (plainLeft : left.Plain) (plainRight : right.Plain)
    (differ : left.type ≠ right.type) :
    equal ignoreCase left right = equal ignoreCase right left := by
  rw [equal_of_types_differ differ, equal_of_types_differ differ.symm,
    scalarsEqual_comm ⟨plainLeft.noFloat, plainRight.noFloat⟩]

/-- For symmetry it is enough to look at two values of one type. -/
theorem equal_symm_of_sameType (plainLeft : left.Plain) (plainRight : right.Plain)
    (holds : equal ignoreCase left right = true)
    (sameType : left.type = right.type → equal ignoreCase right left = true) :
    equal ignoreCase right left = true := by
  by_cases same : left.type = right.type
  · exact sameType same
  · rw [← equal_comm_of_differ plainLeft plainRight same]
    exact holds

theorem equal_symm (plainLeft : left.Plain) (plainRight : right.Plain)
    (holds : equal ignoreCase left right = true) : equal ignoreCase right left = true := by
  induction plainLeft generalizing right with
  | number n =>
    apply equal_symm_of_sameType (.number n) plainRight holds
    intro same
    cases plainRight <;> cases same
    rename_i m
    exact (scalarsEqual_comm ⟨(Plain.number m).noFloat, (Plain.number n).noFloat⟩).trans holds
  | string text =>
    apply equal_symm_of_sameType (.string text) plainRight holds
    intro same
    cases plainRight <;> cases same
    rename_i other
    exact (scalarsEqual_comm ⟨(Plain.string other).noFloat, (Plain.string text).noFloat⟩).trans holds
  | funcref name =>
    apply equal_symm_of_sameType (.funcref name) plainRight holds
    intro same
    cases plainRight <;> cases same
    rename_i other
    rw [equal, beq_iff_eq] at holds ⊢
    exact holds.symm
  | blob bytes =>
    apply equal_symm_of_sameType (.blob bytes) plainRight holds
    intro same
    cases plainRight <;> cases same
    rename_i others
    rw [equal, beq_iff_eq] at holds ⊢
    exact holds.symm
  | list plain each =>
    apply equal_symm_of_sameType (.list plain) plainRight holds
    intro same
    cases plainRight <;> cases same
    rename_i others plainOthers
    rw [equal_list_iff, List.forall₂_iff_get] at holds ⊢
    refine ⟨holds.1.symm, ?_⟩
    intro i below belowToo
    exact each _ (List.get_mem _ _) (plainOthers _ (List.get_mem _ _)) (holds.2 i belowToo below)
  | dict entries plain each =>
    apply equal_symm_of_sameType (.dict entries plain) plainRight holds
    intro same
    cases plainRight <;> cases same
    rename_i others plainOthers
    rw [equal_dict_iff] at holds ⊢
    have distinct := Dict.distinct_ofEntries entries
    have distinctOthers := Dict.distinct_ofEntries others
    refine ⟨holds.1.symm, ?_⟩
    intro other isOther
    obtain ⟨value, found, matching⟩ :=
      Dict.matches_back (fun value other => equal ignoreCase value other = true) distinct
        distinctOthers holds.1 holds.2 other isOther
    have isEntry := (Dict.get?_eq_some_iff distinct other.1 value).mp found
    exact ⟨value, found, each _ isEntry (plainOthers other isOther) matching⟩

theorem equal_comm (plainLeft : left.Plain) (plainRight : right.Plain) :
    equal ignoreCase left right = equal ignoreCase right left := by
  rw [Bool.eq_iff_iff]
  exact ⟨plainLeft.equal_symm plainRight, plainRight.equal_symm plainLeft⟩

end Plain

/-! ### The order of insertion -/

/-- Values that differ in the order in which entries of their dictionaries were inserted, at any
depth. -/
inductive Reordered : Value → Value → Prop
  | same (value : Value) : Reordered value value
  | list (items others : List Value) : items.length = others.length →
      (∀ pair ∈ items.zip others, Reordered pair.1 pair.2) → Reordered (list items) (list others)
  | dict (entries others : List (String × Value)) : (entries.map Prod.fst).Nodup →
      (entries.map Prod.fst).Perm (others.map Prod.fst) →
      (∀ key value other, (key, value) ∈ entries → (key, other) ∈ others → Reordered value other) →
      Reordered (dict (Dict.ofEntries entries)) (dict (Dict.ofEntries others))

namespace Reordered

variable {ignoreCase : Bool} {left left' right right' : Value}

theorem type_eq (reordered : Reordered left left') : left'.type = left.type := by
  cases reordered <;> rfl

theorem plain (reordered : Reordered left left') (isPlain : left.Plain) : left'.Plain := by
  induction reordered with
  | same value => exact isPlain
  | list items others sameLength _ each =>
    apply Plain.list
    intro other member
    obtain ⟨i, below, isOther⟩ := List.mem_iff_getElem.mp member
    have pair : (items[i], other) ∈ items.zip others := by
      rw [← isOther]
      exact List.mem_iff_getElem.mpr ⟨i, by rw [List.length_zip]; omega, List.getElem_zip⟩
    exact each _ pair (isPlain.of_list _ (List.getElem_mem _))
  | dict entries others distinct sameKeys _ each =>
    have distinctOthers := sameKeys.nodup_iff.mp distinct
    apply Plain.dict
    intro entry member
    rw [Dict.ofEntries_of_distinct distinctOthers] at member
    obtain ⟨value, isEntry⟩ := Dict.exists_of_sameKeys sameKeys.symm member
    apply each entry.1 value entry.2 isEntry member
    rw [Dict.ofEntries_of_distinct distinct] at isPlain
    exact isPlain.of_dict _ isEntry

theorem equal_left (reordered : Reordered left left') (right : Value) :
    equal ignoreCase left right = equal ignoreCase left' right := by
  induction reordered generalizing right with
  | same value => rfl
  | list items others sameLength _ each =>
    cases right with
    | list rights =>
      exact equalItems_congr sameLength each rights
    | number | float | string | dict | funcref | blob => rfl
  | dict entries others distinct sameKeys _ each =>
    cases right with
    | dict rights =>
      rw [Bool.eq_iff_iff, Dict.ofEntries_of_distinct distinct,
        Dict.ofEntries_of_distinct (sameKeys.nodup_iff.mp distinct), equal_dict_iff, equal_dict_iff]
      have sameSize : entries.length = others.length := by
        have sameCount := sameKeys.length_eq
        rw [List.length_map, List.length_map] at sameCount
        exact sameCount
      rw [sameSize]
      apply and_congr_right
      intro _
      constructor
      · intro matching other isOther
        obtain ⟨value, isEntry⟩ := Dict.exists_of_sameKeys sameKeys.symm isOther
        obtain ⟨against, found, holds⟩ := matching _ isEntry
        rw [each other.1 value other.2 isEntry isOther] at holds
        exact ⟨against, found, holds⟩
      · intro matching entry isEntry
        obtain ⟨value, isOther⟩ := Dict.exists_of_sameKeys sameKeys isEntry
        obtain ⟨against, found, holds⟩ := matching _ isOther
        rw [← each entry.1 entry.2 value isEntry isOther] at holds
        exact ⟨against, found, holds⟩
    | number | float | string | list | funcref | blob => rfl

theorem equal_eq (reorderedLeft : Reordered left left') (reorderedRight : Reordered right right')
    (plainLeft : left.Plain) (plainRight : right.Plain) :
    equal ignoreCase left right = equal ignoreCase left' right' := by
  have plainLeft' := reorderedLeft.plain plainLeft
  have plainRight' := reorderedRight.plain plainRight
  calc equal ignoreCase left right
      = equal ignoreCase left' right := reorderedLeft.equal_left right
    _ = equal ignoreCase right left' := plainLeft'.equal_comm plainRight
    _ = equal ignoreCase right' left' := reorderedRight.equal_left left'
    _ = equal ignoreCase left' right' := plainRight'.equal_comm plainLeft'

end Reordered

/-! ### Comparing containers -/

/-- Two lists, two dictionaries, two functions or two blobs. -/
def SameContainer (left right : Value) : Prop :=
  left.type = right.type ∧ left.type ∈ [.list, .dict, .funcref, .blob]

theorem SameContainer.apply_equal {left right : Value} (same : left.SameContainer right)
    (ignoreCase : Bool) :
    Comparison.equal.apply ignoreCase left right = .ok (equal ignoreCase left right) ∧
      Comparison.notEqual.apply ignoreCase left right = .ok (!equal ignoreCase left right) := by
  obtain ⟨sameType, isContainer⟩ := same
  cases left <;> cases right <;> cases sameType <;> simp [type] at isContainer <;>
    simp [Comparison.apply, Comparison.holds, Comparison.isEquality, Comparison.isNegated, Except.map]

/-- Containers of one type without floating-point numbers always compare. Each is equal to itself, the
two may change sides, the order in which entries were inserted makes no difference at any depth, and
two containers differ where they are not equal. -/
theorem Plain.equality_of_containers {left right : Value} (plainLeft : left.Plain)
    (plainRight : right.Plain) (same : left.SameContainer right) (ignoreCase : Bool) :
    Comparison.equal.apply ignoreCase left left = .ok true ∧
      ∃ areEqual, Comparison.equal.apply ignoreCase left right = .ok areEqual ∧
        Comparison.equal.apply ignoreCase right left = .ok areEqual ∧
        Comparison.notEqual.apply ignoreCase left right = .ok (!areEqual) ∧
        ∀ left' right', Reordered left left' → Reordered right right' →
          Comparison.equal.apply ignoreCase left' right' = .ok areEqual := by
  have itself : left.SameContainer left := ⟨rfl, same.2⟩
  have sides : right.SameContainer left := ⟨same.1.symm, same.1 ▸ same.2⟩
  constructor
  · rw [(itself.apply_equal ignoreCase).1, plainLeft.equal_self]
  · refine ⟨equal ignoreCase left right, (same.apply_equal ignoreCase).1, ?_,
      (same.apply_equal ignoreCase).2, ?_⟩
    · rw [(sides.apply_equal ignoreCase).1, plainLeft.equal_comm plainRight]
    · intro left' right' reorderedLeft reorderedRight
      have same' : left'.SameContainer right' := by
        unfold SameContainer
        rw [reorderedLeft.type_eq, reorderedRight.type_eq]
        exact same
      rw [(same'.apply_equal ignoreCase).1,
        reorderedLeft.equal_eq reorderedRight plainLeft plainRight]

/-- A list within a dictionary whose entries were inserted the other way round, next to one that holds
a text for its number and another case of its letter. -/
theorem equality_of_containers_nested :
    let entry : String × Value := ("items", list [number 1, string "X"])
    let name : String × Value := ("name", funcref "len")
    let left : Value := dict (Dict.ofEntries [entry, name])
    let turned : Value := dict (Dict.ofEntries [name, entry])
    let right : Value := dict (Dict.ofEntries [("items", list [string "1", string "x"]), name])
    (left.Plain ∧ right.Plain ∧ left.SameContainer right ∧ Reordered left turned) ∧
      Comparison.equal.apply true turned right = .ok true ∧
      Comparison.notEqual.apply true left right = .ok false := by
  intro entry name left turned right
  have plainLeft : left.Plain := by
    apply Plain.dict
    simp only [show Dict.ofEntries [entry, name] = [entry, name] from rfl, List.forall_mem_cons]
    refine ⟨Plain.list ?_, .funcref _, nofun⟩
    simp only [List.forall_mem_cons]
    exact ⟨.number _, .string _, nofun⟩
  have plainRight : right.Plain := by
    apply Plain.dict
    simp only [show Dict.ofEntries [("items", list [string "1", string "x"]), name] =
      [("items", list [string "1", string "x"]), name] from rfl, List.forall_mem_cons]
    refine ⟨Plain.list ?_, .funcref _, nofun⟩
    simp only [List.forall_mem_cons]
    exact ⟨.string _, .string _, nofun⟩
  have same : left.SameContainer right := ⟨rfl, .tail _ (.head _)⟩
  have reordered : Reordered left turned := by
    apply Reordered.dict [entry, name] [name, entry] (by decide) (List.Perm.swap _ _ _)
    simp only [List.mem_cons, List.not_mem_nil, or_false, Prod.mk.injEq, entry, name]
    rintro key value other (⟨rfl, rfl⟩ | ⟨rfl, rfl⟩) (⟨same, rfl⟩ | ⟨same, rfl⟩)
    · exact absurd same (by decide)
    · exact .same _
    · exact .same _
    · exact absurd same (by decide)
  obtain ⟨-, areEqual, isEqual, -, isNotEqual, anyOrder⟩ :=
    plainLeft.equality_of_containers plainRight same true
  have holds : Comparison.equal.apply true left right = .ok true := by rfl
  rw [holds] at isEqual
  cases isEqual
  exact ⟨⟨plainLeft, plainRight, same, reordered⟩, anyOrder turned right reordered (.same right), isNotEqual⟩

end Script.Value

end ModalEdit

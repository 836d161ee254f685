import Mathlib.Data.List.TakeWhile
import ModalEdit.Caret.Set

/-!
The carets of a set after each way to change it. After merging they stand in strictly ascending order, and each
of them stood there before. For an edit at each of them they are numbered in falling order, each of them once.
-/

set_option autoImplicit false

namespace ModalEdit

namespace CaretSet

theorem primary_mem (carets : CaretSet) : carets.primary ∈ carets.toList := by
  simp only [toList, List.mem_append, List.mem_cons, true_or, or_true]

theorem mem_map {carets : CaretSet} {f : Caret → Caret} {caret : Caret} :
    caret ∈ (carets.map f).toList ↔ ∃ old ∈ carets.toList, f old = caret := by
  rw [toList_map, List.mem_map]

theorem mem_list_modify {carets : List Caret} {index : Nat} {f : Caret → Caret} {caret : Caret}
    (member : caret ∈ carets.modify index f) : caret ∈ carets ∨ ∃ old ∈ carets, f old = caret := by
  rw [List.mem_iff_getElem?] at member
  obtain ⟨place, found⟩ := member
  rw [List.getElem?_modify] at found
  cases stood : carets[place]? with
  | none =>
    rw [stood] at found
    cases found
  | some old =>
    have wasThere : old ∈ carets := List.mem_of_getElem? stood
    rw [stood] at found
    by_cases here : index = place
    · simp only [here, ↓reduceIte, Option.map_eq_map, Option.map_some, Option.some.injEq] at found
      exact Or.inr ⟨old, wasThere, found⟩
    · simp only [here, ↓reduceIte, Option.map_eq_map, Option.map_some,
        Option.some.injEq] at found
      exact Or.inl (found ▸ wasThere)

theorem mem_modify {carets : CaretSet} {index : Nat} {f : Caret → Caret} {caret : Caret}
    (member : caret ∈ (carets.modify index f).toList) :
    caret ∈ carets.toList ∨ ∃ old ∈ carets.toList, f old = caret := by
  rw [toList_modify] at member
  exact mem_list_modify member

/-- Whether the carets stand in order, no two of them at the same offset. -/
def Ascending (carets : CaretSet) : Prop :=
  carets.toList.Pairwise fun first second => first.offset < second.offset

theorem mem_insertByOffset {caret other : Caret} {carets : List Caret}
    (member : other ∈ insertByOffset caret carets) : other = caret ∨ other ∈ carets := by
  induction carets with
  | nil => exact Or.inl (List.mem_singleton.mp member)
  | cons head rest ih =>
    unfold insertByOffset at member
    split at member
    · exact List.mem_cons.mp member
    · split at member
      · rcases List.mem_cons.mp member with here | inRest
        · exact Or.inl here
        · exact Or.inr (List.mem_cons_of_mem head inRest)
      · rcases List.mem_cons.mp member with here | inRest
        · exact Or.inr (here ▸ List.mem_cons_self)
        · rcases ih inRest with here | there
          · exact Or.inl here
          · exact Or.inr (List.mem_cons_of_mem head there)

theorem pairwise_insertByOffset (caret : Caret) {carets : List Caret}
    (ascending : carets.Pairwise fun first second => first.offset < second.offset) :
    (insertByOffset caret carets).Pairwise fun first second => first.offset < second.offset := by
  induction carets with
  | nil => exact List.pairwise_singleton _ _
  | cons head rest ih =>
    obtain ⟨headFirst, restAscending⟩ := List.pairwise_cons.mp ascending
    unfold insertByOffset
    split
    · rename_i before
      refine List.pairwise_cons.mpr ⟨?_, ascending⟩
      intro other member
      rcases List.mem_cons.mp member with here | inRest
      · exact here ▸ before
      · exact Nat.lt_trans before (headFirst other inRest)
    · split
      · rename_i same
        refine List.pairwise_cons.mpr ⟨?_, restAscending⟩
        intro other member
        rw [same]
        exact headFirst other member
      · rename_i notBefore notSame
        refine List.pairwise_cons.mpr ⟨?_, ih restAscending⟩
        intro other member
        rcases mem_insertByOffset member with here | inRest
        · rw [here]
          omega
        · exact headFirst other inRest

/-- No offset gets lost when a caret is put into a list. -/
theorem exists_mem_insertByOffset {caret other : Caret} {carets : List Caret}
    (member : other ∈ caret :: carets) :
    ∃ kept ∈ insertByOffset caret carets, kept.offset = other.offset := by
  induction carets with
  | nil => exact ⟨other, member, rfl⟩
  | cons head rest ih =>
    unfold insertByOffset
    split
    · exact ⟨other, member, rfl⟩
    · split
      · rename_i same
        rcases List.mem_cons.mp member with here | inRest
        · exact ⟨caret, List.mem_cons_self, by rw [here]⟩
        · rcases List.mem_cons.mp inRest with isHead | there
          · exact ⟨caret, List.mem_cons_self, by rw [isHead, same]⟩
          · exact ⟨other, List.mem_cons_of_mem caret there, rfl⟩
      · by_cases isHead : other = head
        · exact ⟨head, List.mem_cons_self, by rw [isHead]⟩
        · have later : other ∈ caret :: rest := by
            rcases List.mem_cons.mp member with here | inRest
            · exact here ▸ List.mem_cons_self
            · rcases List.mem_cons.mp inRest with head | there
              · exact absurd head isHead
              · exact List.mem_cons_of_mem caret there
          obtain ⟨kept, keptMember, sameOffset⟩ := ih later
          exact ⟨kept, List.mem_cons_of_mem head keptMember, sameOffset⟩

theorem mem_distinctByOffset {caret : Caret} {carets : List Caret}
    (member : caret ∈ distinctByOffset carets) : caret ∈ carets := by
  induction carets with
  | nil => exact member
  | cons head rest ih =>
    rcases mem_insertByOffset member with here | inRest
    · exact here ▸ List.mem_cons_self
    · exact List.mem_cons_of_mem head (ih inRest)

theorem pairwise_distinctByOffset (carets : List Caret) :
    (distinctByOffset carets).Pairwise fun first second => first.offset < second.offset := by
  induction carets with
  | nil => exact List.Pairwise.nil
  | cons head rest ih => exact pairwise_insertByOffset head ih

theorem exists_mem_distinctByOffset {caret : Caret} {carets : List Caret}
    (member : caret ∈ carets) : ∃ kept ∈ distinctByOffset carets, kept.offset = caret.offset := by
  induction carets with
  | nil => cases member
  | cons head rest ih =>
    rcases List.mem_cons.mp member with here | inRest
    · obtain ⟨kept, keptMember, same⟩ :=
        exists_mem_insertByOffset (List.mem_cons_self (a := head) (l := distinctByOffset rest))
      exact ⟨kept, keptMember, by rw [same, here]⟩
    · obtain ⟨found, foundMember, same⟩ := ih inRest
      obtain ⟨kept, keptMember, sameKept⟩ :=
        exists_mem_insertByOffset (List.mem_cons_of_mem head foundMember)
      exact ⟨kept, keptMember, sameKept.trans same⟩

theorem toList_merge (carets : CaretSet) :
    carets.merge.toList = distinctByOffset carets.toList := by
  simp only [merge]
  split
  · rename_i primary after found
    have whole := List.takeWhile_append_dropWhile
      (p := fun caret : Caret => caret.offset != carets.primary.offset)
      (l := distinctByOffset carets.toList)
    rw [found] at whole
    exact whole
  · rename_i none
    obtain ⟨kept, keptMember, same⟩ := exists_mem_distinctByOffset carets.primary_mem
    have isBefore := List.dropWhile_eq_nil_iff.mp none kept keptMember
    simp only [same, bne_self_eq_false, Bool.false_eq_true] at isBefore

theorem ascending_merge (carets : CaretSet) : carets.merge.Ascending := by
  rw [Ascending, toList_merge]
  exact pairwise_distinctByOffset _

theorem mem_of_mem_merge {carets : CaretSet} {caret : Caret} (member : caret ∈ carets.merge.toList) :
    caret ∈ carets.toList := by
  rw [toList_merge] at member
  exact mem_distinctByOffset member

theorem offsetAt_of_get? {carets : CaretSet} {index : Nat} {caret : Caret}
    (stands : carets.get? index = some caret) : carets.offsetAt index = caret.offset := by
  unfold offsetAt
  rw [stands]
  rfl

theorem get?_map (carets : CaretSet) (f : Caret → Caret) (index : Nat) :
    (carets.map f).get? index = (carets.get? index).map f := by
  unfold get?
  rw [toList_map, List.getElem?_map]

theorem get?_modify_of_ne {carets : CaretSet} {index other : Nat} (differ : index ≠ other)
    (f : Caret → Caret) : (carets.modify index f).get? other = carets.get? other := by
  unfold get?
  rw [toList_modify, List.getElem?_modify]
  simp only [differ, ↓reduceIte, Option.map_eq_map]
  cases carets.toList[other]? <;> rfl

theorem get?_modify_self (carets : CaretSet) (index : Nat) (f : Caret → Caret) :
    (carets.modify index f).get? index = (carets.get? index).map f := by
  unfold get?
  rw [toList_modify, List.getElem?_modify_eq]
  rfl

/-- In ascending order a caret and those in front of it are as many as its number says, which counts from
zero. -/
theorem Ascending.countP_offset {carets : CaretSet} (ascending : carets.Ascending) {index : Nat}
    {caret : Caret} (stands : carets.get? index = some caret) :
    (carets.toList.map Caret.offset).countP (· ≤ caret.offset) = index + 1 := by
  unfold Ascending at ascending
  unfold get? at stands
  generalize carets.toList = carets at ascending stands ⊢
  induction carets generalizing index with
  | nil => cases stands
  | cons head rest ih =>
    obtain ⟨headFirst, restAscending⟩ := List.pairwise_cons.mp ascending
    rw [List.map_cons, List.countP_cons]
    cases index with
    | zero =>
      cases stands
      have none : (rest.map Caret.offset).countP (· ≤ caret.offset) = 0 := by
        refine List.countP_eq_zero.mpr fun offset member before => ?_
        obtain ⟨other, inRest, rfl⟩ := List.mem_map.mp member
        exact Nat.not_lt.mpr (of_decide_eq_true before) (headFirst other inRest)
      rw [none, if_pos (decide_eq_true (Nat.le_refl _))]
    | succ index =>
      have before := headFirst caret (List.mem_of_getElem? stands)
      rw [ih restAscending stands, if_pos (decide_eq_true (Nat.le_of_lt before))]

section Descending

variable {entry : Nat × Nat} {entries : List (Nat × Nat)} {carets : CaretSet}

theorem perm_insertDescending (entry : Nat × Nat) (entries : List (Nat × Nat)) :
    (insertDescending entry entries).Perm (entry :: entries) := by
  induction entries with
  | nil => exact .refl _
  | cons other rest ih =>
    unfold insertDescending
    split
    · exact (ih.cons other).trans (.swap entry other rest)
    · exact .refl _

theorem pairwise_insertDescending (falling : entries.Pairwise fun first second => second.2 ≤ first.2) :
    (insertDescending entry entries).Pairwise fun first second => second.2 ≤ first.2 := by
  induction entries with
  | nil => exact List.pairwise_singleton _ _
  | cons other rest ih =>
    obtain ⟨otherFirst, restFalling⟩ := List.pairwise_cons.mp falling
    unfold insertDescending
    split
    · rename_i before
      refine List.pairwise_cons.mpr ⟨fun next member => ?_, ih restFalling⟩
      rcases List.mem_cons.mp ((perm_insertDescending entry rest).mem_iff.mp member) with here | inRest
      · exact here ▸ Nat.le_of_lt before
      · exact otherFirst next inRest
    · rename_i notBefore
      refine List.pairwise_cons.mpr ⟨fun next member => ?_, falling⟩
      rcases List.mem_cons.mp member with here | inRest
      · exact here ▸ Nat.le_of_not_lt notBefore
      · exact Nat.le_trans (otherFirst next inRest) (Nat.le_of_not_lt notBefore)

theorem perm_foldr_insertDescending (entries : List (Nat × Nat)) :
    (entries.foldr insertDescending []).Perm entries := by
  induction entries with
  | nil => exact .refl _
  | cons entry rest ih => exact (perm_insertDescending entry _).trans (ih.cons entry)

theorem pairwise_foldr_insertDescending (entries : List (Nat × Nat)) :
    (entries.foldr insertDescending []).Pairwise fun first second => second.2 ≤ first.2 := by
  induction entries with
  | nil => exact .nil
  | cons entry rest ih => exact pairwise_insertDescending ih

/-- The numbers and offsets of the carets. -/
def numbered (carets : CaretSet) : List (Nat × Nat) :=
  carets.toList.zipIdx.map fun entry => (entry.2, entry.1.offset)

theorem descending_eq (carets : CaretSet) :
    carets.descending = (carets.numbered.foldr insertDescending []).map Prod.fst := rfl

theorem offsetAt_of_mem_numbered (member : entry ∈ carets.numbered) : carets.offsetAt entry.1 = entry.2 := by
  obtain ⟨⟨caret, index⟩, stands, rfl⟩ := List.mem_map.mp member
  exact offsetAt_of_get? (List.mk_mem_zipIdx_iff_getElem?.mp stands)

/-- Each caret has its number once. -/
theorem perm_descending (carets : CaretSet) : carets.descending.Perm (List.range carets.size) := by
  have numbers : carets.numbered.map Prod.fst = List.range carets.size := by
    rw [numbered, List.map_map, List.range_eq_range']
    exact List.zipIdx_map_snd 0 carets.toList
  rw [descending_eq, ← numbers]
  exact (perm_foldr_insertDescending _).map Prod.fst

theorem pairwise_descending (carets : CaretSet) :
    carets.descending.Pairwise fun first second => carets.offsetAt second ≤ carets.offsetAt first := by
  rw [descending_eq, List.pairwise_map]
  refine (pairwise_foldr_insertDescending carets.numbered).imp_of_mem fun here there ordered => ?_
  have kept := (perm_foldr_insertDescending carets.numbered).subset
  rwa [offsetAt_of_mem_numbered (kept here), offsetAt_of_mem_numbered (kept there)]

theorem mem_descending_iff {carets : CaretSet} {index : Nat} :
    index ∈ carets.descending ↔ ∃ caret, carets.get? index = some caret := by
  rw [carets.perm_descending.mem_iff, List.mem_range]
  exact ⟨fun inside => ⟨_, List.getElem?_eq_getElem inside⟩,
    fun ⟨_, stands⟩ => (List.getElem?_eq_some_iff.mp stands).1⟩

theorem map_offsetAt_range (carets : CaretSet) :
    (List.range carets.size).map carets.offsetAt = carets.toList.map Caret.offset := by
  refine List.ext_getElem (by simp [size]) fun index _ inside => ?_
  have stands : index < carets.toList.length := by simpa using inside
  simp [offsetAt, get?, List.getElem?_eq_getElem stands]

end Descending

end CaretSet

end ModalEdit

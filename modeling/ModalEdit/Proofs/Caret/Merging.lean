import Mathlib.Data.List.Induction
import Mathlib.Data.List.Perm.Subperm
import ModalEdit.Proofs.Caret.Size

/-!
Merging carets, whatever has been done to them before. Of the carets that share an offset the first in the list is
left, with its column and its anchor. So the primary caret is left as it is unless a caret in front of it
in the list shares its offset, and only a move can bring one there.
-/

set_option autoImplicit false

namespace ModalEdit

/-- What can be done to a set of carets. -/
inductive CaretCall where
  | add (caret : Caret)
  | move (index offset : Nat)
  | merge
  | retainPrimary
deriving DecidableEq, Inhabited

namespace CaretSet

/-- The carets after a call. -/
def call (carets : CaretSet) : CaretCall → CaretSet
  | .add caret => carets.add caret
  | .move index offset => carets.modify index (·.moveTo offset)
  | .merge => carets.merge
  | .retainPrimary => carets.retainPrimary

/-- The carets after calls, one after the other. -/
def callAll (carets : CaretSet) (calls : List CaretCall) : CaretSet :=
  calls.foldl call carets

/-- The first caret in the list at an offset. -/
def firstAt? (carets : CaretSet) (offset : Nat) : Option Caret :=
  carets.toList.find? (·.offset = offset)

/-- Whether no caret in front of the primary one in the list shares its offset. -/
def PrimaryLeads (carets : CaretSet) : Prop :=
  ∀ caret ∈ carets.before, caret.offset ≠ carets.primary.offset

/-- Whether a call moves a caret in front of the primary one to its offset, or the primary one to the
offset of such a caret. -/
def Collides (carets : CaretSet) : CaretCall → Prop
  | .move index offset =>
    index < carets.primaryIndex ∧ offset = carets.primary.offset ∨
      index = carets.primaryIndex ∧ ∃ caret ∈ carets.before, caret.offset = offset
  | _ => False

variable {carets : CaretSet}

/-- A caret that is put into a list is found before the others at its offset, and hides no caret at
another one. -/
theorem find?_insertByOffset (caret : Caret) (carets : List Caret) (offset : Nat) :
    (insertByOffset caret carets).find? (·.offset = offset) =
      (caret :: carets).find? (·.offset = offset) := by
  induction carets with
  | nil => rfl
  | cons other rest ih =>
    unfold insertByOffset
    split
    · rfl
    · rename_i notBefore
      split
      · rename_i same
        simp only [List.find?_cons, same]
        cases decide (other.offset = offset) <;> rfl
      · rename_i differ
        rw [List.find?_cons, ih]
        by_cases here : other.offset = offset
        · have elsewhere : caret.offset ≠ offset := fun there => differ (there.trans here.symm)
          simp only [List.find?_cons, here, elsewhere, decide_true, decide_false]
        · simp only [List.find?_cons, here, decide_false]

/-- At each offset the first caret is left, by induction on the carets. -/
theorem find?_distinctByOffset (carets : List Caret) (offset : Nat) :
    (distinctByOffset carets).find? (·.offset = offset) = carets.find? (·.offset = offset) := by
  induction carets with
  | nil => rfl
  | cons caret rest ih =>
    calc (distinctByOffset (caret :: rest)).find? (·.offset = offset)
        = (caret :: distinctByOffset rest).find? (·.offset = offset) :=
          find?_insertByOffset caret (distinctByOffset rest) offset
      _ = (caret :: rest).find? (·.offset = offset) := by
          rw [List.find?_cons, ih, List.find?_cons]

theorem firstAt?_merge (carets : CaretSet) (offset : Nat) :
    carets.merge.firstAt? offset = carets.firstAt? offset := by
  unfold firstAt?
  rw [toList_merge]
  exact find?_distinctByOffset carets.toList offset

/-- The new primary caret is the first one at the offset of the old one. -/
theorem firstAt?_primary (carets : CaretSet) :
    carets.firstAt? carets.primary.offset = some carets.merge.primary := by
  have found := find?_distinctByOffset carets.toList carets.primary.offset
  have isBefore : (fun caret : Caret => !decide (caret.offset = carets.primary.offset)) =
      fun caret : Caret => caret.offset != carets.primary.offset := by
    funext caret
    rfl
  rw [List.find?_eq_head?_dropWhile_not, isBefore] at found
  unfold firstAt? merge
  rw [← found]
  dsimp only
  split
  · rename_i primary after rest
    rw [rest]
    rfl
  · rename_i none
    obtain ⟨kept, member, same⟩ := exists_mem_distinctByOffset carets.primary_mem
    have before := List.dropWhile_eq_nil_iff.mp none kept member
    exact absurd same (bne_iff_ne.mp before)

theorem offset_of_find? {carets : List Caret} {offset : Nat} {caret : Caret}
    (found : carets.find? (·.offset = offset) = some caret) : caret.offset = offset := by
  simpa only [decide_eq_true_eq] using List.find?_some found

theorem offset_primary_merge (carets : CaretSet) :
    carets.merge.primary.offset = carets.primary.offset :=
  offset_of_find? carets.firstAt?_primary

/-- No offset gets lost, and none is added. -/
theorem exists_offset_merge (carets : CaretSet) (offset : Nat) :
    (∃ caret ∈ carets.merge.toList, caret.offset = offset) ↔
      ∃ caret ∈ carets.toList, caret.offset = offset := by
  constructor
  · rintro ⟨caret, member, same⟩
    exact ⟨caret, mem_of_mem_merge member, same⟩
  · rintro ⟨caret, member, rfl⟩
    rw [toList_merge]
    exact exists_mem_distinctByOffset member

theorem subperm_merge (carets : CaretSet) : carets.merge.toList.Subperm carets.toList := by
  have apart : carets.merge.toList.Nodup := by
    refine carets.ascending_merge.imp ?_
    intro first second before same
    rw [same] at before
    exact Nat.lt_irrefl _ before
  exact apart.subperm fun _ => mem_of_mem_merge

/-- Carets none of which gets lost are merged into the same ones in order. -/
theorem perm_merge (kept : carets.toList.length ≤ carets.merge.toList.length) :
    carets.merge.toList.Perm carets.toList :=
  carets.subperm_merge.perm_of_length_le kept

theorem map_map (f g : Caret → Caret) (carets : CaretSet) :
    (carets.map f).map g = carets.map (g ∘ f) := by
  simp only [map, List.map_map, Function.comp_apply]

/-- Carets that are changed, merged, changed back and merged again are those that there were, as long as the
first change leaves them in order. -/
theorem merge_map_merge_map {f g : Caret → Caret} (ascending : carets.Ascending)
    (apart : (carets.map f).Ascending) (back : ∀ caret ∈ carets.toList, g (f caret) = caret) :
    ((carets.map f).merge.map g).merge = carets := by
  have fixed : carets.map (g ∘ f) = carets := map_of_fixed back
  rw [merge_of_ascending apart, map_map, fixed, merge_of_ascending ascending]

/-- If as many are left in the end, none of them got lost on the way. -/
theorem perm_of_merge_map_merge_map {f g : Caret → Caret}
    (kept : carets.toList.length ≤ ((carets.map f).merge.map g).merge.toList.length) :
    (carets.map f).merge.toList.Perm (carets.toList.map f) ∧
      ((carets.map f).merge.map g).merge.toList.Perm (carets.toList.map (g ∘ f)) := by
  have middle := ((carets.map f).merge.map g).subperm_merge.length_le
  have first := (carets.map f).subperm_merge.length_le
  rw [toList_map, List.length_map] at middle first
  have there : (carets.map f).merge.toList.Perm (carets.toList.map f) := by
    rw [← toList_map]
    refine perm_merge ?_
    rw [toList_map, List.length_map]
    omega
  have again : ((carets.map f).merge.map g).merge.toList.Perm ((carets.map f).merge.map g).toList := by
    refine perm_merge ?_
    rw [toList_map, List.length_map]
    omega
  refine ⟨there, again.trans ?_⟩
  rw [toList_map, ← List.map_map]
  exact there.map g

/-- Merging keeps the primary caret just if the first caret at its offset is no other. -/
theorem primary_merge_iff (carets : CaretSet) :
    carets.merge.primary = carets.primary ↔
      ∀ caret, carets.before.find? (·.offset = carets.primary.offset) = some caret →
        caret = carets.primary := by
  have first : (carets.before.find? (·.offset = carets.primary.offset)).or (some carets.primary) =
      some carets.merge.primary := by
    rw [← firstAt?_primary, firstAt?, toList, List.find?_append, List.find?_cons]
    simp only [decide_true]
  cases found : carets.before.find? (·.offset = carets.primary.offset) with
  | none =>
    rw [found] at first
    refine iff_of_true (Option.some.inj first).symm ?_
    intro caret again
    cases again
  | some caret =>
    rw [found] at first
    rw [← Option.some.inj first]
    constructor
    · intro same other again
      cases again
      exact same
    · intro same
      exact same caret rfl

theorem PrimaryLeads.primary_merge (leads : carets.PrimaryLeads) :
    carets.merge.primary = carets.primary := by
  refine carets.primary_merge_iff.mpr fun caret found => ?_
  exact absurd (offset_of_find? found) (leads caret (List.mem_of_find?_eq_some found))

theorem Ascending.primaryLeads (ascending : carets.Ascending) : carets.PrimaryLeads := by
  intro caret member
  have before := (List.pairwise_append.mp ascending).2.2 caret member carets.primary List.mem_cons_self
  exact Nat.ne_of_lt before

/-- No other call than a move brings a caret in front of the primary one to its offset. -/
theorem PrimaryLeads.call {call : CaretCall} (leads : carets.PrimaryLeads)
    (apart : ¬carets.Collides call) : (carets.call call).PrimaryLeads := by
  cases call with
  | add caret => exact leads
  | merge => exact carets.ascending_merge.primaryLeads
  | retainPrimary => exact nofun
  | move index offset =>
    obtain ⟨notBefore, notPrimary⟩ := not_or.mp apart
    unfold CaretSet.call modify
    dsimp only
    split
    · rename_i inFront
      intro caret member
      rcases mem_list_modify member with stood | ⟨old, _, rfl⟩
      · exact leads caret stood
      · exact fun same => notBefore ⟨inFront, same⟩
    · split
      · rename_i isPrimary
        intro caret member same
        exact notPrimary ⟨isPrimary, caret, member, same⟩
      · exact leads

theorem callAll_append_one (calls : List CaretCall) (call : CaretCall) :
    carets.callAll (calls ++ [call]) = (carets.callAll calls).call call := by
  unfold callAll
  rw [List.foldl_append]
  rfl

/-- By induction on the calls, as long as none of them collides. -/
theorem PrimaryLeads.callAll {calls : List CaretCall} (leads : carets.PrimaryLeads)
    (apart : ∀ before call, before ++ [call] <+: calls → ¬(carets.callAll before).Collides call) :
    (carets.callAll calls).PrimaryLeads := by
  induction calls using List.reverseRecOn with
  | nil => exact leads
  | append_singleton before call ih =>
    rw [callAll_append_one]
    refine (ih fun earlier other along => ?_).call (apart before call (List.prefix_refl _))
    exact apart earlier other (along.trans (List.prefix_append before [call]))

/-- Whatever has been added, moved, merged and dropped since there was one caret: merging leaves the carets in
strictly ascending order, at the same offsets, at each of them the first caret that was there. The
primary caret stays at its offset, but it is the same caret just if no other one there stood in front of
it in the list. That is so if no move has ever brought a caret in front of the primary one to its offset, or the
primary one to the offset of such a caret. -/
theorem merge_callAll (start : Nat) (calls : List CaretCall) :
    let carets := (single (.ofOffset start)).callAll calls
    carets.merge.toList.Pairwise (fun first second => first.offset < second.offset) ∧
      (∀ offset, (∃ caret ∈ carets.merge.toList, caret.offset = offset) ↔
        ∃ caret ∈ carets.toList, caret.offset = offset) ∧
      (∀ offset, carets.merge.toList.find? (·.offset = offset) =
        carets.toList.find? (·.offset = offset)) ∧
      carets.merge.primary.offset = carets.primary.offset ∧
      (carets.merge.primary = carets.primary ↔
        ∀ caret, carets.before.find? (·.offset = carets.primary.offset) = some caret →
          caret = carets.primary) ∧
      ((∀ before call, before ++ [call] <+: calls →
          ¬((single (.ofOffset start)).callAll before).Collides call) →
        carets.merge.primary = carets.primary) := by
  intro carets
  refine ⟨carets.ascending_merge, carets.exists_offset_merge, carets.firstAt?_merge,
    carets.offset_primary_merge, carets.primary_merge_iff, fun apart => ?_⟩
  have leads : (single (.ofOffset start)).PrimaryLeads := nofun
  exact (leads.callAll apart).primary_merge

/-- A caret that selects text, moved onto the primary one, takes its place when they are merged. -/
example :
    let carets := (single (.ofOffset 5)).callAll
      [.add { offset := 1, anchor? := some 0 }, .merge, .move 0 5]
    carets.primary = .ofOffset 5 ∧
      carets.merge.primary = { offset := 5, anchor? := some 0 } := by
  decide

end CaretSet

end ModalEdit

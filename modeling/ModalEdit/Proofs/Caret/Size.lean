import ModalEdit.Proofs.Caret.Order
import ModalEdit.Proofs.Edit.Edited
import ModalEdit.Proofs.Window.Showing

/-!
How many carets there are after each way to change them, and which ways leave carets at rest alone.
-/

set_option autoImplicit false

namespace ModalEdit

namespace CaretSet

theorem size_map (f : Caret → Caret) (carets : CaretSet) : (carets.map f).size = carets.size := by
  unfold size
  rw [toList_map, List.length_map]

theorem size_modify (carets : CaretSet) (index : Nat) (f : Caret → Caret) :
    (carets.modify index f).size = carets.size := by
  unfold size
  rw [toList_modify, List.length_modify]

theorem size_modifyPrimary (carets : CaretSet) (f : Caret → Caret) :
    (carets.modifyPrimary f).size = carets.size := by
  simp only [size, toList, modifyPrimary, List.length_append, List.length_cons]

/-- A single caret stays one when carets are merged. -/
theorem size_merge {carets : CaretSet} (alone : carets.size = 1) : carets.merge.size = 1 := by
  obtain ⟨caret, only⟩ := List.length_eq_one_iff.mp alone
  unfold size
  rw [toList_merge, only]
  rfl

/-- A single caret is the primary one. -/
theorem eq_single {carets : CaretSet} (alone : carets.size = 1) : carets = .single carets.primary := by
  obtain ⟨before, primary, after⟩ := carets
  have length : before.length + (after.length + 1) = 1 := by
    rw [← List.length_cons, ← List.length_append]
    exact alone
  have none : before = [] ∧ after = [] :=
    ⟨List.length_eq_zero_iff.mp (by omega), List.length_eq_zero_iff.mp (by omega)⟩
  rw [none.1, none.2]
  rfl

theorem map_single (f : Caret → Caret) (caret : Caret) :
    (single caret).map f = .single (f caret) :=
  rfl

/-- A caret in front of all others is put there. -/
theorem insertByOffset_of_lt {caret : Caret} {carets : List Caret}
    (first : ∀ other ∈ carets, caret.offset < other.offset) :
    insertByOffset caret carets = caret :: carets := by
  cases carets with
  | nil => rfl
  | cons head rest =>
    have before := first head List.mem_cons_self
    unfold insertByOffset
    rw [if_pos before]

theorem distinctByOffset_of_ascending {carets : List Caret}
    (ascending : carets.Pairwise fun first second => first.offset < second.offset) :
    distinctByOffset carets = carets := by
  induction carets with
  | nil => rfl
  | cons head rest ih =>
    obtain ⟨headFirst, restAscending⟩ := List.pairwise_cons.mp ascending
    have kept : distinctByOffset rest = rest := ih restAscending
    have front := insertByOffset_of_lt headFirst
    rw [← kept] at front
    rw [distinctByOffset, List.foldr_cons, ← distinctByOffset, front, kept]

/-- Carets that stand in order and apart are merged already. -/
theorem merge_of_ascending {carets : CaretSet} (ascending : carets.Ascending) :
    carets.merge = carets := by
  have sorted : distinctByOffset carets.toList = carets.before ++ carets.primary :: carets.after :=
    distinctByOffset_of_ascending ascending
  unfold merge
  dsimp only
  generalize isBeforeEq : (fun caret : Caret => caret.offset != carets.primary.offset) = isBefore
  -- The primary caret is found again by its offset: all carets in front of it have another one.
  have earlier : ∀ caret ∈ carets.before, isBefore caret = true := by
    intro caret member
    have before := (List.pairwise_append.mp ascending).2.2 caret member carets.primary
      List.mem_cons_self
    rw [← isBeforeEq]
    exact bne_iff_ne.mpr (Nat.ne_of_lt before)
  have here : ¬isBefore carets.primary = true := by
    rw [← isBeforeEq]
    exact fun absurd => bne_iff_ne.mp absurd rfl
  rw [sorted, List.dropWhile_append_of_pos earlier, List.takeWhile_append_of_pos earlier,
    List.dropWhile_cons_of_neg here, List.takeWhile_cons_of_neg here, List.append_nil]

/-- A change that leaves every caret where it is changes nothing. -/
theorem map_of_fixed {carets : CaretSet} {f : Caret → Caret}
    (fixed : ∀ caret ∈ carets.toList, f caret = caret) : carets.map f = carets := by
  have before : carets.before.map f = carets.before :=
    (List.map_congr_left fun caret member => fixed caret (List.mem_append_left _ member)).trans
      (List.map_id _)
  have after : carets.after.map f = carets.after :=
    (List.map_congr_left fun caret member =>
      fixed caret (List.mem_append_right _ (List.mem_cons_of_mem _ member))).trans (List.map_id _)
  unfold map
  rw [before, after, fixed carets.primary carets.primary_mem]

end CaretSet

namespace Window

theorem Scrolls.size {before after : Window} (scrolls : before.Scrolls after) :
    after.carets.size = before.carets.size := by
  obtain ⟨_, _, f, _, moved⟩ := scrolls
  rw [moved]
  exact CaretSet.size_modifyPrimary before.carets f

/-- A window that stays where it is, at most looked at from elsewhere. -/
theorem carets_scrollPages_of_stayed {window : Window} {down bell : Bool} {count : Nat}
    {context : ScrollContext} (stayed : (window.scrollPages down count context).2 = .stayed bell) :
    (window.scrollPages down count context).1.carets = window.carets := by
  unfold scrollPages at stayed ⊢
  dsimp only at stayed ⊢
  split
  · rfl
  · rename_i shown
    rw [if_neg shown] at stayed
    generalize (if down then _ else _) = target at stayed ⊢
    split
    · rename_i moves
      rw [if_pos moves] at stayed
      cases stayed
    · split
      · exact window.carets_scrollView _ _
      · exact window.carets_scrollView _ _

theorem carets_scrollHalfPage_of_stayed {window : Window} {down bell : Bool} {amount : Nat}
    {context : ScrollContext}
    (stayed : (window.scrollHalfPage down amount context).2 = .stayed bell) :
    (window.scrollHalfPage down amount context).1.carets = window.carets := by
  unfold scrollHalfPage at stayed ⊢
  dsimp only at stayed ⊢
  split
  · rfl
  · rename_i possible
    rw [if_neg possible] at stayed
    cases stayed

theorem carets_scrollLines_of_stayed {window : Window} {down bell : Bool} {count : Nat}
    {context : ScrollContext} (stayed : (window.scrollLines down count context).2 = .stayed bell) :
    (window.scrollLines down count context).1.carets = window.carets := by
  unfold scrollLines at stayed ⊢
  dsimp only at stayed ⊢
  revert stayed
  generalize (if down then _ else _) = top
  intro stayed
  split
  · rfl
  · rename_i moves
    rw [if_neg moves] at stayed
    cases stayed

theorem carets_scrollColumns_of_stayed {window : Window} {right bell : Bool} {count : Nat}
    {context : ScrollContext}
    (stayed : (window.scrollColumns right count context).2 = .stayed bell) :
    (window.scrollColumns right count context).1.carets = window.carets := by
  unfold scrollColumns at stayed ⊢
  dsimp only at stayed ⊢
  generalize (if right then _ else _) = left at stayed ⊢
  split
  · rfl
  · rename_i moves
    rw [if_neg moves] at stayed
    cases stayed

end Window

namespace Workspace

variable {before after : Workspace}

/-- Edits keep as many carets as there are. -/
theorem Edited.size (edited : Edited before after) : after.carets.size = before.carets.size := by
  induction edited with
  | refl => rfl
  | replace stop inserted _ _ ih => exact (CaretSet.size_map _ _).trans ih
  | moveCaret index _ _ ih => exact (CaretSet.size_modify _ index _).trans ih
  | record _ _ _ _ ih => exact ih

theorem size_begin (space : Workspace) : space.begin.carets.size = space.carets.size :=
  congrArg CaretSet.size space.carets_begin

end Workspace

end ModalEdit

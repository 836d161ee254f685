import Mathlib.Data.List.Induction
import ModalEdit.Proofs.Edit.Settings
import ModalEdit.Proofs.History.Journal

/-!
How many transactions can be undone. No more than the limit are kept when a transaction ends or the limit changes,
but redo does not look at the limit: a history goes beyond it just where redo makes a transaction again while
as many are kept already.
-/

set_option autoImplicit false

namespace ModalEdit

namespace History

/-- By how many transactions a history goes beyond its limit. -/
def excess (history : History) : Nat :=
  history.past.length - max history.limit 1

variable {history : History}

theorem excess_eq_zero_iff : history.excess = 0 ↔ history.past.length ≤ max history.limit 1 :=
  Nat.sub_eq_zero_iff_le

theorem excess_trim (history : History) : history.trim.excess = 0 := by
  rw [excess_eq_zero_iff]
  exact List.length_take_le _ _

/-- Ending a transaction takes any excess away, unless it is dropped. -/
theorem excess_commit_le (history : History) (caret : Nat) :
    (history.commit caret).excess ≤ history.excess := by
  unfold commit
  split
  · exact Nat.le_refl _
  · rename_i transaction isOpen
    dsimp only
    split
    · rename_i unchanged
      unfold close
      dsimp only
      rw [if_pos unchanged]
      exact Nat.le_refl _
    · rw [excess_trim]
      exact Nat.zero_le _

/-- What is still open is taken back at once, so it is never among the transactions that are kept. -/
theorem length_past_undo_le (history : History) (text : Document) :
    (history.undo text).1.past.length ≤ history.past.length := by
  have closed : history.close.past.length ≤ history.past.length + 1 := by
    unfold close
    split
    · exact Nat.le_succ _
    · split
      · exact Nat.le_succ _
      · exact Nat.le_refl _
  unfold undo
  dsimp only
  split
  · rename_i none
    rw [none]
    exact Nat.zero_le _
  · rename_i transaction past taken
    rw [taken, List.length_cons] at closed
    exact Nat.le_of_succ_le_succ closed

theorem excess_undo_le (history : History) (text : Document) :
    (history.undo text).1.excess ≤ history.excess := by
  unfold excess
  rw [limit_undo]
  exact Nat.sub_le_sub_right (length_past_undo_le history text) _

end History

namespace Journal

/-- Whether redo makes a transaction again while as many are kept as the limit allows. -/
def Overfills (journal : Journal) : HistoryOp → Prop
  | .redo => journal.history.future ≠ [] ∧
      max journal.history.limit 1 ≤ journal.history.past.length
  | _ => False

variable {journal : Journal}

/-- Any other operation than redo leaves no larger excess. -/
theorem excess_apply_le {op : HistoryOp} (journal : Journal) (other : op ≠ .redo) :
    (journal.apply op).1.history.excess ≤ journal.history.excess := by
  cases op with
  | begin caret => exact History.excess_commit_le journal.history caret
  | replace start stop inserted =>
    unfold apply History.replace History.record
    dsimp only
    split <;> exact Nat.le_refl _
  | commit caret => exact History.excess_commit_le journal.history caret
  | undo => exact History.excess_undo_le journal.history journal.text
  | redo => exact absurd rfl other
  | setLimit limit =>
    have trimmed : (journal.apply (.setLimit limit)).1.history.excess = 0 := History.excess_trim _
    rw [trimmed]
    exact Nat.zero_le _

/-- What redo makes again is one transaction more. -/
theorem length_past_redo (journal : Journal) :
    (journal.apply .redo).1.history.past.length =
      journal.history.past.length + if journal.history.future = [] then 0 else 1 := by
  unfold apply History.redo
  dsimp only
  split
  · rename_i none
    rw [if_pos none]
    rfl
  · rename_i transaction future more
    rw [if_neg (more ▸ List.cons_ne_nil transaction future)]
    rfl

theorem limit_redo (journal : Journal) :
    (journal.apply .redo).1.history.limit = journal.history.limit :=
  History.limit_redo journal.text

theorem excess_redo_le (journal : Journal) :
    (journal.apply .redo).1.history.excess ≤ journal.history.excess + 1 := by
  rw [History.excess, limit_redo, length_past_redo, History.excess]
  split <;> omega

/-- One operation keeps the limit just if it does not overfill the history. -/
theorem apply_within_iff (within : journal.history.excess = 0) (op : HistoryOp) :
    (journal.apply op).1.history.excess = 0 ↔ ¬journal.Overfills op := by
  by_cases isRedo : op = .redo
  · subst isRedo
    rw [History.excess_eq_zero_iff] at within ⊢
    rw [limit_redo, length_past_redo, Overfills]
    split
    · rename_i none
      exact iff_of_true within fun both => both.1 none
    · rename_i more
      constructor
      · intro fits both
        omega
      · intro fits
        have notFull := not_and.mp fits more
        omega
  · have kept := journal.excess_apply_le isRedo
    refine iff_of_true (Nat.le_zero.mp (within ▸ kept)) ?_
    cases op with
    | redo => exact absurd rfl isRedo
    | _ => exact id

theorem run_append_one (journal : Journal) (ops : List HistoryOp) (op : HistoryOp) :
    (journal.run (ops ++ [op])).1 = ((journal.run ops).1.apply op).1 :=
  journal.run_append ops [op]

/-- By induction on the operations: each redo adds one transaction to the excess at most. -/
theorem excess_run_le (journal : Journal) (ops : List HistoryOp) :
    (journal.run ops).1.history.excess ≤ journal.history.excess + ops.count .redo := by
  induction ops using List.reverseRecOn with
  | nil => exact Nat.le_refl _
  | append_singleton before op ih =>
    rw [run_append_one, List.count_append, List.count_singleton]
    by_cases isRedo : op = .redo
    · have step := excess_redo_le (journal.run before).1
      subst isRedo
      rw [beq_self_eq_true, if_pos rfl]
      omega
    · have step := excess_apply_le (journal.run before).1 isRedo
      omega

/-- A character typed, taken back while its transaction is open, and typed again by redo. -/
def round : List HistoryOp :=
  [.begin 0, .replace 0 0 ['x'], .undo, .redo]

theorem length_past_round (closed : journal.history.open? = none) :
    (journal.run round).1.history.open? = none ∧
      (journal.run round).1.history.past.length = journal.history.past.length + 1 := by
  simp [round, run, apply, History.begin, History.commit, History.replace, History.record,
    Change.isEmpty, History.undo, History.close, History.redo, closed]

/-- The limit is never looked at in such rounds, so any number of transactions can be kept under any limit. -/
theorem length_past_rounds (closed : journal.history.open? = none) (rounds : Nat) :
    (journal.run (List.replicate rounds round).flatten).1.history.past.length =
      journal.history.past.length + rounds := by
  induction rounds generalizing journal with
  | zero => rfl
  | succ rounds ih =>
    obtain ⟨stillClosed, longer⟩ := length_past_round closed
    rw [List.replicate_succ, List.flatten_cons, run_append, ih stillClosed, longer]
    omega

/-- Whatever is done with a fresh history: no more transactions can be undone than are kept, all along, just if
redo never makes one again while as many are kept already. In the end there are as many more as redo has been
used, at most, and that many there may be: rounds of typing, undo and redo keep one transaction each, under
any limit. -/
theorem within_limit_along_iff (text : Document) (limit : Nat) (ops : List HistoryOp) :
    let reached := fun before => (run ⟨{ limit }, text⟩ before).1
    ((∀ before, before <+: ops →
        (reached before).history.past.length ≤ max (reached before).history.limit 1) ↔
      ∀ before op, before ++ [op] <+: ops → ¬(reached before).Overfills op) ∧
    (reached ops).history.past.length ≤ max (reached ops).history.limit 1 + ops.count .redo ∧
    ∀ rounds, (reached (List.replicate rounds round).flatten).history.past.length = rounds := by
  intro reached
  have step {before : List HistoryOp} (op : HistoryOp) (within : (reached before).history.excess = 0) :
      (reached (before ++ [op])).history.excess = 0 ↔ ¬(reached before).Overfills op := by
    have next : reached (before ++ [op]) = _ := run_append_one ⟨{ limit }, text⟩ before op
    rw [next]
    exact apply_within_iff within op
  simp only [← History.excess_eq_zero_iff]
  refine ⟨⟨fun within before op along => ?_, fun fits before => ?_⟩, ?_, fun rounds => ?_⟩
  · have earlier : before <+: ops := (List.prefix_append before [op]).trans along
    exact (step op (within before earlier)).mp (within _ along)
  · induction before using List.reverseRecOn with
    | nil => exact fun _ => Nat.zero_sub _
    | append_singleton before op ih =>
      intro along
      have earlier : before <+: ops := (List.prefix_append before [op]).trans along
      exact (step op (ih earlier)).mpr (fits before op along)
  · have bound := excess_run_le ⟨{ limit }, text⟩ ops
    have fresh : History.excess { limit } = 0 := Nat.zero_sub _
    rw [fresh, History.excess] at bound
    dsimp only [reached]
    omega
  · have kept := @length_past_rounds ⟨{ limit }, text⟩ rfl rounds
    exact kept.trans (Nat.zero_add rounds)

end Journal

end ModalEdit

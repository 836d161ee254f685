import ModalEdit.Proofs.History.Story

/-!
Text that was put behind the end of the text is not gone once everything has been undone. The surplus
of a journal is the length that would be left if taking a change back took exactly what the change had
added. It never gets smaller, and taking a change back that overhangs the text makes it larger.
-/

set_option autoImplicit false

namespace ModalEdit

namespace Change

/-- By how much a change makes a text longer. -/
def growth (change : Change) : Int :=
  change.inserted.length - change.removed.length

/-- By how much changes make a text longer. -/
def growthOf : List Change → Int
  | [] => 0
  | change :: earlier => change.growth + growthOf earlier

/-- Whether what a change inserts reaches beyond a text of some length. -/
structure Overhangs (change : Change) (length : Int) : Prop where
  inserts : change.inserted ≠ []
  beyond : length < change.offset + change.inserted.length

theorem growthOf_cons (change : Change) (changes : List Change) :
    growthOf (change :: changes) = change.growth + growthOf changes := rfl

theorem growthOf_append (first second : List Change) :
    growthOf (first ++ second) = growthOf first + growthOf second := by
  induction first with
  | nil => exact (Int.zero_add _).symm
  | cons change rest ih => rw [List.cons_append, growthOf_cons, growthOf_cons, ih, Int.add_assoc]

theorem length_replace_anywhere (text : Document) (start stop : Nat) (inserted : List Char) :
    (text.replace start stop inserted).length =
      min start text.length + inserted.length + (text.length - max start stop) := by
  simp only [Document.replace, List.length_append, List.length_take, List.length_drop]

/-- Making a change makes a text longer by the growth at least. -/
theorem add_growth_le (change : Change) (text : Document) :
    text.length + change.growth ≤ (change.apply text).length := by
  unfold apply growth
  rw [length_replace_anywhere]
  omega

theorem sub_growth_le (change : Change) (text : Document) :
    text.length - change.growth ≤ (change.inverse.apply text).length := by
  have grows := change.inverse.add_growth_le text
  unfold inverse at grows ⊢
  unfold growth at grows ⊢
  dsimp only at grows
  omega

/-- Taking back a change that overhangs the text leaves some of what it inserted. -/
theorem sub_growth_lt {change : Change} {text : Document} (overhangs : change.Overhangs text.length) :
    text.length - change.growth < (change.inverse.apply text).length := by
  have some := List.length_pos_iff.mpr overhangs.inserts
  have beyond := overhangs.beyond
  unfold inverse apply growth
  dsimp only
  rw [length_replace_anywhere]
  omega

/-- A replacement lengthens the text by what its record says, wherever it is made. -/
theorem length_replace_eq (text : Document) (start stop : Nat) (inserted : List Char) :
    ((text.replace start stop inserted).length : Int) =
      text.length + growth ⟨start, text.slice start stop, inserted⟩ := by
  unfold growth
  dsimp only
  rw [length_replace_anywhere, Document.length_slice]
  omega

end Change

namespace Transaction

open Change (growthOf)

theorem sub_growth_le_undo (changes : List Change) (text : Document) :
    text.length - growthOf changes ≤
      (changes.foldl (fun text change => change.inverse.apply text) text).length := by
  induction changes generalizing text with
  | nil =>
    rw [growthOf, List.foldl_nil]
    omega
  | cons change rest ih =>
    have here := change.sub_growth_le text
    have others := ih (change.inverse.apply text)
    rw [Change.growthOf_cons, List.foldl_cons]
    omega

theorem add_growth_le_redo (changes : List Change) (text : Document) :
    text.length + growthOf changes ≤ (changes.foldr Change.apply text).length := by
  induction changes with
  | nil =>
    rw [growthOf, List.foldr_nil]
    omega
  | cons change rest ih =>
    have here := change.add_growth_le (rest.foldr Change.apply text)
    rw [Change.growthOf_cons, List.foldr_cons]
    omega

/-- Changes taken back leave something behind if one of them overhangs the text that is left when
exactly what the ones above it have added is gone. -/
theorem sub_growth_lt_undo {above below : List Change} {change : Change} {text : Document}
    (overhangs : change.Overhangs (text.length - growthOf above)) :
    text.length - growthOf (above ++ change :: below) <
      ((above ++ change :: below).foldl
        (fun text change => change.inverse.apply text) text).length := by
  have first := sub_growth_le_undo above text
  rw [List.foldl_append, List.foldl_cons, Change.growthOf_append, Change.growthOf_cons]
  generalize above.foldl _ text = reached at first ⊢
  have last := sub_growth_le_undo below (change.inverse.apply reached)
  by_cases exact : (reached.length : Int) = text.length - growthOf above
  · have here := Change.sub_growth_lt (exact ▸ overhangs)
    omega
  · have here := change.sub_growth_le reached
    omega

end Transaction

namespace History

/-- The changes that undo would take back, the latest first. -/
def recorded (history : History) : List Change :=
  history.open?.elim [] Transaction.changes ++ history.past.flatMap Transaction.changes

theorem recorded_close (history : History) : history.close.recorded = history.recorded := by
  unfold close
  split
  · rfl
  · rename_i transaction isOpen
    split
    · rename_i unchanged
      simp only [recorded, isOpen, Option.elim_none, Option.elim_some, unchanged]
    · simp only [recorded, isOpen, Option.elim_none, Option.elim_some, List.nil_append,
        List.flatMap_cons]

theorem recorded_trim {history : History} (kept : history.trim.forgotten = history.forgotten) :
    history.trim.recorded = history.recorded := by
  have few := past_trim kept
  simp only [recorded, trim, List.take_of_length_le few]

theorem recorded_commit {history : History} {caret : Nat}
    (kept : (history.commit caret).forgotten = history.forgotten) :
    (history.commit caret).recorded = history.recorded := by
  unfold commit at kept ⊢
  cases isOpen : history.open? with
  | none => rfl
  | some transaction =>
    rw [isOpen] at kept
    have same : recorded { history with
        open? := some { transaction with caretAfter := caret } } = history.recorded := by
      simp only [recorded, isOpen, Option.elim_some]
    have closed := forgotten_close { history with
      open? := some { transaction with caretAfter := caret } }
    rw [← same]
    dsimp only at kept closed ⊢
    by_cases unchanged : transaction.changes = []
    · rw [if_pos unchanged]
      exact recorded_close _
    · rw [if_neg unchanged] at kept ⊢
      exact (recorded_trim (kept.trans closed.symm)).trans (recorded_close _)

end History

namespace Journal

open Change (growthOf)

/-- The length that is left when what the recorded changes have added is gone. -/
def surplus (journal : Journal) : Int :=
  journal.text.length - growthOf journal.history.recorded

/-- Whether an operation changes the text only while that is recorded. -/
def Brackets (journal : Journal) : HistoryOp → Prop
  | .replace .. => journal.history.inTransaction = true
  | .redo => journal.history.inTransaction = false
  | _ => True

/-- What an operation can do to the text and to the changes that undo would take back. -/
inductive Moves (before after : Journal) : Prop where
  | stay (text : after.text = before.text)
      (recorded : after.history.recorded = before.history.recorded)
  | replace (change : Change)
      (length : (after.text.length : Int) = before.text.length + change.growth)
      (recorded : after.history.recorded = change :: before.history.recorded)
  | undo (transaction : Transaction) (text : after.text = transaction.undo before.text)
      (recorded : before.history.recorded = transaction.changes ++ after.history.recorded)
  | redo (transaction : Transaction) (text : after.text = transaction.redo before.text)
      (recorded : after.history.recorded = transaction.changes ++ before.history.recorded)

theorem Permits.brackets {journal : Journal} {op : HistoryOp} (permitted : journal.Permits op) :
    journal.Brackets op := by
  cases op with
  | replace start stop inserted => exact permitted.1
  | redo => exact permitted
  | _ => trivial

theorem Strays.brackets {journal : Journal} {op : HistoryOp} (strays : journal.Strays op) :
    journal.Brackets op := by
  cases op with
  | replace start stop inserted => exact strays.1
  | _ => exact strays.elim

theorem recorded_replace {history : History} {text : Document} {start stop : Nat}
    {inserted : List Char} (opened : history.inTransaction = true)
    (some : (Change.mk start (text.slice start stop) inserted).isEmpty = false) :
    (history.replace text start stop inserted).1.recorded =
      ⟨start, text.slice start stop, inserted⟩ :: history.recorded := by
  obtain ⟨transaction, isOpen⟩ := Option.isSome_iff_exists.mp opened
  simp only [History.replace, History.record, some, Bool.false_eq_true, ↓reduceIte,
    History.recorded, isOpen, Option.map_some, Option.elim_some, List.cons_append]

theorem moves_undo (journal : Journal) : journal.Moves (journal.apply .undo).1 := by
  obtain ⟨history, text⟩ := journal
  have closed := history.recorded_close
  have isOpen := history.open?_close
  unfold apply History.undo
  dsimp only
  cases pastEq : history.close.past with
  | nil => exact .stay rfl closed
  | cons transaction past =>
    refine .undo transaction rfl (closed.symm.trans ?_)
    simp only [History.recorded, isOpen, pastEq, Option.elim_none, List.nil_append,
      List.flatMap_cons]

theorem moves_redo {journal : Journal} (closed : journal.history.inTransaction = false) :
    journal.Moves (journal.apply .redo).1 := by
  obtain ⟨history, text⟩ := journal
  have isOpen : history.open? = none :=
    Option.isNone_iff_eq_none.mp (Option.isSome_eq_false_iff.mp closed)
  unfold apply History.redo
  dsimp only
  cases futureEq : history.future with
  | nil => exact .stay rfl rfl
  | cons transaction future =>
    refine .redo transaction rfl ?_
    simp only [History.recorded, isOpen, Option.elim_none, List.nil_append, List.flatMap_cons]

/-- As long as nothing is forgotten, an operation does nothing else. -/
theorem moves_apply {journal : Journal} {op : HistoryOp} (brackets : journal.Brackets op)
    (kept : (journal.apply op).1.history.forgotten = journal.history.forgotten) :
    journal.Moves (journal.apply op).1 := by
  cases op with
  | begin caret =>
    have committed : (journal.history.commit caret).recorded = journal.history.recorded :=
      History.recorded_commit kept
    refine .stay rfl (Eq.trans ?_ committed)
    have closed := journal.history.open?_commit caret
    simp only [apply, History.begin, History.recorded, closed, Option.elim_none, Option.elim_some]
  | replace start stop inserted =>
    cases empty : (Change.mk start (journal.text.slice start stop) inserted).isEmpty with
    | true =>
      have same : journal.text.replace start stop inserted = journal.text := by
        rw [← Change.apply_recorded, Change.apply_of_isEmpty empty]
      refine .stay same ?_
      simp only [apply, History.replace, History.record, empty, ↓reduceIte]
    | false =>
      exact .replace _ (Change.length_replace_eq _ _ _ _) (recorded_replace brackets empty)
  | commit caret => exact .stay rfl (History.recorded_commit kept)
  | undo => exact journal.moves_undo
  | redo => exact moves_redo brackets
  | setLimit limit => exact .stay rfl (@History.recorded_trim { journal.history with limit } kept)

/-- Whether something is left of what was put behind the end, or will be once it is undone. -/
inductive Lingers (length : Int) (journal : Journal) : Prop where
  | left (more : length < journal.surplus)
  | recorded (above : List Change) (change : Change) (below : List Change)
      (split : journal.history.recorded = above ++ change :: below)
      (overhangs : change.Overhangs (length + growthOf (change :: below)))

variable {before after : Journal} {length : Int}

theorem surplus_le_of_moves (moves : before.Moves after) : before.surplus ≤ after.surplus := by
  unfold surplus
  cases moves with
  | stay text recorded =>
    refine Int.le_of_eq ?_
    rw [text, recorded]
  | replace change grown recorded =>
    rw [recorded, Change.growthOf_cons]
    omega
  | undo transaction text recorded =>
    have taken := Transaction.sub_growth_le_undo transaction.changes before.text
    rw [text, recorded, Change.growthOf_append]
    unfold Transaction.undo
    omega
  | redo transaction text recorded =>
    have made := Transaction.add_growth_le_redo transaction.changes before.text
    rw [text, recorded, Change.growthOf_append]
    unfold Transaction.redo
    omega

/-- Where a transaction is taken back with a change that overhangs, something of that is left. -/
theorem surplus_lt_of_undo {transaction : Transaction} {above inside : List Change} {change : Change}
    (text : after.text = transaction.undo before.text)
    (taken : before.history.recorded = transaction.changes ++ after.history.recorded)
    (changes : transaction.changes = above ++ change :: inside)
    (overhangs : change.Overhangs
      (before.surplus + growthOf (change :: (inside ++ after.history.recorded)))) :
    before.surplus < after.surplus := by
  unfold surplus at overhangs ⊢
  rw [taken, changes] at overhangs ⊢
  rw [text, Transaction.undo, changes]
  have leaves : change.Overhangs (before.text.length - growthOf above) := by
    refine ⟨overhangs.inserts, ?_⟩
    have beyond := overhangs.beyond
    simp only [Change.growthOf_append, Change.growthOf_cons] at beyond
    omega
  have undone := @Transaction.sub_growth_lt_undo above inside change before.text leaves
  rw [Change.growthOf_append]
  omega

/-- Text that lingers goes on lingering. -/
theorem lingers_of_moves (moves : before.Moves after) (atLeast : length ≤ before.surplus)
    (lingers : before.Lingers length) : after.Lingers length := by
  have grows := surplus_le_of_moves moves
  cases lingers with
  | left more => exact .left (by omega)
  | recorded above change below split overhangs =>
    cases moves with
    | stay _ same => exact .recorded above change below (same.trans split) overhangs
    | replace added _ longer =>
      exact .recorded (added :: above) change below (by rw [longer, split]; rfl) overhangs
    | redo transaction _ longer =>
      refine .recorded (transaction.changes ++ above) change below ?_ overhangs
      rw [longer, split, List.append_assoc]
    | undo transaction text taken =>
      rcases List.append_eq_append_iff.mp (taken.symm.trans split) with
        ⟨others, _, rest⟩ | ⟨others, changes, rest⟩
      · exact .recorded others change below rest overhangs
      · cases others with
        | nil => exact .recorded [] change below rest.symm overhangs
        | cons first inside =>
          rw [List.cons_append] at rest
          obtain ⟨rfl, rfl⟩ := List.cons.inj rest
          by_cases exact : before.surplus = length
          · subst exact
            exact .left (surplus_lt_of_undo text taken changes overhangs)
          · exact .left (by omega)

/-- Text that strays lingers from then on. -/
theorem lingers_of_strays {journal : Journal} {op : HistoryOp} (strays : journal.Strays op)
    (atLeast : length ≤ journal.surplus) : (journal.apply op).1.Lingers length := by
  cases op with
  | replace start stop inserted =>
    obtain ⟨opened, behind, some⟩ := strays
    have visible : (Change.mk start (journal.text.slice start stop) inserted).isEmpty = false := by
      simp only [Change.isEmpty, Bool.and_eq_false_iff, List.isEmpty_eq_false_iff]
      exact Or.inr some
    have recorded := recorded_replace opened visible
    have grown := Change.length_replace_eq journal.text start stop inserted
    by_cases exact : journal.surplus = length
    · refine .recorded [] _ journal.history.recorded recorded ⟨some, ?_⟩
      unfold surplus at exact
      have nothing : journal.text.slice start stop = [] := by
        apply List.eq_nil_of_length_eq_zero
        rw [Document.length_slice]
        omega
      simp only [Change.growthOf_cons, Change.growth, nothing, List.length_nil]
      omega
    · refine .left ?_
      have same : (journal.apply (.replace start stop inserted)).1.surplus = journal.surplus := by
        unfold surplus
        rw [show (journal.apply (.replace start stop inserted)).1.history.recorded = _ from recorded,
          Change.growthOf_cons]
        change ((journal.text.replace start stop inserted).length : Int) - _ = _
        omega
      omega
  | _ => exact strays.elim

theorem surplus_run {journal : Journal} {ops : List HistoryOp} (permitted : journal.PermitsAll ops)
    (kept : (journal.run ops).1.history.forgotten = journal.history.forgotten) :
    journal.surplus ≤ (journal.run ops).1.surplus := by
  induction ops generalizing journal with
  | nil => exact Int.le_refl _
  | cons op rest ih =>
    have now := journal.forgotten_le_apply op
    have later := (journal.apply op).1.forgotten_le_run rest
    have last : ((journal.apply op).1.run rest).1.history.forgotten = journal.history.forgotten :=
      kept
    have here := surplus_le_of_moves (moves_apply permitted.1.brackets (by omega))
    exact Int.le_trans here (ih permitted.2 (by omega))

theorem StraysTo.forgotten_le {start journal : Journal} (strayed : start.StraysTo journal) :
    start.history.forgotten ≤ journal.history.forgotten := by
  induction strayed with
  | first leads _ => exact Nat.le_trans leads.forgotten_le (forgotten_le_apply _ _)
  | again _ _ ih => exact Nat.le_trans ih (forgotten_le_apply _ _)
  | permitted _ _ ih => exact Nat.le_trans ih (forgotten_le_apply _ _)

/-- By induction on the operations: since text has strayed, it lingers as long as nothing is
forgotten. -/
theorem StraysTo.lingers {start journal : Journal} (strayed : start.StraysTo journal)
    (kept : journal.history.forgotten = start.history.forgotten) :
    start.surplus ≤ journal.surplus ∧ journal.Lingers start.surplus := by
  induction strayed with
  | first leads strays =>
    rename_i journal op
    have now := journal.forgotten_le_apply op
    have before := leads.forgotten_le
    obtain ⟨ops, permitted, rfl⟩ := leads
    have atLeast := surplus_run permitted (by omega)
    have moves := moves_apply strays.brackets (by omega)
    exact ⟨Int.le_trans atLeast (surplus_le_of_moves moves), lingers_of_strays strays atLeast⟩
  | again strayed strays ih =>
    rename_i journal op
    have now := journal.forgotten_le_apply op
    have before := strayed.forgotten_le
    obtain ⟨atLeast, lingers⟩ := ih (by omega)
    have moves := moves_apply strays.brackets (by omega)
    exact ⟨Int.le_trans atLeast (surplus_le_of_moves moves), lingers_of_moves moves atLeast lingers⟩
  | permitted strayed permitted ih =>
    rename_i journal op
    have now := journal.forgotten_le_apply op
    have before := strayed.forgotten_le
    obtain ⟨atLeast, lingers⟩ := ih (by omega)
    have moves := moves_apply permitted.brackets (by omega)
    exact ⟨Int.le_trans atLeast (surplus_le_of_moves moves), lingers_of_moves moves atLeast lingers⟩

/-- Once everything has been undone and nothing forgotten, the text is longer than at first. -/
theorem StraysTo.length_of_undone {text : Document} {limit : Nat} {journal : Journal}
    (strayed : StraysTo ⟨{ limit }, text⟩ journal) (kept : journal.history.forgotten = 0)
    (undone : journal.history.past = []) (closed : journal.history.open? = none) :
    text.length < journal.text.length := by
  have nothing : journal.history.recorded = [] := by
    simp only [History.recorded, undone, closed, Option.elim_none, List.flatMap_nil,
      List.append_nil]
  have first : surplus ⟨{ limit }, text⟩ = text.length := Int.sub_zero _
  have last : journal.surplus = journal.text.length := by
    unfold surplus
    rw [nothing]
    exact Int.sub_zero _
  obtain ⟨_, lingers⟩ := strayed.lingers kept
  cases lingers with
  | left more => omega
  | recorded above change below split _ =>
    rw [nothing] at split
    exact absurd split.symm (List.append_ne_nil_of_right_ne_nil above (List.cons_ne_nil _ _))

end Journal

end ModalEdit

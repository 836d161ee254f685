import ModalEdit.Proofs.History.Journal

/-!
A history refines a timeline: each operation keeps the two in step, and so does every run of
permitted operations.
-/

set_option autoImplicit false

namespace ModalEdit

namespace History

theorem open?_close (history : History) : history.close.open? = none := by
  unfold close
  split
  · assumption
  · split <;> rfl

theorem open?_commit (history : History) (caret : Nat) :
    (history.commit caret).open? = none := by
  unfold commit
  split
  · assumption
  · dsimp only
    split
    · exact open?_close _
    · exact open?_close _

theorem inTransaction_commit (history : History) (caret : Nat) :
    (history.commit caret).inTransaction = false :=
  congrArg Option.isSome (history.open?_commit caret)

end History

namespace Timeline

/-- The timeline of a fresh history. -/
def start (text : Document) (limit : Nat) : Timeline where
  present := text
  limit := limit

theorem Stack.take {leads : Transaction → Document → Document → Prop}
    {transactions : List Transaction} {moments : List Moment} {now : Document}
    (stack : Stack leads transactions moments now) (count : Nat) :
    Stack leads (transactions.take count) (moments.take count) now := by
  induction stack generalizing count with
  | nil now =>
    rw [List.take_nil, List.take_nil]
    exact Stack.nil now
  | cons step before after _ ih =>
    cases count with
    | zero => exact Stack.nil _
    | succ count => exact Stack.cons step before after (ih count)

theorem Stack.length_eq {leads : Transaction → Document → Document → Prop}
    {transactions : List Transaction} {moments : List Moment} {now : Document}
    (stack : Stack leads transactions moments now) : transactions.length = moments.length := by
  induction stack with
  | nil => rfl
  | cons _ _ _ _ ih => rw [List.length_cons, List.length_cons, ih]

theorem describes_start (text : Document) (limit : Nat) :
    (start text limit).Describes ⟨{ limit }, text⟩ where
  present := rfl
  limit := rfl
  past := Stack.nil text
  future := Stack.nil text
  draft := Drafted.none text

section Steps

variable {timeline : Timeline} {history : History} {text : Document}

theorem describes_forget (described : timeline.Describes ⟨history, text⟩) :
    timeline.forget.Describes ⟨history.trim, text⟩ where
  present := described.present
  limit := described.limit
  past := by
    have same : max timeline.limit 1 = max history.limit 1 := by rw [described.limit]
    simp only [forget, History.trim, same]
    exact described.past.take _
  future := described.future
  draft := described.draft

theorem describes_setLimit (described : timeline.Describes ⟨history, text⟩) (limit : Nat) :
    ({ timeline with limit } : Timeline).forget.Describes ⟨history.setLimit limit, text⟩ := by
  apply describes_forget
  exact ⟨described.present, rfl, described.past, described.future, described.draft⟩

/-- What an open transaction and the draft that it goes with have in common. -/
theorem drafted_of_open {transaction : Transaction} {draft : Draft}
    (described : timeline.Describes ⟨history, text⟩)
    (isOpen : history.open? = some transaction) (isDraft : timeline.draft? = some draft) :
    transaction.Leads draft.text text ∧ transaction.caretBefore = draft.caret ∧
      transaction.caretAfter = draft.caret ∧ draft.edited = !transaction.changes.isEmpty := by
  have drafted := described.draft
  rw [isOpen, isDraft, described.present] at drafted
  cases drafted with
  | some leads before after edited => exact ⟨leads, before, after, edited⟩

theorem describes_keep {transaction : Transaction} {draft : Draft}
    (described : timeline.Describes ⟨history, text⟩)
    (isOpen : history.open? = some transaction) (isDraft : timeline.draft? = some draft)
    (caret : Nat) :
    (timeline.keep draft caret).Describes
      ⟨{ history with
          past := { transaction with caretAfter := caret } :: history.past
          future := []
          open? := none }, text⟩ := by
  obtain ⟨leads, before, _, _⟩ := drafted_of_open described isOpen isDraft
  have past := described.past
  simp only [base, isDraft, Option.map_some, Option.getD_some] at past
  refine ⟨described.present, described.limit, ?_, Stack.nil _, Drafted.none _⟩
  have now : (timeline.keep draft caret).base = text := described.present
  rw [now]
  exact Stack.cons leads before rfl past

theorem describes_drop {transaction : Transaction} {draft : Draft}
    (described : timeline.Describes ⟨history, text⟩)
    (isOpen : history.open? = some transaction) (isDraft : timeline.draft? = some draft)
    (unchanged : transaction.changes = []) :
    timeline.drop.Describes ⟨{ history with open? := none }, text⟩ := by
  obtain ⟨leads, _, _, _⟩ := drafted_of_open described isOpen isDraft
  have same : draft.text = timeline.present := by
    rw [described.present]
    simpa only [Transaction.Leads, unchanged, Change.Lead] using leads
  have past := described.past
  have future := described.future
  simp only [base, isDraft, Option.map_some, Option.getD_some, same] at past future
  exact ⟨described.present, described.limit, past, future, Drafted.none _⟩

/-- A timeline has a draft just when a transaction is open. -/
theorem draft?_cases (described : timeline.Describes ⟨history, text⟩) :
    (history.open? = none ∧ timeline.draft? = none) ∨
      ∃ transaction draft, history.open? = some transaction ∧ timeline.draft? = some draft := by
  have drafted := described.draft
  generalize openEq : history.open? = open? at drafted
  generalize draftEq : timeline.draft? = draft? at drafted
  cases drafted with
  | none => exact Or.inl ⟨rfl, rfl⟩
  | some => exact Or.inr ⟨_, _, rfl, rfl⟩

theorem draft?_eq_none (described : timeline.Describes ⟨history, text⟩)
    (closed : history.open? = none) : timeline.draft? = none := by
  rcases draft?_cases described with ⟨_, isDraft⟩ | ⟨_, _, someOpen, _⟩
  · exact isDraft
  · rw [closed] at someOpen
    cases someOpen

theorem exists_open {draft : Draft} (described : timeline.Describes ⟨history, text⟩)
    (isDraft : timeline.draft? = some draft) :
    ∃ transaction, history.open? = some transaction := by
  rcases draft?_cases described with ⟨_, noDraft⟩ | ⟨transaction, _, isOpen, _⟩
  · rw [noDraft] at isDraft
    cases isDraft
  · exact ⟨transaction, isOpen⟩

theorem exists_draft {transaction : Transaction} (described : timeline.Describes ⟨history, text⟩)
    (isOpen : history.open? = some transaction) : ∃ draft, timeline.draft? = some draft := by
  rcases draft?_cases described with ⟨closed, _⟩ | ⟨_, draft, _, isDraft⟩
  · rw [closed] at isOpen
    cases isOpen
  · exact ⟨draft, isDraft⟩

/-- A draft has been edited just when its transaction has changes. -/
theorem edited_iff {transaction : Transaction} {draft : Draft}
    (described : timeline.Describes ⟨history, text⟩)
    (isOpen : history.open? = some transaction) (isDraft : timeline.draft? = some draft) :
    draft.edited = true ↔ transaction.changes ≠ [] := by
  obtain ⟨_, _, _, edited⟩ := drafted_of_open described isOpen isDraft
  rw [edited, Bool.not_eq_true', List.isEmpty_eq_false_iff]

theorem describes_commit (described : timeline.Describes ⟨history, text⟩) (caret : Nat) :
    (timeline.commit caret).Describes ⟨history.commit caret, text⟩ := by
  rcases draft?_cases described with ⟨isOpen, isDraft⟩ | ⟨transaction, draft, isOpen, isDraft⟩
  · simpa only [commit, History.commit, isOpen, isDraft] using described
  · have edited := edited_iff described isOpen isDraft
    by_cases unchanged : transaction.changes = []
    · have untouched : draft.edited = false :=
        eq_false_of_ne_true fun touched => edited.mp touched unchanged
      simpa only [commit, History.commit, History.close, isOpen, isDraft, untouched, unchanged,
        Bool.false_eq_true, ↓reduceIte] using describes_drop described isOpen isDraft unchanged
    · have touched : draft.edited = true := edited.mpr unchanged
      simpa only [commit, History.commit, History.close, isOpen, isDraft, touched, unchanged,
        ↓reduceIte] using describes_forget (describes_keep described isOpen isDraft caret)

theorem describes_close (described : timeline.Describes ⟨history, text⟩) :
    timeline.close.Describes ⟨history.close, text⟩ := by
  rcases draft?_cases described with ⟨isOpen, isDraft⟩ | ⟨transaction, draft, isOpen, isDraft⟩
  · simpa only [close, History.close, isOpen, isDraft] using described
  · obtain ⟨_, _, after, _⟩ := drafted_of_open described isOpen isDraft
    have edited := edited_iff described isOpen isDraft
    by_cases unchanged : transaction.changes = []
    · have untouched : draft.edited = false :=
        eq_false_of_ne_true fun touched => edited.mp touched unchanged
      simpa only [close, History.close, isOpen, isDraft, untouched, unchanged,
        Bool.false_eq_true, ↓reduceIte] using describes_drop described isOpen isDraft unchanged
    · have touched : draft.edited = true := edited.mpr unchanged
      simpa only [close, History.close, isOpen, isDraft, touched, unchanged, ← after,
        ↓reduceIte] using describes_keep described isOpen isDraft transaction.caretAfter

theorem draft?_close (timeline : Timeline) : timeline.close.draft? = none := by
  unfold close
  split
  · assumption
  · split <;> rfl

theorem draft?_commit (timeline : Timeline) (caret : Nat) :
    (timeline.commit caret).draft? = none := by
  unfold commit
  split
  · assumption
  · split <;> rfl

/-- Beginning a transaction ends the open one first. -/
theorem describes_begin (described : timeline.Describes ⟨history, text⟩) (caret : Nat) :
    (timeline.begin caret).Describes ⟨history.begin caret, text⟩ := by
  have committed := describes_commit described caret
  have isDraft := draft?_commit timeline caret
  have past := committed.past
  have future := committed.future
  have present := committed.present
  simp only [base, isDraft, Option.map_none, Option.getD_none, present] at past future
  have same : timeline.present = text := described.present
  have now : (timeline.begin caret).base = text := same
  refine ⟨present, committed.limit, ?_, ?_, ?_⟩
  · rw [now]
    exact past
  · rw [now]
    exact future
  · have here : (timeline.begin caret).present = timeline.present := present.trans same.symm
    rw [here]
    exact Drafted.some rfl rfl rfl rfl

theorem describes_replace (described : timeline.Describes ⟨history, text⟩) (start stop : Nat)
    (inserted : List Char) (isOpen : history.inTransaction = true) (inside : start ≤ text.length) :
    (timeline.replace start stop inserted).Describes
      ⟨(history.replace text start stop inserted).1, text.replace start stop inserted⟩ := by
  rcases draft?_cases described with ⟨noOpen, _⟩ | ⟨transaction, draft, someOpen, someDraft⟩
  · simp only [History.inTransaction, noOpen, Option.isSome_none, Bool.false_eq_true] at isOpen
  · obtain ⟨leads, before, after, edited⟩ := drafted_of_open described someOpen someDraft
    have past := described.past
    have future := described.future
    simp only [base, someDraft, Option.map_some, Option.getD_some] at past future
    have same : timeline.present = text := described.present
    by_cases empty : (Change.mk start (text.slice start stop) inserted).isEmpty = true
    · have unchanged : text.replace start stop inserted = text := by
        rw [← Change.apply_recorded, Change.apply_of_isEmpty empty]
      have noEdit : ((text.slice start stop).isEmpty && inserted.isEmpty) = true := empty
      simp only [History.replace, History.record, empty, ↓reduceIte, unchanged]
      refine ⟨?_, described.limit, ?_, ?_, ?_⟩
      · rw [replace, same, unchanged]
      · simpa only [replace, base, someDraft, Option.map_some, Option.getD_some] using past
      · simpa only [replace, base, someDraft, Option.map_some, Option.getD_some] using future
      · simp only [replace, same, unchanged, noEdit, someDraft, someOpen, Option.map_some,
          Bool.not_true, Bool.or_false]
        exact Drafted.some leads before after edited
    · have isEdit : ((text.slice start stop).isEmpty && inserted.isEmpty) = false :=
        eq_false_of_ne_true empty
      have longer : (Transaction.mk (⟨start, text.slice start stop, inserted⟩ ::
          transaction.changes) transaction.caretBefore transaction.caretAfter).Leads draft.text
            (text.replace start stop inserted) :=
        ⟨text, leads, Change.fits_recorded text start stop inserted inside,
          Change.apply_recorded text start stop inserted⟩
      simp only [History.replace, History.record, empty, Bool.false_eq_true, ↓reduceIte]
      refine ⟨?_, described.limit, ?_, ?_, ?_⟩
      · rw [replace, same]
      · simpa only [replace, base, someDraft, Option.map_some, Option.getD_some] using past
      · simpa only [replace, base, someDraft, Option.map_some, Option.getD_some] using future
      · simp only [replace, same, isEdit, someDraft, someOpen, Option.map_some, Bool.not_false,
          Bool.or_true]
        exact Drafted.some longer before after rfl

theorem describes_undo (described : timeline.Describes ⟨history, text⟩) :
    timeline.undo.1.Describes ⟨(history.undo text).1, (history.undo text).2.1⟩ ∧
      timeline.undo.2 = (history.undo text).2.2 := by
  have closed := describes_close described
  have isDraft := draft?_close timeline
  have isOpen := history.open?_close
  obtain ⟨present, limit, past, future, draft⟩ := closed
  simp only [base, isDraft, Option.map_none, Option.getD_none] at past future present
  simp only [undo, History.undo]
  cases transactionsEq : history.close.past with
  | nil =>
    rw [transactionsEq] at past
    generalize momentsEq : timeline.close.past = moments at past
    cases past with
    | nil =>
      refine ⟨⟨present, limit, ?_, ?_, draft⟩, rfl⟩
      · rw [transactionsEq, momentsEq]
        exact Stack.nil _
      · simpa only [base, isDraft, Option.map_none, Option.getD_none] using future
  | cons transaction rest =>
    rw [transactionsEq] at past
    generalize momentsEq : timeline.close.past = moments at past
    cases past with
    | cons step before after restStack =>
      have back : transaction.undo text = _ := Transaction.undo_of_leads (present ▸ step)
      refine ⟨⟨back.symm, limit, ?_, ?_, ?_⟩, congrArg some before.symm⟩
      · simpa only [base, isDraft, Option.map_none, Option.getD_none] using restStack
      · simp only [base, isDraft, Option.map_none, Option.getD_none]
        exact Stack.cons step before after future
      · simp only [isOpen, isDraft]
        exact Drafted.none _

theorem describes_redo (described : timeline.Describes ⟨history, text⟩)
    (closed : history.inTransaction = false) :
    timeline.redo.1.Describes ⟨(history.redo text).1, (history.redo text).2.1⟩ ∧
      timeline.redo.2 = (history.redo text).2.2 := by
  rcases draft?_cases described with ⟨isOpen, isDraft⟩ | ⟨_, _, someOpen, _⟩
  · obtain ⟨present, limit, past, future, draft⟩ := described
    simp only [base, isDraft, Option.map_none, Option.getD_none] at past future present
    simp only [redo, History.redo]
    cases transactionsEq : history.future with
    | nil =>
      rw [transactionsEq] at future
      generalize momentsEq : timeline.future = moments at future
      cases future with
      | nil =>
        refine ⟨⟨present, limit, ?_, ?_, draft⟩, rfl⟩
        · simpa only [base, isDraft, Option.map_none, Option.getD_none] using past
        · rw [transactionsEq, momentsEq]
          exact Stack.nil _
    | cons transaction rest =>
      rw [transactionsEq] at future
      generalize momentsEq : timeline.future = moments at future
      cases future with
      | cons step before after restStack =>
        have again : transaction.redo text = _ := Transaction.redo_of_leads (present ▸ step)
        refine ⟨⟨again.symm, limit, ?_, ?_, ?_⟩, congrArg some after.symm⟩
        · simp only [base, isDraft, Option.map_none, Option.getD_none]
          exact Stack.cons step before after past
        · simpa only [base, isDraft, Option.map_none, Option.getD_none] using restStack
        · simp only [isOpen, isDraft]
          exact Drafted.none _
  · simp only [History.inTransaction, someOpen, Option.isSome_some, Bool.true_eq_false] at closed

/-- Each permitted operation keeps a timeline and a history in step, and both answer the same. -/
theorem describes_apply {journal : Journal} {op : HistoryOp}
    (described : timeline.Describes journal) (permitted : journal.Permits op) :
    (timeline.apply op).1.Describes (journal.apply op).1 ∧
      (timeline.apply op).2 = (journal.apply op).2 := by
  cases op with
  | begin caret => exact ⟨describes_begin described caret, rfl⟩
  | replace start stop inserted =>
    exact ⟨describes_replace described start stop inserted permitted.1 permitted.2, rfl⟩
  | commit caret => exact ⟨describes_commit described caret, rfl⟩
  | undo => exact describes_undo described
  | redo => exact describes_redo described permitted
  | setLimit limit => exact ⟨describes_setLimit described limit, rfl⟩

theorem describes_run {journal : Journal} {ops : List HistoryOp}
    (described : timeline.Describes journal) (permitted : journal.PermitsAll ops) :
    (timeline.run ops).1.Describes (journal.run ops).1 ∧
      (timeline.run ops).2 = (journal.run ops).2 := by
  induction ops generalizing timeline journal with
  | nil => exact ⟨described, rfl⟩
  | cons op rest ih =>
    obtain ⟨after, sameCaret⟩ := describes_apply described permitted.1
    obtain ⟨last, sameCarets⟩ := ih after permitted.2
    refine ⟨last, ?_⟩
    simp only [run, Journal.run, sameCaret, sameCarets]

end Steps

/-- From a fresh history on, every run of permitted operations answers the carets of the timeline,
leads to its text, and has as many texts to undo and to redo. What the history keeps leads from the
present text to each text of the timeline. -/
theorem run_refines (text : Document) (limit : Nat) (ops : List HistoryOp)
    (permitted : Journal.PermitsAll ⟨{ limit }, text⟩ ops) :
    let spec := (start text limit).run ops
    let journal := Journal.run ⟨{ limit }, text⟩ ops
    spec.2 = journal.2 ∧ spec.1.present = journal.1.text ∧
      spec.1.past.length = journal.1.history.past.length ∧
      spec.1.future.length = journal.1.history.future.length ∧ spec.1.Describes journal.1 := by
  obtain ⟨described, sameCarets⟩ := describes_run (describes_start text limit) permitted
  exact ⟨sameCarets, described.present, described.past.length_eq.symm,
    described.future.length_eq.symm, described⟩

/-- Two edits are one step, an empty transaction is none, and undo closes the open one first. -/
theorem run_refines_undo_twice :
    let ops : List HistoryOp := [.begin 1, .replace 1 2 ['x', 'y'], .replace 0 1 [], .commit 2,
      .begin 5, .commit 6, .begin 0, .replace 3 3 ['z'], .undo, .undo, .redo]
    Journal.PermitsAll ⟨{ limit := 2 }, ['a', 'b', 'c']⟩ ops ∧
      (Journal.run ⟨{ limit := 2 }, ['a', 'b', 'c']⟩ ops).2 =
        [none, none, none, none, none, none, none, none, some 0, some 1, some 2] ∧
      (Journal.run ⟨{ limit := 2 }, ['a', 'b', 'c']⟩ ops).1.text = ['x', 'y', 'c'] := by
  intro ops
  have permitted : Journal.PermitsAll ⟨{ limit := 2 }, ['a', 'b', 'c']⟩ ops := by decide
  obtain ⟨carets, text, _⟩ := run_refines ['a', 'b', 'c'] 2 ops permitted
  exact ⟨permitted, carets.symm.trans (by decide), text.symm.trans (by decide)⟩

end Timeline

end ModalEdit

import ModalEdit.Proofs.History.Refinement

/-!
The texts that undo and redo lead through, from the oldest to the newest. Undo and redo go from one to
the next and leave them as they are, and as long as nothing is forgotten the oldest one stays the same.
-/

set_option autoImplicit false

namespace ModalEdit

namespace History

theorem forgotten_le_trim (history : History) : history.forgotten ≤ history.trim.forgotten :=
  Nat.le_add_right _ _

theorem past_trim {history : History} (kept : history.trim.forgotten = history.forgotten) :
    history.past.length ≤ max history.limit 1 := by
  have none : history.past.length - max history.limit 1 = 0 := Nat.left_eq_add.mp kept.symm
  omega

theorem forgotten_close (history : History) : history.close.forgotten = history.forgotten := by
  unfold close
  split
  · rfl
  · split <;> rfl

theorem forgotten_le_commit (history : History) (caret : Nat) :
    history.forgotten ≤ (history.commit caret).forgotten := by
  unfold commit
  split
  · exact Nat.le_refl _
  · rename_i transaction _
    have closed := forgotten_close { history with
      open? := some { transaction with caretAfter := caret } }
    dsimp only at closed ⊢
    split
    · exact Nat.le_of_eq closed.symm
    · exact Nat.le_trans (Nat.le_of_eq closed.symm) (forgotten_le_trim _)

theorem forgotten_record (history : History) (change : Change) :
    (history.record change).forgotten = history.forgotten := by
  unfold record
  split <;> rfl

theorem forgotten_undo (history : History) (text : Document) :
    (history.undo text).1.forgotten = history.forgotten := by
  have closed := history.forgotten_close
  unfold undo
  dsimp only
  split <;> exact closed

theorem forgotten_redo (history : History) (text : Document) :
    (history.redo text).1.forgotten = history.forgotten := by
  unfold redo
  split <;> rfl

end History

namespace Journal

/-- Nothing that has been forgotten comes back. -/
theorem forgotten_le_apply (journal : Journal) (op : HistoryOp) :
    journal.history.forgotten ≤ (journal.apply op).1.history.forgotten := by
  cases op with
  | begin caret => exact journal.history.forgotten_le_commit caret
  | commit caret => exact journal.history.forgotten_le_commit caret
  | setLimit limit => exact History.forgotten_le_trim { journal.history with limit }
  | replace start stop inserted => exact Nat.le_of_eq (History.forgotten_record _ _).symm
  | undo => exact Nat.le_of_eq (History.forgotten_undo _ _).symm
  | redo => exact Nat.le_of_eq (History.forgotten_redo _ _).symm

theorem forgotten_le_run (journal : Journal) (ops : List HistoryOp) :
    journal.history.forgotten ≤ (journal.run ops).1.history.forgotten := by
  induction ops generalizing journal with
  | nil => exact Nat.le_refl _
  | cons op rest ih => exact Nat.le_trans (journal.forgotten_le_apply op) (ih _)

theorem LeadsTo.forgotten_le {before after : Journal} (leads : before.LeadsTo after) :
    before.history.forgotten ≤ after.history.forgotten := by
  obtain ⟨ops, _, rfl⟩ := leads
  exact before.forgotten_le_run ops

end Journal

namespace Timeline

variable {timeline : Timeline} {journal : Journal}

/-- The texts from the oldest one on. -/
def story (timeline : Timeline) : List Document :=
  (timeline.past.map Moment.text).reverse ++ timeline.base :: timeline.future.map Moment.text

theorem getElem?_story (timeline : Timeline) :
    timeline.story[timeline.past.length]? = some timeline.base := by
  have before : ((timeline.past.map Moment.text).reverse).length = timeline.past.length := by
    rw [List.length_reverse, List.length_map]
  unfold story
  rw [List.getElem?_append_right (Nat.le_of_eq before), before, Nat.sub_self]
  rfl

theorem length_past_lt_story (timeline : Timeline) :
    timeline.past.length < timeline.story.length :=
  (List.getElem?_eq_some_iff.mp timeline.getElem?_story).1

theorem base_of_closed (closed : timeline.draft? = none) : timeline.base = timeline.present := by
  unfold base
  rw [closed]
  rfl

/-- At the same place of one story the same text is present. -/
theorem present_of_story {first second : Timeline} (firstClosed : first.draft? = none)
    (secondClosed : second.draft? = none) (story : first.story = second.story)
    (place : first.past.length = second.past.length) : first.present = second.present := by
  have here := first.getElem?_story
  rw [story, place, second.getElem?_story, base_of_closed firstClosed,
    base_of_closed secondClosed] at here
  exact (Option.some.inj here).symm

theorem close_of_closed (closed : timeline.draft? = none) : timeline.close = timeline := by
  unfold close
  rw [closed]

theorem story_undo (closed : timeline.draft? = none) (undone : timeline.undo.2.isSome = true) :
    timeline.undo.1.story = timeline.story ∧
      timeline.undo.1.past.length + 1 = timeline.past.length ∧
      timeline.undo.1.draft? = none := by
  unfold undo at undone ⊢
  rw [close_of_closed closed] at undone ⊢
  dsimp only at undone ⊢
  cases pastEq : timeline.past with
  | nil =>
    rw [pastEq] at undone
    cases undone
  | cons moment past =>
    refine ⟨?_, rfl, closed⟩
    simp only [story, base, closed, pastEq, Option.map_none, Option.getD_none, List.map_cons,
      List.reverse_cons, List.append_assoc, List.singleton_append]

theorem story_redo (closed : timeline.draft? = none) (redone : timeline.redo.2.isSome = true) :
    timeline.redo.1.story = timeline.story ∧
      timeline.redo.1.past.length = timeline.past.length + 1 ∧
      timeline.redo.1.draft? = none := by
  unfold redo at redone ⊢
  cases futureEq : timeline.future with
  | nil =>
    rw [futureEq] at redone
    cases redone
  | cons moment future =>
    refine ⟨?_, rfl, closed⟩
    simp only [story, base, closed, futureEq, Option.map_none, Option.getD_none, List.map_cons,
      List.reverse_cons, List.append_assoc, List.singleton_append]

/-- There is something to redo just when a text follows the present one. -/
theorem isSome_redo (timeline : Timeline) :
    timeline.redo.2.isSome = true ↔ timeline.past.length + 1 < timeline.story.length := by
  have length : timeline.story.length = timeline.past.length + (timeline.future.length + 1) := by
    simp only [story, List.length_append, List.length_reverse, List.length_map, List.length_cons]
  rw [length]
  unfold redo
  cases futureEq : timeline.future with
  | nil =>
    simp only [Option.isSome_none, Bool.false_eq_true, List.length_nil, false_iff]
    omega
  | cons moment future =>
    simp only [Option.isSome_some, List.length_cons, true_iff]
    omega

/-- Where as much is kept as there is, nothing is forgotten. -/
theorem forget_eq (described : timeline.Describes journal)
    (kept : journal.history.trim.forgotten = journal.history.forgotten) :
    timeline.forget = timeline := by
  have few := History.past_trim kept
  rw [described.past.length_eq, ← described.limit] at few
  unfold forget
  rw [List.take_of_length_le few]

theorem forget_setLimit (described : timeline.Describes journal) (limit : Nat)
    (kept : (journal.apply (.setLimit limit)).1.history.forgotten = journal.history.forgotten) :
    ({ timeline with limit } : Timeline).forget = { timeline with limit } := by
  have limited : ({ timeline with limit } : Timeline).Describes
      ⟨{ journal.history with limit }, journal.text⟩ :=
    ⟨described.present, rfl, described.past, described.future, described.draft⟩
  exact forget_eq limited kept

theorem oldest_keep {draft : Draft} (drafted : timeline.draft? = some draft) (caret : Nat) :
    (timeline.keep draft caret).oldest = timeline.oldest := by
  simp only [oldest, keep, base, drafted, List.getLast?_cons, Option.map_some, Option.getD_some]
  cases timeline.past.getLast? <;> rfl

/-- A draft in which nothing has been edited began with the present text. -/
theorem oldest_drop {draft : Draft} (described : timeline.Describes journal)
    (drafted : timeline.draft? = some draft) (unedited : draft.edited = false) :
    timeline.drop.oldest = timeline.oldest := by
  obtain ⟨transaction, isOpen⟩ := exists_open described drafted
  obtain ⟨leads, _⟩ := drafted_of_open described isOpen drafted
  have unchanged : transaction.changes = [] := by
    refine Decidable.of_not_not fun changed => ?_
    rw [(edited_iff described isOpen drafted).mpr changed] at unedited
    cases unedited
  have same : draft.text = timeline.present := by
    rw [described.present]
    simpa only [Transaction.Leads, unchanged, Change.Lead] using leads
  simp only [oldest, drop, base, drafted, Option.map_some, Option.map_none, Option.getD_some,
    Option.getD_none, same]

theorem oldest_close (described : timeline.Describes journal) :
    timeline.close.oldest = timeline.oldest := by
  unfold close
  cases drafted : timeline.draft? with
  | none => rfl
  | some draft =>
    dsimp only
    split
    · exact oldest_keep drafted draft.caret
    · rename_i unedited
      exact oldest_drop described drafted (eq_false_of_ne_true unedited)

/-- As long as nothing is forgotten, a draft that has been edited is kept with all that came
before. -/
theorem commit_of_edited {draft : Draft} (described : timeline.Describes journal) (caret : Nat)
    (kept : (journal.history.commit caret).forgotten = journal.history.forgotten)
    (drafted : timeline.draft? = some draft) (touched : draft.edited = true) :
    timeline.commit caret = timeline.keep draft caret := by
  obtain ⟨transaction, isOpen⟩ := exists_open described drafted
  have changed := (edited_iff described isOpen drafted).mp touched
  have committed : (journal.history.commit caret) = History.trim { journal.history with
      past := { transaction with caretAfter := caret } :: journal.history.past
      future := []
      open? := none } := by
    simp only [History.commit, History.close, isOpen, changed, ↓reduceIte]
  rw [committed] at kept
  have whole := forget_eq (describes_keep described isOpen drafted caret) kept
  simp only [commit, drafted, touched, ↓reduceIte, whole]

theorem oldest_commit (described : timeline.Describes journal) (caret : Nat)
    (kept : (journal.history.commit caret).forgotten = journal.history.forgotten) :
    (timeline.commit caret).oldest = timeline.oldest := by
  cases drafted : timeline.draft? with
  | none =>
    unfold commit
    rw [drafted]
  | some draft =>
    cases edited : draft.edited with
    | true =>
      rw [commit_of_edited described caret kept drafted edited]
      exact oldest_keep drafted caret
    | false =>
      simp only [commit, drafted, edited, Bool.false_eq_true, ↓reduceIte]
      exact oldest_drop described drafted edited

theorem oldest_begin (described : timeline.Describes journal) (caret : Nat)
    (kept : (journal.history.commit caret).forgotten = journal.history.forgotten) :
    (timeline.begin caret).oldest = timeline.oldest := by
  have closed := draft?_commit timeline caret
  have present : (timeline.commit caret).present = timeline.present :=
    (describes_commit described caret).present.trans described.present.symm
  rw [← oldest_commit described caret kept]
  simp only [begin, oldest, base, closed, present, Option.map_some, Option.map_none,
    Option.getD_some, Option.getD_none]

theorem oldest_replace {draft : Draft} (drafted : timeline.draft? = some draft) (start stop : Nat)
    (inserted : List Char) : (timeline.replace start stop inserted).oldest = timeline.oldest := by
  simp only [replace, oldest, base, drafted, Option.map_some, Option.getD_some]

theorem oldest_undo (described : timeline.Describes journal) :
    timeline.undo.1.oldest = timeline.oldest := by
  have closed := draft?_close timeline
  rw [← oldest_close described]
  unfold undo
  dsimp only
  cases pastEq : timeline.close.past with
  | nil => rfl
  | cons moment past =>
    simp only [oldest, base, closed, pastEq, List.getLast?_cons, Option.map_some,
      Option.map_none, Option.getD_some, Option.getD_none]
    cases past.getLast? <;> rfl

theorem oldest_redo (closed : timeline.draft? = none) :
    timeline.redo.1.oldest = timeline.oldest := by
  unfold redo
  cases timeline.future with
  | nil => rfl
  | cons moment future =>
    simp only [oldest, base, closed, List.getLast?_cons, Option.map_some, Option.map_none,
      Option.getD_some, Option.getD_none]
    cases timeline.past.getLast? <;> rfl

/-- Whatever is done, the oldest text stays the same as long as nothing is forgotten. -/
theorem oldest_apply {op : HistoryOp} (described : timeline.Describes journal)
    (permitted : journal.Permits op)
    (kept : (journal.apply op).1.history.forgotten = journal.history.forgotten) :
    (timeline.apply op).1.oldest = timeline.oldest := by
  cases op with
  | begin caret => exact oldest_begin described caret kept
  | replace start stop inserted =>
    obtain ⟨transaction, isOpen⟩ := Option.isSome_iff_exists.mp permitted.1
    obtain ⟨draft, drafted⟩ := exists_draft described isOpen
    exact oldest_replace drafted start stop inserted
  | commit caret => exact oldest_commit described caret kept
  | undo => exact oldest_undo described
  | redo =>
    have isOpen := Option.isNone_iff_eq_none.mp (Option.isSome_eq_false_iff.mp permitted)
    exact oldest_redo (draft?_eq_none described isOpen)
  | setLimit limit =>
    have whole := forget_setLimit described limit kept
    simp only [apply, whole]
    rfl

theorem oldest_run {ops : List HistoryOp} (described : timeline.Describes journal)
    (permitted : journal.PermitsAll ops)
    (kept : (journal.run ops).1.history.forgotten = journal.history.forgotten) :
    (timeline.run ops).1.oldest = timeline.oldest := by
  induction ops generalizing timeline journal with
  | nil => rfl
  | cons op rest ih =>
    have now := journal.forgotten_le_apply op
    have later := (journal.apply op).1.forgotten_le_run rest
    have last : ((journal.apply op).1.run rest).1.history.forgotten = journal.history.forgotten :=
      kept
    obtain ⟨after, _⟩ := describes_apply described permitted.1
    have here := oldest_apply described permitted.1 (by omega)
    have others := ih after permitted.2 (by omega)
    exact others.trans here

end Timeline

namespace Journal

/-- Once everything has been undone and nothing forgotten, the first text is back. -/
theorem LeadsTo.text_of_undone {text : Document} {limit : Nat} {journal : Journal}
    (leads : LeadsTo ⟨{ limit }, text⟩ journal) (kept : journal.history.forgotten = 0)
    (undone : journal.history.past = []) (closed : journal.history.open? = none) :
    journal.text = text := by
  obtain ⟨ops, permitted, rfl⟩ := leads
  have started := Timeline.describes_start text limit
  obtain ⟨described, _⟩ := Timeline.describes_run started permitted
  have oldest := Timeline.oldest_run started permitted kept
  have past : ((Timeline.start text limit).run ops).1.past = [] := by
    have length := described.past.length_eq
    rw [undone] at length
    exact List.eq_nil_of_length_eq_zero length.symm
  have draft := Timeline.draft?_eq_none described closed
  simp only [Timeline.oldest, Timeline.base, past, draft, List.getLast?_nil, Option.map_none,
    Option.getD_none] at oldest
  exact described.present.symm.trans oldest

end Journal

/-! ### One transaction at a time

One transaction taken back or made again, after the open one has ended. Each time this goes to the
text before or to the text after in the same story, and there are less and less transactions to take
back.
-/

namespace Journal

/-- The journal after the open transaction has ended and another has been taken back, or made again,
and the caret of that one. -/
def turn (journal : Journal) (redo : Bool) (caret : Nat) : Journal × Option Nat :=
  (journal.apply (.commit caret)).1.apply (if redo then .redo else .undo)

theorem leadsTo_turn (journal : Journal) (redo : Bool) (caret : Nat) :
    journal.LeadsTo (journal.turn redo caret).1 := by
  have ended : journal.LeadsTo (journal.apply (.commit caret)).1 := .apply (.commit caret) trivial
  refine ended.trans (.apply _ ?_)
  cases redo with
  | false => trivial
  | true => exact journal.history.inTransaction_commit caret

/-- How many transactions can be taken back at most. -/
def depth (journal : Journal) : Nat :=
  journal.history.past.length + journal.history.open?.toList.length

theorem length_past_trim (history : History) : history.trim.past.length ≤ history.past.length := by
  unfold History.trim
  exact List.length_take_le' _ _

theorem length_past_commit (history : History) (caret : Nat) :
    (history.commit caret).past.length ≤ history.past.length + history.open?.toList.length := by
  unfold History.commit History.close
  cases history.open? with
  | none => exact Nat.le_refl _
  | some transaction =>
    dsimp only [Option.toList_some, List.length_singleton]
    split
    · exact Nat.le_succ _
    · exact length_past_trim _

/-- Each transaction that is taken back leaves one less, and where none is left there is none in the
past. -/
theorem depth_turn (journal : Journal) (caret : Nat) :
    let turned := journal.turn false caret
    turned.1.history.open? = none ∧
      (turned.2.isSome = true → turned.1.history.past.length < journal.depth) ∧
      (turned.2.isSome = false → turned.1.history.past = []) := by
  have ended := length_past_commit journal.history caret
  have isOpen := journal.history.open?_commit caret
  have closed : (journal.history.commit caret).close = journal.history.commit caret := by
    unfold History.close
    rw [isOpen]
  unfold turn apply depth History.undo
  dsimp only [apply, Bool.false_eq_true, ↓reduceIte]
  rw [closed]
  cases pastEq : (journal.history.commit caret).past with
  | nil => exact ⟨isOpen, nofun, fun _ => pastEq⟩
  | cons transaction past =>
    rw [pastEq, List.length_cons] at ended
    exact ⟨isOpen, fun _ => ended, nofun⟩

end Journal

namespace Timeline

variable {timeline : Timeline} {journal : Journal}

/-- Ending a draft with any caret gives the same story. -/
theorem story_commit (described : timeline.Describes journal) (caret : Nat)
    (kept : (journal.history.commit caret).forgotten = journal.history.forgotten) :
    (timeline.commit caret).story = timeline.close.story ∧
      (timeline.commit caret).past.length = timeline.close.past.length := by
  cases drafted : timeline.draft? with
  | none =>
    unfold commit close
    rw [drafted]
    exact ⟨rfl, rfl⟩
  | some draft =>
    cases edited : draft.edited with
    | true =>
      have closes : timeline.close = timeline.keep draft draft.caret := by
        simp only [close, drafted, edited, ↓reduceIte]
      rw [commit_of_edited described caret kept drafted edited, closes]
      exact ⟨rfl, rfl⟩
    | false =>
      have same : timeline.commit caret = timeline.close := by
        simp only [commit, close, drafted, edited, Bool.false_eq_true, ↓reduceIte]
      rw [same]
      exact ⟨rfl, rfl⟩

/-- Taking a transaction back goes one text back in the story, if there is one. -/
theorem story_turn_undo (described : timeline.Describes journal) (caret : Nat)
    (kept : (journal.turn false caret).1.history.forgotten = journal.history.forgotten) :
    ∃ after : Timeline, after.Describes (journal.turn false caret).1 ∧ after.draft? = none ∧
      after.story = timeline.close.story ∧
      after.past.length + (journal.turn false caret).2.isSome.toNat = timeline.close.past.length := by
  have ended : (journal.history.commit caret).forgotten = journal.history.forgotten :=
    (History.forgotten_undo _ _).symm.trans kept
  obtain ⟨story, past⟩ := story_commit described caret ended
  have closed := draft?_commit timeline caret
  obtain ⟨undone, carets⟩ := describes_undo (describes_commit described caret)
  refine ⟨(timeline.commit caret).undo.1, undone, ?_⟩
  have answers : (journal.turn false caret).2 = (timeline.commit caret).undo.2 := carets.symm
  rw [answers, ← story, ← past]
  cases turned : (timeline.commit caret).undo.2.isSome with
  | true =>
    obtain ⟨sameStory, fewer, stillClosed⟩ := story_undo closed turned
    exact ⟨stillClosed, sameStory, fewer⟩
  | false =>
    have stays : (timeline.commit caret).undo.1 = timeline.commit caret := by
      unfold undo at turned ⊢
      rw [close_of_closed closed] at turned ⊢
      dsimp only at turned ⊢
      cases pastEq : (timeline.commit caret).past with
      | nil => rfl
      | cons moment moments =>
        rw [pastEq] at turned
        cases turned
    rw [stays]
    exact ⟨closed, rfl, rfl⟩

/-- Making a transaction again goes one text on in the story. -/
theorem story_turn_redo (described : timeline.Describes journal) (closed : timeline.draft? = none)
    (more : timeline.past.length + 1 < timeline.story.length) (caret : Nat) :
    (journal.turn true caret).2.isSome = true ∧
    ∃ after : Timeline, after.Describes (journal.turn true caret).1 ∧ after.draft? = none ∧
      after.story = timeline.story ∧ after.past.length = timeline.past.length + 1 := by
  have same : timeline.commit caret = timeline := by
    unfold commit
    rw [closed]
  have committed := describes_commit described caret
  rw [same] at committed
  obtain ⟨redone, carets⟩ := describes_redo committed (journal.history.inTransaction_commit caret)
  have answered := timeline.isSome_redo.mpr more
  refine ⟨(congrArg Option.isSome carets).symm.trans answered, timeline.redo.1, redone, ?_⟩
  obtain ⟨sameStory, longer, stillClosed⟩ := story_redo closed answered
  exact ⟨stillClosed, sameStory, longer⟩

/-- Another limit leaves the story as it is, as long as nothing is forgotten. -/
theorem story_setLimit (described : timeline.Describes journal) (limit : Nat)
    (kept : (journal.apply (.setLimit limit)).1.history.forgotten = journal.history.forgotten) :
    ∃ after : Timeline, after.Describes (journal.apply (.setLimit limit)).1 ∧
      after.draft? = timeline.draft? ∧ after.story = timeline.story ∧ after.past = timeline.past := by
  refine ⟨{ timeline with limit }, ?_, rfl, rfl, rfl⟩
  rw [← forget_setLimit described limit kept]
  exact describes_setLimit described limit

end Timeline

end ModalEdit

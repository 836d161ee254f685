import ModalEdit.Proofs.Document.Lines

/-!
A history together with the text that it belongs to, and everything that can be done with both. The
text and the history of an editor change in no other way.

Text can also be put behind the end of the text. It lands at the end, but is recorded at the place that was
asked for, so that taking it back leaves it where it is.
-/

set_option autoImplicit false

namespace ModalEdit

/-- What can be done with a history and its text. -/
inductive HistoryOp where
  | begin (caret : Nat)
  | replace (start stop : Nat) (inserted : List Char)
  | commit (caret : Nat)
  | undo
  | redo
  | setLimit (limit : Nat)
deriving DecidableEq, Inhabited

/-- A history with the text that it belongs to. -/
structure Journal where
  history : History
  text : Document
deriving DecidableEq, Inhabited

namespace Journal

/-- The journal after an operation, and the caret that it answers. -/
def apply (journal : Journal) : HistoryOp → Journal × Option Nat
  | .begin caret => (⟨journal.history.begin caret, journal.text⟩, none)
  | .replace start stop inserted =>
    let (history, text) := journal.history.replace journal.text start stop inserted
    (⟨history, text⟩, none)
  | .commit caret => (⟨journal.history.commit caret, journal.text⟩, none)
  | .undo =>
    let (history, text, caret?) := journal.history.undo journal.text
    (⟨history, text⟩, caret?)
  | .redo =>
    let (history, text, caret?) := journal.history.redo journal.text
    (⟨history, text⟩, caret?)
  | .setLimit limit => (⟨journal.history.setLimit limit, journal.text⟩, none)

/-- The journal after operations, and the carets that they answer. -/
def run (journal : Journal) : List HistoryOp → Journal × List (Option Nat)
  | [] => (journal, [])
  | op :: rest =>
    let (after, caret?) := journal.apply op
    let (last, carets) := after.run rest
    (last, caret? :: carets)

/-- Whether an operation may be used: text is replaced from inside the buffer on and while a
transaction is open, and nothing is made again while one is. -/
def Permits (journal : Journal) : HistoryOp → Prop
  | .replace start _ _ => journal.history.inTransaction = true ∧ start ≤ journal.text.length
  | .redo => journal.history.inTransaction = false
  | _ => True

/-- Whether each operation may be used when its turn comes. -/
def PermitsAll (journal : Journal) : List HistoryOp → Prop
  | [] => True
  | op :: rest => journal.Permits op ∧ (journal.apply op).1.PermitsAll rest

instance (journal : Journal) (op : HistoryOp) : Decidable (journal.Permits op) :=
  match op with
  | .replace .. => inferInstanceAs (Decidable (_ ∧ _))
  | .redo => inferInstanceAs (Decidable (_ = false))
  | .begin _ | .commit _ | .undo | .setLimit _ => isTrue trivial

instance decidablePermitsAll (journal : Journal) (ops : List HistoryOp) :
    Decidable (journal.PermitsAll ops) :=
  match ops with
  | [] => isTrue trivial
  | op :: rest =>
    have : Decidable ((journal.apply op).1.PermitsAll rest) := decidablePermitsAll _ rest
    inferInstanceAs (Decidable (_ ∧ _))

theorem run_append (journal : Journal) (first second : List HistoryOp) :
    (journal.run (first ++ second)).1 = ((journal.run first).1.run second).1 := by
  induction first generalizing journal with
  | nil => rfl
  | cons op rest ih => exact ih (journal.apply op).1

theorem permitsAll_append {journal : Journal} {first second : List HistoryOp}
    (permitted : journal.PermitsAll first) (next : (journal.run first).1.PermitsAll second) :
    journal.PermitsAll (first ++ second) := by
  induction first generalizing journal with
  | nil => exact next
  | cons op rest ih => exact ⟨permitted.1, ih permitted.2 next⟩

/-- Whether permitted operations lead from one journal to another. -/
def LeadsTo (before after : Journal) : Prop :=
  ∃ ops, before.PermitsAll ops ∧ (before.run ops).1 = after

theorem LeadsTo.refl (journal : Journal) : journal.LeadsTo journal :=
  ⟨[], trivial, rfl⟩

theorem LeadsTo.trans {first second third : Journal} (one : first.LeadsTo second)
    (two : second.LeadsTo third) : first.LeadsTo third := by
  obtain ⟨ops, permitted, rfl⟩ := one
  obtain ⟨more, next, rfl⟩ := two
  exact ⟨ops ++ more, permitsAll_append permitted next, run_append first ops more⟩

theorem LeadsTo.apply {journal : Journal} (op : HistoryOp) (permitted : journal.Permits op) :
    journal.LeadsTo (journal.apply op).1 :=
  ⟨[op], ⟨permitted, trivial⟩, rfl⟩

/-- Whether an operation records text at a place behind the end of the text. -/
def Strays (journal : Journal) : HistoryOp → Prop
  | .replace start _ inserted =>
    journal.history.inTransaction = true ∧ journal.text.length < start ∧ inserted ≠ []
  | _ => False

/-- Whether operations lead from one journal to another of which one at least strays, and of which
each is permitted or strays. -/
inductive StraysTo (before : Journal) : Journal → Prop where
  | first {journal : Journal} {op : HistoryOp} (leads : before.LeadsTo journal)
      (strays : journal.Strays op) : StraysTo before (journal.apply op).1
  | again {journal : Journal} {op : HistoryOp} (strayed : StraysTo before journal)
      (strays : journal.Strays op) : StraysTo before (journal.apply op).1
  | permitted {journal : Journal} {op : HistoryOp} (strayed : StraysTo before journal)
      (permitted : journal.Permits op) : StraysTo before (journal.apply op).1

theorem StraysTo.leadsTo {before journal after : Journal} (strayed : before.StraysTo journal)
    (leads : journal.LeadsTo after) : before.StraysTo after := by
  obtain ⟨ops, permitted, rfl⟩ := leads
  induction ops generalizing journal with
  | nil => exact strayed
  | cons op rest ih => exact ih (.permitted strayed permitted.1) permitted.2

theorem LeadsTo.straysTo {before journal after : Journal} (leads : before.LeadsTo journal)
    (strayed : journal.StraysTo after) : before.StraysTo after := by
  induction strayed with
  | first leadsOn strays => exact .first (leads.trans leadsOn) strays
  | again _ strays ih => exact .again ih strays
  | permitted _ permitted ih => exact .permitted ih permitted

theorem StraysTo.trans {before journal after : Journal} (first : before.StraysTo journal)
    (second : journal.StraysTo after) : before.StraysTo after := by
  induction second with
  | first leads strays => exact .again (first.leadsTo leads) strays
  | again _ strays ih => exact .again ih strays
  | permitted _ permitted ih => exact .permitted ih permitted

end Journal

/-! ### Timelines

Undo and redo as they are meant: a present text between the texts that undo leads back to and those
that redo leads on to. A history, which keeps only changes, refines this: as long as it is used as
it may be, it answers the same carets and leads to the same texts.
-/

/-- A text that undo or redo leads to, and the carets of the transaction on the way. -/
structure Moment where
  text : Document
  caretBefore : Nat
  caretAfter : Nat
deriving DecidableEq, Inhabited

/-- A transaction that has not ended: the text and the caret it began with, and whether anything has
been edited since. -/
structure Draft where
  text : Document
  caret : Nat
  edited : Bool := false
deriving DecidableEq, Inhabited

/-- The texts before the present one and after it, nearest first. -/
structure Timeline where
  past : List Moment := []
  present : Document
  future : List Moment := []
  draft? : Option Draft := none
  limit : Nat
deriving DecidableEq, Inhabited

namespace Timeline

/-- Forgets the oldest texts that are more than the limit. -/
def forget (timeline : Timeline) : Timeline :=
  { timeline with past := timeline.past.take (max timeline.limit 1) }

/-- Ends a draft. The text that it began with becomes the latest past one, and nothing is left to
redo. -/
def keep (timeline : Timeline) (draft : Draft) (caretAfter : Nat) : Timeline :=
  { timeline with
    past := ⟨draft.text, draft.caret, caretAfter⟩ :: timeline.past
    future := []
    draft? := none }

/-- Drops a draft in which nothing has been edited. -/
def drop (timeline : Timeline) : Timeline :=
  { timeline with draft? := none }

/-- Ends the draft with the caret at a place. -/
def commit (timeline : Timeline) (caret : Nat) : Timeline :=
  match timeline.draft? with
  | none => timeline
  | some draft => if draft.edited then (timeline.keep draft caret).forget else timeline.drop

/-- Ends the draft for undo, which keeps its caret where it began. -/
def close (timeline : Timeline) : Timeline :=
  match timeline.draft? with
  | none => timeline
  | some draft => if draft.edited then timeline.keep draft draft.caret else timeline.drop

def begin (timeline : Timeline) (caret : Nat) : Timeline :=
  { timeline.commit caret with draft? := some { text := timeline.present, caret } }

/-- Replaces a part of the present text. Nothing in place of nothing is no edit. -/
def replace (timeline : Timeline) (start stop : Nat) (inserted : List Char) : Timeline :=
  let isEdit := !((timeline.present.slice start stop).isEmpty && inserted.isEmpty)
  { timeline with
    present := timeline.present.replace start stop inserted
    draft? := timeline.draft?.map fun draft => { draft with edited := draft.edited || isEdit } }

/-- Goes back to the latest past text. -/
def undo (timeline : Timeline) : Timeline × Option Nat :=
  let closed := timeline.close
  match closed.past with
  | [] => (closed, none)
  | moment :: past =>
    ({ closed with
        past
        present := moment.text
        future := { moment with text := closed.present } :: closed.future },
      some moment.caretBefore)

/-- Goes on to the next future text. -/
def redo (timeline : Timeline) : Timeline × Option Nat :=
  match timeline.future with
  | [] => (timeline, none)
  | moment :: future =>
    ({ timeline with
        past := { moment with text := timeline.present } :: timeline.past
        present := moment.text
        future },
      some moment.caretAfter)

/-- The timeline after an operation, and the caret that it answers. -/
def apply (timeline : Timeline) : HistoryOp → Timeline × Option Nat
  | .begin caret => (timeline.begin caret, none)
  | .replace start stop inserted => (timeline.replace start stop inserted, none)
  | .commit caret => (timeline.commit caret, none)
  | .undo => timeline.undo
  | .redo => timeline.redo
  | .setLimit limit => ({ timeline with limit }.forget, none)

/-- The timeline after operations, and the carets that they answer. -/
def run (timeline : Timeline) : List HistoryOp → Timeline × List (Option Nat)
  | [] => (timeline, [])
  | op :: rest =>
    let (after, caret?) := timeline.apply op
    let (last, carets) := after.run rest
    (last, caret? :: carets)

/-- The text that past and future are counted from: the present one, or the one that the draft began
with. -/
def base (timeline : Timeline) : Document :=
  (timeline.draft?.map Draft.text).getD timeline.present

/-- The oldest text that undo leads back to. -/
def oldest (timeline : Timeline) : Document :=
  (timeline.past.getLast?.map Moment.text).getD timeline.base

end Timeline

/-- Changes, the latest first, that lead from one text to another and fit where they are made. -/
def Change.Lead : List Change → Document → Document → Prop
  | [], before, after => before = after
  | change :: earlier, before, after =>
    ∃ middle, Change.Lead earlier before middle ∧ change.Fits middle ∧ change.apply middle = after

namespace Transaction

/-- Whether the changes of a transaction lead from one text to another. -/
def Leads (transaction : Transaction) (before after : Document) : Prop :=
  Change.Lead transaction.changes before after

theorem undo_of_leads {transaction : Transaction} {before after : Document}
    (leads : transaction.Leads before after) : transaction.undo after = before := by
  obtain ⟨changes, caretBefore, caretAfter⟩ := transaction
  simp only [Leads, undo] at leads ⊢
  induction changes generalizing after with
  | nil => exact leads.symm
  | cons change earlier ih =>
    obtain ⟨middle, first, fits, rfl⟩ := leads
    rw [List.foldl_cons, Change.apply_inverse_apply fits]
    exact ih first

theorem redo_of_leads {transaction : Transaction} {before after : Document}
    (leads : transaction.Leads before after) : transaction.redo before = after := by
  obtain ⟨changes, caretBefore, caretAfter⟩ := transaction
  simp only [Leads, redo] at leads ⊢
  induction changes generalizing after with
  | nil => exact leads
  | cons change earlier ih =>
    obtain ⟨middle, first, _, rfl⟩ := leads
    rw [List.foldr_cons, ih first]

end Transaction

namespace Timeline

/-- Transactions that lead from text to text, each to the one before or to the one after it. -/
inductive Stack (leads : Transaction → Document → Document → Prop) :
    List Transaction → List Moment → Document → Prop
  | nil (now : Document) : Stack leads [] [] now
  | cons {transaction : Transaction} {moment : Moment} {transactions : List Transaction}
      {moments : List Moment} {now : Document} (step : leads transaction moment.text now)
      (before : transaction.caretBefore = moment.caretBefore)
      (after : transaction.caretAfter = moment.caretAfter)
      (rest : Stack leads transactions moments moment.text) :
      Stack leads (transaction :: transactions) (moment :: moments) now

/-- The open transaction of a history and the draft of a timeline. -/
inductive Drafted : Option Transaction → Option Draft → Document → Prop
  | none (present : Document) : Drafted none none present
  | some {transaction : Transaction} {draft : Draft} {present : Document}
      (leads : transaction.Leads draft.text present)
      (before : transaction.caretBefore = draft.caret)
      (after : transaction.caretAfter = draft.caret)
      (edited : draft.edited = !transaction.changes.isEmpty) :
      Drafted (some transaction) (some draft) present

/-- What a timeline and a history with its text have in common: replaying what the history keeps
leads to the texts of the timeline. -/
structure Describes (timeline : Timeline) (journal : Journal) : Prop where
  present : timeline.present = journal.text
  limit : timeline.limit = journal.history.limit
  past : Stack Transaction.Leads journal.history.past timeline.past timeline.base
  future : Stack (fun transaction after before => transaction.Leads before after)
    journal.history.future timeline.future timeline.base
  draft : Drafted journal.history.open? timeline.draft? timeline.present

end Timeline

end ModalEdit

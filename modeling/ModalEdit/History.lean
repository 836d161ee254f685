import ModalEdit.Document

/-!
Undo and redo. Changes made one after the other form a transaction, which is undone and redone as
a whole.
-/

set_option autoImplicit false

namespace ModalEdit

/-- A change of a text: what stood at an offset, and what stands there now. -/
structure Change where
  offset : Nat
  removed : List Char
  inserted : List Char
deriving DecidableEq, Inhabited

namespace Change

/-- Whether the change leaves every text as it is. -/
def isEmpty (change : Change) : Bool :=
  change.removed.isEmpty && change.inserted.isEmpty

/-- The text with the change made. -/
def apply (change : Change) (text : Document) : Document :=
  text.replace change.offset (change.offset + change.removed.length) change.inserted

/-- The change that takes this one back. -/
def inverse (change : Change) : Change :=
  ⟨change.offset, change.inserted, change.removed⟩

theorem inverse_inverse (change : Change) : change.inverse.inverse = change := rfl

end Change

/-- Changes that belong together, the latest first, and the caret before and after them. -/
structure Transaction where
  changes : List Change := []
  caretBefore : Nat
  caretAfter : Nat
deriving DecidableEq, Inhabited

namespace Transaction

/-- The text with all changes made again. -/
def redo (transaction : Transaction) (text : Document) : Document :=
  transaction.changes.foldr Change.apply text

/-- The text with all changes taken back, the latest first. -/
def undo (transaction : Transaction) (text : Document) : Document :=
  transaction.changes.foldl (fun text change => change.inverse.apply text) text

end Transaction

/-- The changes made so far and those taken back, nearest first, and the transaction that is still
open. -/
structure History where
  past : List Transaction := []
  future : List Transaction := []
  open? : Option Transaction := none
  /-- How many transactions are kept. One is always kept. -/
  limit : Nat := 1000
  /-- How many transactions have been forgotten to keep the limit. -/
  forgotten : Nat := 0
deriving DecidableEq, Inhabited

namespace History

/-- Forgets the oldest transactions that are more than the limit. -/
def trim (history : History) : History :=
  let kept := max history.limit 1
  { history with
    past := history.past.take kept
    forgotten := history.forgotten + (history.past.length - kept) }

def setLimit (history : History) (limit : Nat) : History :=
  trim { history with limit }

def inTransaction (history : History) : Bool :=
  history.open?.isSome

/-- Ends the open transaction. One without changes is dropped; any other leaves nothing to
redo. -/
def close (history : History) : History :=
  match history.open? with
  | none => history
  | some transaction =>
    if transaction.changes = [] then { history with open? := none }
    else
      { history with
        past := transaction :: history.past
        future := []
        open? := none }

/-- Ends the open transaction with the caret at a place. -/
def commit (history : History) (caret : Nat) : History :=
  match history.open? with
  | none => history
  | some transaction =>
    let ended := close { history with open? := some { transaction with caretAfter := caret } }
    if transaction.changes = [] then ended else ended.trim

/-- Opens a transaction with the caret at a place. One that is open is ended before. -/
def begin (history : History) (caret : Nat) : History :=
  { history.commit caret with open? := some ⟨[], caret, caret⟩ }

/-- Takes a change into the open transaction, if there is one. -/
def record (history : History) (change : Change) : History :=
  if change.isEmpty then history
  else
    { history with
      open? := history.open?.map fun transaction =>
        { transaction with changes := change :: transaction.changes } }

/-- Replaces the part of a text between two offsets and records the change. -/
def replace (history : History) (text : Document) (start stop : Nat) (inserted : List Char) :
    History × Document :=
  (history.record ⟨start, text.slice start stop, inserted⟩, text.replace start stop inserted)

/-- Takes the latest transaction back. The caret goes to where it began. -/
def undo (history : History) (text : Document) : History × Document × Option Nat :=
  let closed := history.close
  match closed.past with
  | [] => (closed, text, none)
  | transaction :: past =>
    ({ closed with past, future := transaction :: closed.future }, transaction.undo text,
      some transaction.caretBefore)

/-- Makes the transaction taken back last again. The caret goes to where it ended. -/
def redo (history : History) (text : Document) : History × Document × Option Nat :=
  match history.future with
  | [] => (history, text, none)
  | transaction :: future =>
    ({ history with past := transaction :: history.past, future }, transaction.redo text,
      some transaction.caretAfter)

end History

end ModalEdit

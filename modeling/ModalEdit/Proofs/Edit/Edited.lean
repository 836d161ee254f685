import ModalEdit.Proofs.Caret.Order
import ModalEdit.Proofs.History.Journal
import ModalEdit.Workspace

/-!
What edits do to a workspace: they replace text from inside the text on, they move carets inside it,
and they fill registers. A chain of such steps keeps carets in the text, keeps which of them select,
and goes through the journal with nothing but permitted operations.
-/

set_option autoImplicit false

namespace ModalEdit

theorem shiftOffset_le {text : Document} {start offset : Nat} (stop : Nat) (inserted : List Char)
    (inside : start ≤ text.length) (stands : offset ≤ text.length) :
    shiftOffset start stop inserted.length offset ≤
      (text.replace start stop inserted).length := by
  rw [text.length_replace start stop inserted inside]
  unfold shiftOffset
  split
  · omega
  · split <;> omega

/-- Text that is put in moves what stands behind its place or right there. -/
theorem shiftOffset_self (place inserted offset : Nat) :
    shiftOffset place place inserted offset = if place ≤ offset then offset + inserted else offset := by
  unfold shiftOffset
  split
  · rw [Nat.sub_self, Nat.sub_zero]
  · rw [if_neg (by omega)]

namespace Workspace

/-- The history of a workspace with the text that it belongs to. -/
def journal (space : Workspace) : Journal :=
  ⟨space.history, space.text⟩

/-- Whether every caret is in the text. -/
def InText (space : Workspace) : Prop :=
  ∀ caret ∈ space.carets.toList, caret.offset ≤ space.text.length

/-- Whether all carets select something, or none of them. -/
def Selects (space : Workspace) (selecting : Bool) : Prop :=
  ∀ caret ∈ space.carets.toList, caret.anchor?.isSome = selecting

theorem InText.offsetAt_le {space : Workspace} (inText : space.InText) (index : Nat) :
    space.carets.offsetAt index ≤ space.text.length := by
  unfold CaretSet.offsetAt CaretSet.get?
  cases found : space.carets.toList[index]? with
  | none => exact Nat.zero_le _
  | some caret => exact inText caret (List.mem_of_getElem? found)

theorem inText_replace {space : Workspace} {start : Nat} (stop : Nat) (inserted : List Char)
    (inText : space.InText) (inside : start ≤ space.text.length) :
    (space.replace start stop inserted).InText := by
  intro caret member
  obtain ⟨old, stood, rfl⟩ := CaretSet.mem_map.mp member
  exact shiftOffset_le stop inserted inside (inText old stood)

theorem selects_replace {space : Workspace} {selecting : Bool} (start stop : Nat)
    (inserted : List Char) (selects : space.Selects selecting) :
    (space.replace start stop inserted).Selects selecting := by
  intro caret member
  obtain ⟨old, stood, rfl⟩ := CaretSet.mem_map.mp member
  rw [← selects old stood, Option.isSome_map]

theorem inText_moveCaret {space : Workspace} {place : Nat} (index : Nat) (inText : space.InText)
    (inside : place ≤ space.text.length) : (space.moveCaret index place).InText := by
  intro caret member
  rcases CaretSet.mem_modify member with stood | ⟨old, _, rfl⟩
  · exact inText caret stood
  · exact inside

theorem selects_moveCaret {space : Workspace} {selecting : Bool} (index place : Nat)
    (selects : space.Selects selecting) : (space.moveCaret index place).Selects selecting := by
  intro caret member
  rcases CaretSet.mem_modify member with stood | ⟨old, stood, rfl⟩
  · exact selects caret stood
  · exact selects old stood

theorem inTransaction_record (history : History) (change : Change) :
    (history.record change).inTransaction = history.inTransaction := by
  unfold History.record
  split
  · rfl
  · exact Option.isSome_map

/-- The workspaces that edits lead to. As long as the carets began in the text, every edit is made
in the text. -/
inductive Edited (before : Workspace) : Workspace → Prop where
  | refl : Edited before before
  | replace {space : Workspace} {start : Nat} (stop : Nat) (inserted : List Char)
      (edited : Edited before space) (inside : before.InText → start ≤ space.text.length) :
      Edited before (space.replace start stop inserted)
  | moveCaret {space : Workspace} {place : Nat} (index : Nat) (edited : Edited before space)
      (inside : before.InText → place ≤ space.text.length) :
      Edited before (space.moveCaret index place)
  | record {space : Workspace} (name? : Option Char) (register : Register) (capture : Capture)
      (edited : Edited before space) : Edited before (space.record name? register capture)

namespace Edited

variable {before after : Workspace}

theorem inText (edited : Edited before after) (inText : before.InText) : after.InText := by
  induction edited with
  | refl => exact inText
  | replace stop inserted _ inside ih => exact inText_replace stop inserted ih (inside inText)
  | moveCaret index _ inside ih => exact inText_moveCaret index ih (inside inText)
  | record _ _ _ _ ih => exact ih

theorem selects {selecting : Bool} (edited : Edited before after)
    (selects : before.Selects selecting) : after.Selects selecting := by
  induction edited with
  | refl => exact selects
  | replace stop inserted _ _ ih => exact selects_replace _ stop inserted ih
  | moveCaret index _ _ ih => exact selects_moveCaret index _ ih
  | record _ _ _ _ ih => exact ih

theorem inTransaction (edited : Edited before after) :
    after.history.inTransaction = before.history.inTransaction := by
  induction edited with
  | refl => rfl
  | replace stop inserted _ _ ih => exact (inTransaction_record _ _).trans ih
  | moveCaret index _ _ ih => exact ih
  | record _ _ _ _ ih => exact ih

theorem trans {last : Workspace} (first : Edited before after) (second : Edited after last) :
    Edited before last := by
  induction second with
  | refl => exact first
  | replace stop inserted _ inside ih =>
    exact .replace stop inserted ih fun began => inside (first.inText began)
  | moveCaret index _ inside ih =>
    exact .moveCaret index ih fun began => inside (first.inText began)
  | record name? register capture _ ih => exact .record name? register capture ih

/-- Edits made while a transaction is open are recorded in it. -/
theorem leadsTo (edited : Edited before after) (inText : before.InText)
    (opened : before.history.inTransaction = true) :
    before.journal.LeadsTo after.journal := by
  induction edited with
  | refl => exact .refl before.journal
  | @replace space start stop inserted edited inside ih =>
    have permitted : space.journal.Permits (.replace start stop inserted) :=
      ⟨edited.inTransaction.trans opened, inside inText⟩
    exact ih.trans (.apply _ permitted)
  | moveCaret _ _ _ ih => exact ih
  | record _ _ _ _ ih => exact ih

end Edited

/-- A loop whose state holds a workspace edits it when each round does. -/
theorem edited_foldl {State Item : Type} {step : State → Item → State}
    (space : State → Workspace)
    (each : ∀ state item, Edited (space state) (space (step state item))) (items : List Item)
    (state : State) : Edited (space state) (space (items.foldl step state)) := by
  induction items generalizing state with
  | nil => exact .refl
  | cons item rest ih => exact (each state item).trans (ih (step state item))

/-- A loop that found nothing to do in any round has changed nothing. -/
theorem foldl_idle {State Item Seen : Type} {step : State → Item → State} {any : State → Bool}
    {seen : State → Seen}
    (each : ∀ state item, any (step state item) = false →
      any state = false ∧ seen (step state item) = seen state)
    (items : List Item) (state : State) (idle : any (items.foldl step state) = false) :
    any state = false ∧ seen (items.foldl step state) = seen state := by
  induction items generalizing state with
  | nil => exact ⟨idle, rfl⟩
  | cons item rest ih =>
    obtain ⟨stepIdle, restSame⟩ := ih (step state item) idle
    obtain ⟨stateIdle, stepSame⟩ := each state item stepIdle
    exact ⟨stateIdle, restSame.trans stepSame⟩

theorem inTransaction_begin (space : Workspace) : space.begin.history.inTransaction = true := by
  unfold begin
  split
  · assumption
  · rfl

theorem inTransaction_commit (space : Workspace) : space.commit.history.inTransaction = false := by
  unfold commit History.commit
  cases opened : space.history.open? with
  | none => simp only [History.inTransaction, opened, Option.isSome_none]
  | some transaction =>
    dsimp only
    split
    · rename_i empty
      simp only [History.close, empty, ↓reduceIte, History.inTransaction, Option.isSome_none]
    · rename_i changed
      simp only [History.close, changed, ↓reduceIte, History.trim, History.inTransaction,
        Option.isSome_none]

theorem leadsTo_begin (space : Workspace) : space.journal.LeadsTo space.begin.journal := by
  unfold begin
  split
  · exact .refl space.journal
  · exact .apply (.begin space.window.caret) trivial

theorem leadsTo_commit (space : Workspace) : space.journal.LeadsTo space.commit.journal :=
  .apply (.commit space.window.caret) trivial

theorem window_begin (space : Workspace) : space.begin.window = space.window := by
  unfold begin
  split <;> rfl

theorem carets_begin (space : Workspace) : space.begin.carets = space.carets := by
  unfold begin
  split <;> rfl

theorem inText_begin {space : Workspace} (inText : space.InText) : space.begin.InText := by
  unfold InText
  rw [carets_begin, text_begin]
  exact inText

theorem selects_begin {space : Workspace} {selecting : Bool} (selects : space.Selects selecting) :
    space.begin.Selects selecting := by
  unfold Selects
  rw [carets_begin]
  exact selects

/-- Edits in a transaction of their own. -/
theorem Edited.leadsTo_begun {before after : Workspace} (edited : Edited before.begin after)
    (inText : before.InText) : before.journal.LeadsTo after.journal :=
  before.leadsTo_begin.trans (edited.leadsTo (inText_begin inText) before.inTransaction_begin)

theorem Edited.leadsTo_committed {before after : Workspace} (edited : Edited before.begin after)
    (inText : before.InText) : before.journal.LeadsTo after.commit.journal :=
  (edited.leadsTo_begun inText).trans after.leadsTo_commit

/-- Nothing is different but the history. -/
structure Spares (before after : Workspace) : Prop where
  window : after.window = before.window
  options : after.options = before.options
  registers : after.registers = before.registers

theorem Spares.trans {before middle after : Workspace} (first : before.Spares middle)
    (second : middle.Spares after) : before.Spares after :=
  ⟨second.window.trans first.window, second.options.trans first.options,
    second.registers.trans first.registers⟩

theorem spares_begin (space : Workspace) : space.Spares space.begin := by
  unfold begin
  split <;> exact ⟨rfl, rfl, rfl⟩

theorem spares_commit (space : Workspace) : space.Spares space.commit :=
  ⟨rfl, rfl, rfl⟩

/-- A transaction in which nothing has been edited. -/
theorem spares_transaction {before after : Workspace} (same : after = before.begin) :
    before.Spares after.commit :=
  before.spares_begin.trans (same ▸ after.spares_commit)

end Workspace

end ModalEdit

import Mathlib.Algebra.Order.BigOperators.Group.List
import Mathlib.Algebra.Order.Group.Nat
import Mathlib.Data.List.Nodup
import ModalEdit.Proofs.Caret.Merging
import ModalEdit.Proofs.Response.Counts
import ModalEdit.Proofs.Session.Answering

/-!
Turning selections into ones that typed text replaces, and back again. Each caret at or behind its anchor steps
behind the last character of its selection first, and back onto it then. That comes to nothing, except for a caret
behind its anchor on an empty line, which can only step back, and for a caret that steps onto another one, with
which it is merged.
-/

set_option autoImplicit false

namespace ModalEdit

namespace Document

variable {text : Document} {offset : Nat}

/-- On an empty line a caret stands at its end. -/
theorem lineEnd_of_isEmptyLine (inside : offset ≤ text.length)
    (empty : text.isEmptyLine (text.lineOf offset) = true) :
    text.lineEnd (text.lineOf offset) = offset := by
  have starts := text.lineStart_lineOf_le offset
  have ends := le_lineEnd_lineOf inside
  have none := eq_of_beq empty
  unfold lineLength at none
  omega

/-- On any other line a caret at rest stands on a character. -/
theorem lt_lineEnd_of_nonempty (rests : text.clampCaret offset false = offset)
    (nonempty : text.isEmptyLine (text.lineOf offset) = false) :
    offset < text.lineEnd (text.lineOf offset) := by
  have some := ne_of_beq_false nonempty
  unfold lineLength at some
  rcases lt_lineEnd_of_clampCaret rests with before | empty
  · exact before
  · omega

/-- A caret is never put further on. -/
theorem clampCaret_le_self (text : Document) (offset : Nat) (pastEnd : Bool) :
    text.clampCaret offset pastEnd ≤ offset := by
  rw [clampCaret_eq_min]
  exact Nat.min_le_left _ _

end Document

namespace Caret

variable {text : Document} {kind : SelectionKind} {caret : Caret}

/-- The caret when its selection has become one that typed text replaces. -/
def stepOn (text : Document) (kind : SelectionKind) (caret : Caret) : Caret :=
  if kind ≠ .line ∧ caret.anchor?.any (· ≤ caret.offset) = true then
    { caret with offset := min (caret.offset + 1) (text.lineEnd (text.lineOf caret.offset)) }
  else caret

/-- The caret when its selection has become one for commands again. -/
def stepBack (kind : SelectionKind) (caret : Caret) : Caret :=
  if kind ≠ .line ∧ caret.anchor?.any (· < caret.offset) = true then
    { caret with offset := caret.offset - 1 }
  else caret

/-- Whether there is a character behind which the caret of a selection can step. -/
structure StepsOn (text : Document) (kind : SelectionKind) (caret : Caret) : Prop where
  notLines : kind ≠ .line
  selects : caret.anchor?.any (· ≤ caret.offset) = true
  nonempty : text.isEmptyLine (text.lineOf caret.offset) = false

/-- Whether the caret of a selection stands on an empty line, where it can step back only. -/
structure Slips (text : Document) (kind : SelectionKind) (caret : Caret) : Prop where
  notLines : kind ≠ .line
  selects : caret.anchor?.any (· < caret.offset) = true
  empty : text.isEmptyLine (text.lineOf caret.offset) = true

instance : Decidable (caret.StepsOn text kind) :=
  decidable_of_iff (kind ≠ .line ∧ caret.anchor?.any (· ≤ caret.offset) = true ∧
      text.isEmptyLine (text.lineOf caret.offset) = false)
    ⟨fun ⟨notLines, selects, nonempty⟩ => ⟨notLines, selects, nonempty⟩,
      fun ⟨notLines, selects, nonempty⟩ => ⟨notLines, selects, nonempty⟩⟩

instance : Decidable (caret.Slips text kind) :=
  decidable_of_iff (kind ≠ .line ∧ caret.anchor?.any (· < caret.offset) = true ∧
      text.isEmptyLine (text.lineOf caret.offset) = true)
    ⟨fun ⟨notLines, selects, empty⟩ => ⟨notLines, selects, empty⟩,
      fun ⟨notLines, selects, empty⟩ => ⟨notLines, selects, empty⟩⟩

/-- A caret behind its anchor is one at or behind it. -/
theorem any_le_of_any_lt (behind : caret.anchor?.any (· < caret.offset) = true) :
    caret.anchor?.any (· ≤ caret.offset) = true := by
  obtain ⟨anchor, isAnchor, before⟩ := (Option.any_eq_true _ _).mp behind
  exact (Option.any_eq_true _ _).mpr
    ⟨anchor, isAnchor, decide_eq_true (Nat.le_of_lt (of_decide_eq_true before))⟩

theorem stepOn_of_stepsOn (rests : text.clampCaret caret.offset false = caret.offset)
    (steps : caret.StepsOn text kind) :
    caret.stepOn text kind = { caret with offset := caret.offset + 1 } := by
  have before := Document.lt_lineEnd_of_nonempty rests steps.nonempty
  unfold stepOn
  rw [if_pos ⟨steps.notLines, steps.selects⟩, Nat.min_eq_left before]

theorem stepOn_of_not_stepsOn (rests : text.clampCaret caret.offset false = caret.offset)
    (stays : ¬caret.StepsOn text kind) : caret.stepOn text kind = caret := by
  unfold stepOn
  split
  · rename_i moves
    have inside : caret.offset ≤ text.length := rests ▸ Document.clampCaret_le _ _ _
    have empty : text.isEmptyLine (text.lineOf caret.offset) = true :=
      eq_true_of_ne_false fun nonempty => stays ⟨moves.1, moves.2, nonempty⟩
    rw [Document.lineEnd_of_isEmptyLine inside empty, Nat.min_eq_right (Nat.le_succ _)]
  · rfl

theorem stepBack_stepOn (rests : text.clampCaret caret.offset false = caret.offset)
    (firm : ¬caret.Slips text kind) : (caret.stepOn text kind).stepBack kind = caret := by
  by_cases steps : caret.StepsOn text kind
  · have selects : caret.anchor?.any (· < caret.offset + 1) = true := by
      simpa only [Nat.lt_succ_iff] using steps.selects
    rw [stepOn_of_stepsOn rests steps]
    unfold stepBack
    rw [if_pos ⟨steps.notLines, selects⟩]
    rfl
  · rw [stepOn_of_not_stepsOn rests steps]
    unfold stepBack
    split
    · rename_i moves
      obtain ⟨notLines, selects⟩ := moves
      exfalso
      cases empty : text.isEmptyLine (text.lineOf caret.offset) with
      | true => exact firm ⟨notLines, selects, empty⟩
      | false => exact steps ⟨notLines, any_le_of_any_lt selects, empty⟩
    · rfl

theorem offset_stepBack_of_slips (rests : text.clampCaret caret.offset false = caret.offset)
    (slips : caret.Slips text kind) :
    ((caret.stepOn text kind).stepBack kind).offset < caret.offset := by
  have stays : ¬caret.StepsOn text kind := by
    intro steps
    have nonempty := steps.nonempty
    rw [slips.empty] at nonempty
    cases nonempty
  obtain ⟨anchor, _, before⟩ := (Option.any_eq_true _ _).mp slips.selects
  have behind : anchor < caret.offset := of_decide_eq_true before
  rw [stepOn_of_not_stepsOn rests stays]
  unfold stepBack
  rw [if_pos ⟨slips.notLines, slips.selects⟩]
  exact Nat.sub_one_lt (Nat.ne_of_gt (Nat.zero_lt_of_lt behind))

theorem anchor?_stepOn (text : Document) (kind : SelectionKind) (caret : Caret) :
    (caret.stepOn text kind).anchor? = caret.anchor? := by
  unfold stepOn
  split <;> rfl

theorem offset_stepOn_le_succ (text : Document) (kind : SelectionKind) (caret : Caret) :
    (caret.stepOn text kind).offset ≤ caret.offset + 1 := by
  unfold stepOn
  split
  · exact Nat.min_le_left _ _
  · exact Nat.le_succ _

theorem offset_stepOn_le (kind : SelectionKind)
    (rests : text.clampCaret caret.offset false = caret.offset) :
    (caret.stepOn text kind).offset ≤ text.length := by
  unfold stepOn
  split
  · exact Nat.le_trans (Nat.min_le_right _ _) (text.lineEnd_le _)
  · exact rests ▸ Document.clampCaret_le _ _ _

theorem stepOn_line (text : Document) (caret : Caret) : caret.stepOn text .line = caret :=
  if_neg fun moves => moves.1 rfl

theorem stepBack_line (caret : Caret) : caret.stepBack .line = caret :=
  if_neg fun moves => moves.1 rfl

end Caret

namespace CaretSet

/-- Whether the carets come back from a selection that typed text replaces: none of them stands behind its
anchor on an empty line, and none steps onto another one that stays. -/
structure Returns (text : Document) (kind : SelectionKind) (carets : CaretSet) : Prop where
  firm : ∀ caret ∈ carets.toList, ¬caret.Slips text kind
  apart : ∀ first ∈ carets.toList, ∀ second ∈ carets.toList,
    first.StepsOn text kind → ¬second.StepsOn text kind → second.offset ≠ first.offset + 1

variable {text : Document} {kind : SelectionKind} {carets : CaretSet} {back : Caret → Caret}

instance : Decidable (carets.Returns text kind) :=
  decidable_of_iff ((∀ caret ∈ carets.toList, ¬caret.Slips text kind) ∧
      ∀ first ∈ carets.toList, ∀ second ∈ carets.toList,
        first.StepsOn text kind → ¬second.StepsOn text kind → second.offset ≠ first.offset + 1)
    ⟨fun ⟨firm, apart⟩ => ⟨firm, apart⟩, fun ⟨firm, apart⟩ => ⟨firm, apart⟩⟩

/-- Carets at rest in a text, in order and apart. -/
structure RestsIn (text : Document) (carets : CaretSet) : Prop where
  ascending : carets.Ascending
  clamped : ∀ caret ∈ carets.toList, text.clampCaret caret.offset false = caret.offset

theorem ascending_stepOn (rests : carets.RestsIn text) (returns : carets.Returns text kind) :
    (carets.map (Caret.stepOn text kind)).Ascending := by
  unfold Ascending
  rw [toList_map, List.pairwise_map]
  refine rests.ascending.imp_of_mem ?_
  intro first second isFirst isSecond before
  have firstRests := rests.clamped first isFirst
  have secondRests := rests.clamped second isSecond
  by_cases secondSteps : second.StepsOn text kind
  · rw [Caret.stepOn_of_stepsOn secondRests secondSteps]
    exact Nat.lt_of_le_of_lt (Caret.offset_stepOn_le_succ text kind first) (Nat.succ_lt_succ before)
  · rw [Caret.stepOn_of_not_stepsOn secondRests secondSteps]
    by_cases firstSteps : first.StepsOn text kind
    · have differ := returns.apart first isFirst second isSecond firstSteps secondSteps
      rw [Caret.stepOn_of_stepsOn firstRests firstSteps]
      exact Nat.lt_of_le_of_ne before differ.symm
    · rw [Caret.stepOn_of_not_stepsOn firstRests firstSteps]
      exact before

/-- What brings back every caret but those that slip, and takes these further back. -/
structure BringsBack (text : Document) (kind : SelectionKind) (carets : CaretSet)
    (back : Caret → Caret) : Prop where
  firm : ∀ caret ∈ carets.toList, ¬caret.Slips text kind → back (caret.stepOn text kind) = caret
  slips : ∀ caret ∈ carets.toList, caret.Slips text kind →
    (back (caret.stepOn text kind)).offset < caret.offset

theorem BringsBack.back_eq (brings : carets.BringsBack text kind back)
    (rests : carets.RestsIn text) (returns : carets.Returns text kind) :
    ((carets.map (Caret.stepOn text kind)).merge.map back).merge = carets :=
  merge_map_merge_map rests.ascending (ascending_stepOn rests returns) fun caret member =>
    brings.firm caret member (returns.firm caret member)

theorem BringsBack.offset_le (brings : carets.BringsBack text kind back)
    {caret : Caret} (member : caret ∈ carets.toList) :
    (back (caret.stepOn text kind)).offset ≤ caret.offset := by
  by_cases slips : caret.Slips text kind
  · exact Nat.le_of_lt (brings.slips caret member slips)
  · rw [brings.firm caret member slips]

theorem BringsBack.returns (brings : carets.BringsBack text kind back)
    (rests : carets.RestsIn text)
    (same : ((carets.map (Caret.stepOn text kind)).merge.map back).merge.toList.map Caret.offset =
      carets.toList.map Caret.offset) : carets.Returns text kind := by
  have kept := congrArg List.length same
  rw [List.length_map, List.length_map] at kept
  obtain ⟨there, again⟩ := perm_of_merge_map_merge_map (Nat.le_of_eq kept.symm)
  constructor
  · -- A caret that slips makes the sum of the offsets smaller.
    intro caret member slips
    have sums := (again.map Caret.offset).sum_eq
    rw [same, List.map_map] at sums
    have less := List.sum_lt_sum (l := carets.toList)
      (Caret.offset ∘ back ∘ Caret.stepOn text kind) Caret.offset
      (fun other isOther => brings.offset_le isOther) ⟨caret, member, brings.slips caret member slips⟩
    omega
  · -- Two carets that come to the same offset would be merged.
    intro first isFirst second isSecond steps stays next
    have distinct : (carets.toList.map (Caret.offset ∘ Caret.stepOn text kind)).Nodup := by
      rw [← List.map_map]
      refine (there.map Caret.offset).nodup_iff.mp (List.pairwise_map.mpr ?_)
      exact (ascending_merge _).imp Nat.ne_of_lt
    have met : (first.stepOn text kind).offset = (second.stepOn text kind).offset := by
      rw [Caret.stepOn_of_stepsOn (rests.clamped first isFirst) steps,
        Caret.stepOn_of_not_stepsOn (rests.clamped second isSecond) stays, next]
    have one := List.inj_on_of_nodup_map distinct isFirst isSecond met
    exact stays (one ▸ steps)

end CaretSet

namespace Editor

variable {editor resting : Editor} {kind : SelectionKind} {target : ReturnMode} {key : Key}

/-- The editor with its carets moved, in another mode. -/
def turned (editor : Editor) (move : Caret → Caret) (mode : Mode) : Editor :=
  { editor.update (·.mapCarets move) with mode }

/-- Over whole lines no caret steps. -/
theorem turned_unless_line {move step : Caret → Caret} {mode : Mode}
    (still : kind = .line → move = id) (moves : kind ≠ .line → move = step) :
    { if kind = .line then editor else editor.update (·.mapCarets step) with mode } =
      editor.turned move mode := by
  unfold turned
  split
  · rename_i lines
    have same : editor.carets.map id = editor.carets := CaretSet.map_of_fixed fun _ _ => rfl
    rw [still lines]
    unfold update Workspace.mapCarets
    dsimp only
    rw [same]
    rfl
  · rename_i others
    rw [moves others]

theorem visualToSelect_eq (editor : Editor) (kind : SelectionKind) (target : ReturnMode) :
    editor.visualToSelect kind target =
      (editor.turned (Caret.stepOn editor.text kind) (.select kind target)).done := by
  refine congrArg Editor.done (turned_unless_line ?_ fun others => ?_)
  · rintro rfl
    exact funext (Caret.stepOn_line editor.text)
  · unfold Caret.stepOn
    simp only [ne_eq, others, not_false_eq_true, true_and]
    rfl

theorem selectToVisual_eq (editor : Editor) (kind : SelectionKind) (target : ReturnMode) :
    editor.selectToVisual kind target =
      (editor.turned (Caret.stepBack kind) (.visual kind target)).done := by
  refine congrArg Editor.done (turned_unless_line ?_ fun others => ?_)
  · rintro rfl
    exact funext Caret.stepBack_line
  · unfold Caret.stepBack
    simp only [ne_eq, others, not_false_eq_true, true_and]

theorem press_visual_toggle (visual : editor.mode = .visual kind target)
    (awaits : editor.pending.awaited = .command) (control : key.isCtrl 'g' = true) :
    editor.press key =
      (editor.turned (Caret.stepOn editor.text kind) (.select kind target)).settle.done := by
  have uncounted : editor.countKey? key = none := by
    unfold countKey?
    rw [(Key.printable?_of_isCtrl control).1]
  have others {c : Char} (differ : 'g'.toLower ≠ c.toLower) : ¬key.isCtrl c = true :=
    Bool.eq_false_iff.mp (Key.isCtrl_of_ne control differ)
  refine press_of_done ?_
  rw [pressInMode_visualKey awaits _ visual, ← visualToSelect_eq]
  unfold visualKey
  rw [if_neg (not_or.mpr ⟨Key.ne_escape_of_isCtrl control, others (by decide)⟩), uncounted,
    Option.getD_none, if_neg (others (by decide)), if_pos control]

theorem press_select_toggle (select : editor.mode = .select kind target)
    (control : key.isCtrl 'g' = true) :
    editor.press key =
      (editor.turned (Caret.stepBack kind) (.visual kind target)).settle.done := by
  have others : ¬key.isCtrl 'c' = true :=
    Bool.eq_false_iff.mp (Key.isCtrl_of_ne control (by decide))
  refine press_of_done ?_
  rw [pressInMode_select _ select, ← selectToVisual_eq]
  unfold pressSelect
  rw [if_neg (not_or.mpr ⟨Key.ne_escape_of_isCtrl control, others⟩), if_pos control]

theorem carets_turned_settle (editor : Editor) (move : Caret → Caret) (mode : Mode) :
    (editor.turned move mode).settle.carets =
      (editor.carets.map ((editor.turned move mode).restCaret ∘ move)).merge := by
  rw [carets_settle_eq, ← CaretSet.map_map]
  rfl

/-- Where carets may stand behind the last character of a line, each of them stays where it has stepped. -/
theorem carets_toSelect (placed : editor.Placed) (rests : editor.carets.RestsIn editor.text) :
    (editor.turned (Caret.stepOn editor.text kind) (.select kind target)).settle.carets =
      (editor.carets.map (Caret.stepOn editor.text kind)).merge := by
  have fixed : ∀ caret ∈ (editor.carets.map (Caret.stepOn editor.text kind)).toList,
      (editor.turned (Caret.stepOn editor.text kind) (.select kind target)).restCaret caret =
        caret := by
    intro caret member
    obtain ⟨old, stood, rfl⟩ := CaretSet.mem_map.mp member
    have inside := Caret.offset_stepOn_le kind (rests.clamped old stood)
    refine restCaret_of_rests inside (Document.clampCaret_pastEnd inside) ?_
    rw [Caret.anchor?_stepOn]
    exact placed.anchors old stood
  rw [carets_turned_settle, ← CaretSet.map_map, CaretSet.map_of_fixed fixed]

/-- Where they may not, the carets that step back and do not slip are at rest again. -/
theorem bringsBack_restCaret (text : resting.text = editor.text)
    (visual : resting.mode = .visual kind target) (placed : editor.Placed)
    (rests : editor.carets.RestsIn editor.text) :
    editor.carets.BringsBack editor.text kind (resting.restCaret ∘ Caret.stepBack kind) := by
  constructor
  · intro caret member firm
    have here := rests.clamped caret member
    rw [Function.comp_apply, Caret.stepBack_stepOn here firm]
    apply restCaret_of_rests
    · rw [text]
      exact placed.offsets caret member
    · rw [text, visual]
      exact here
    · rw [text]
      exact placed.anchors caret member
  · intro caret member slips
    have earlier := Caret.offset_stepBack_of_slips (rests.clamped caret member) slips
    refine Nat.lt_of_le_of_lt (Nat.le_trans (Document.clampCaret_le_self _ _ _) ?_) earlier
    exact Nat.min_le_left _ _

variable {allows : Editor → Call → Prop} {window : Window}

theorem RestsVisual.restsIn {start : Journal} (rests : editor.RestsVisual start)
    (visual : editor.mode = .visual kind target) : editor.carets.RestsIn editor.text := by
  obtain ⟨ascending, clamped⟩ := rests.rested (visual ▸ rfl)
  rw [visual] at clamped
  exact ⟨ascending, clamped⟩

/-- Wherever keys and commands have led to: a selection becomes one that typed text replaces, and one of the same
kind for commands again that ends in the same mode. The carets are where they were just if none of them stands
behind its anchor on an empty line and none steps onto another one that stays, and then nothing is different
in them. -/
theorem Reached.toggled_twice (unselected : window.Unselected)
    (reached : Reached allows window editor) (visual : editor.mode = .visual kind target)
    (awaits : editor.pending.awaited = .command) (control : key.isCtrl 'g' = true) :
    let selected := editor.press key
    let back := selected.1.press key
    (selected.2 = .done ∧ selected.1.mode = .select kind target) ∧
      (back.2 = .done ∧ back.1.mode = .visual kind target ∧ back.1.text = editor.text) ∧
      (back.1.carets.toList.map (·.offset) = editor.carets.toList.map (·.offset) ↔
        editor.carets.Returns editor.text kind) ∧
      (editor.carets.Returns editor.text kind → back.1.carets = editor.carets) := by
  intro selected back
  have reaches := reached.restsVisual unselected
  have rests := reaches.restsIn visual
  have placed := reaches.steady.placed
  let stepped := (editor.turned (Caret.stepOn editor.text kind) (.select kind target)).settle
  let resting := stepped.turned (Caret.stepBack kind) (.visual kind target)
  have first : selected = stepped.done := press_visual_toggle visual awaits control
  have second : back = resting.settle.done := by
    have pressed : stepped.press key = resting.settle.done := press_select_toggle rfl control
    rw [← pressed]
    exact congrArg (fun outcome : Outcome => outcome.1.press key) first
  have text : resting.text = editor.text := (standsAs_settle _).text
  have carets : resting.settle.carets =
      ((editor.carets.map (Caret.stepOn editor.text kind)).merge.map
        (resting.restCaret ∘ Caret.stepBack kind)).merge := by
    rw [carets_turned_settle, carets_toSelect placed rests]
  have brings := bringsBack_restCaret text rfl placed rests
  rw [first, second]
  refine ⟨⟨rfl, rfl⟩, ⟨rfl, rfl, (standsAs_settle resting).text.trans text⟩, ?_, ?_⟩
  · show resting.settle.carets.toList.map _ = _ ↔ _
    rw [carets]
    refine ⟨brings.returns rests, fun returns => ?_⟩
    rw [brings.back_eq rests returns]
  · intro returns
    exact carets.trans (brings.back_eq rests returns)

/-- A caret that has been moved down onto an empty line does not come back there, and one that has been moved along
its line does. -/
theorem Reached.toggled_twice_empty_line :
    let window : Window :=
      { text := ['a', 'b', '\n', '\n', 'c', 'd'], carets := .single (.ofOffset 0) }
    let toggled (editor : Editor) : Editor := ((editor.press (.ctrl 'g')).1.press (.ctrl 'g')).1
    (∃ editor, Reached anyCall window editor ∧ editor.mode = .visual .character .normal ∧
      editor.carets.toList.map (·.offset) = [3] ∧
      (toggled editor).mode = .visual .character .normal ∧
      (toggled editor).carets.toList.map (·.offset) ≠ [3]) ∧
    ∃ editor, Reached anyCall window editor ∧ editor.mode = .visual .character .normal ∧
      editor.carets.toList.map (·.offset) = [1] ∧ (toggled editor).carets = editor.carets := by
  intro window toggled
  have control : (Key.ctrl 'g').isCtrl 'g' = true := by decide
  have start (keys : List Key) : Reached anyCall window
      ((Session.ofWindow window).editor.pressAll keys) :=
    Reached.start.pressAll fun _ _ _ => trivial
  refine ⟨?_, ?_⟩
  · have reached := start [.ofChar 'v', .ofChar 'j']
    generalize editorEq : (Session.ofWindow window).editor.pressAll _ = editor at reached
    have stands : editor.mode = .visual .character .normal ∧ editor.pending.awaited = .command ∧
        editor.carets.toList.map (·.offset) = [3] ∧
        ¬editor.carets.Returns editor.text .character := by
      rw [← editorEq]
      decide +kernel
    obtain ⟨visual, awaits, offsets, slips⟩ := stands
    obtain ⟨_, ⟨_, mode, _⟩, same, _⟩ :=
      Reached.toggled_twice ⟨by decide, by decide⟩ reached visual awaits control
    rw [offsets] at same
    exact ⟨editor, reached, visual, offsets, mode, fun stays => slips (same.mp stays)⟩
  · have reached := start [.ofChar 'v', .ofChar 'l']
    generalize editorEq : (Session.ofWindow window).editor.pressAll _ = editor at reached
    have stands : editor.mode = .visual .character .normal ∧ editor.pending.awaited = .command ∧
        editor.carets.toList.map (·.offset) = [1] ∧
        editor.carets.Returns editor.text .character := by
      rw [← editorEq]
      decide +kernel
    obtain ⟨visual, awaits, offsets, returns⟩ := stands
    obtain ⟨_, _, _, stays⟩ :=
      Reached.toggled_twice ⟨by decide, by decide⟩ reached visual awaits control
    exact ⟨editor, reached, visual, offsets, stays returns⟩

end Editor

end ModalEdit

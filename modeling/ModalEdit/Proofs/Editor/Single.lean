import ModalEdit.Proofs.Edit.Bare
import ModalEdit.Proofs.Response.Selecting
import ModalEdit.Proofs.Session.Reachable

/-!
Operators with a single caret: whatever way leads to a span, what comes of it is the operator applied to
the span, with the caret where the operator leaves it.
-/

set_option autoImplicit false

namespace ModalEdit

namespace Workspace

/-- What an operator leaves behind does not depend on an open transaction. -/
theorem applied_begin (space : Workspace) (operator : Operator) (span : Span) (name? : Option Char)
    (steps : Nat) :
    (space.begin.applyOperator operator span name? steps).2 =
      (space.applyOperator operator span name? steps).2 := by
  have window := space.window_begin
  cases operator with
  | yank =>
    unfold applyOperator yankSpan
    rw [window]
  | _ => exact space.alike_begin.applied _ span name? steps nofun

theorem moveCaret_single {space : Workspace} (alone : space.carets.size = 1) (offset : Nat) :
    (space.moveCaret 0 offset).window.caret = offset := by
  have single : space.window.carets = .single space.window.carets.primary :=
    CaretSet.eq_single alone
  unfold moveCaret setCarets carets Window.caret
  rw [single]
  rfl

end Workspace

namespace Editor

variable {editor first second : Editor} {space : Workspace} {caret : Nat} {mode : Mode}

/-- There is one caret at a place, in a mode, and in a workspace that operators cannot tell from a given
one. -/
structure EndsAs (editor : Editor) (space : Workspace) (caret : Nat) (mode : Mode) : Prop where
  alone : editor.carets.size = 1
  alike : editor.toWorkspace.Alike space
  caret : editor.window.caret = caret
  mode : editor.mode = mode

/-- A single caret and its selection once they have been put where the mode lets them be. -/
theorem carets_clampCarets (alone : editor.carets.size = 1) :
    editor.clampCarets.carets = .single
      { editor.carets.primary with
        offset := editor.text.clampCaret (min editor.window.caret editor.text.length)
          editor.mode.caretPastEnd
        anchor? := editor.carets.primary.anchor?.map (min · editor.text.length) } := by
  have single : editor.carets = .single editor.carets.primary := CaretSet.eq_single alone
  unfold clampCarets update Workspace.setCarets
  dsimp only
  rw [single, CaretSet.map_single, CaretSet.merge_of_ascending (CaretSet.ascending_single _)]
  rfl

/-- Where a single caret stands once it has been put where the mode lets it stand. -/
theorem caret_settle (alone : editor.carets.size = 1) :
    editor.settle.window.caret = editor.text.clampCaret (min editor.window.caret editor.text.length)
      editor.mode.caretPastEnd :=
  congrArg (fun carets : CaretSet => carets.primary.offset)
    (editor.standsAs_settle.carets.trans (carets_clampCarets alone))

theorem size_settle (alone : editor.carets.size = 1) : editor.settle.carets.size = 1 := by
  rw [editor.standsAs_settle.carets]
  exact size_clampCarets alone

theorem alike_settle (editor : Editor) : editor.settle.toWorkspace.Alike editor.toWorkspace := by
  have window (window : Window) (context : ScrollContext) :
      (window.scrollToCaret context).bare = window.bare := by
    unfold Window.scrollToCaret
    split
    · rfl
    · unfold Window.scrollView
      split <;> rfl
  unfold Workspace.Alike Workspace.bare
  congr 1
  exact window _ _

theorem text_settle (editor : Editor) : editor.settle.text = editor.text :=
  editor.standsAs_settle.text

/-- Editors that end as the same workspace, with the caret at the same place in the same mode, show the
same. -/
theorem EndsAs.settle {other : Workspace} (ends : first.EndsAs space caret mode)
    (endsToo : second.EndsAs other caret mode) (alike : space.Alike other) :
    first.settle.text = second.settle.text ∧ first.settle.registers = second.settle.registers ∧
      first.settle.window.caret = second.settle.window.caret ∧
        first.settle.mode = second.settle.mode := by
  have same : first.toWorkspace.Alike second.toWorkspace :=
    ends.alike.trans (alike.trans endsToo.alike.symm)
  have text : first.text = second.text := same.text
  refine ⟨?_, same.registers, ?_, ends.mode.trans endsToo.mode.symm⟩
  · rw [text_settle, text_settle]
    exact text
  · rw [caret_settle ends.alone, caret_settle endsToo.alone, ends.caret, endsToo.caret, ends.mode,
      endsToo.mode, text]

theorem EndsAs.trans {other : Workspace} {place : Nat} (ends : editor.EndsAs space caret mode)
    (alike : space.Alike other) (same : caret = place) : editor.EndsAs other place mode :=
  ⟨ends.alone, ends.alike.trans alike, ends.caret.trans same, ends.mode⟩

theorem EndsAs.report (ends : editor.EndsAs space caret mode) (message : String) :
    (editor.report message).EndsAs space caret mode :=
  ⟨ends.alone, ends.alike, ends.caret, ends.mode⟩

theorem EndsAs.commit (ends : editor.EndsAs space caret mode) :
    (editor.update (·.commit)).EndsAs space caret mode :=
  ⟨ends.alone, ends.alike, ends.caret, ends.mode⟩

theorem EndsAs.withMode (ends : editor.EndsAs space caret mode) (other : Mode) :
    EndsAs { editor with mode := other } space caret other :=
  ⟨ends.alone, ends.alike, ends.caret, rfl⟩

theorem EndsAs.startTyping (ends : editor.EndsAs space caret mode) (other : Mode) (times : Nat)
    (newLine : Bool) : (editor.startTyping other times newLine).EndsAs space caret other :=
  ⟨ends.alone, ends.alike, ends.caret, rfl⟩

theorem EndsAs.clearAnchors (ends : editor.EndsAs space caret mode) :
    (editor.update (·.clearAnchors)).EndsAs space caret mode :=
  ⟨(CaretSet.size_map _ _).trans ends.alone, ends.alike, ends.caret, ends.mode⟩

theorem EndsAs.enterAgain (ends : editor.EndsAs space caret mode) (target : ReturnMode) :
    (editor.enterAgain target.mode).EndsAs space caret target.mode := by
  unfold Editor.enterAgain
  split
  · have alone := (Workspace.size_begin editor.toWorkspace).trans ends.alone
    have window := editor.toWorkspace.window_begin
    exact ⟨alone, editor.toWorkspace.alike_begin.trans ends.alike,
      (congrArg Window.caret window).trans ends.caret, rfl⟩
  · exact ⟨ends.alone, ends.alike, ends.caret, rfl⟩

/-- Remembering a selection changes nothing else. -/
theorem exists_rememberSelection (editor : Editor) (kind : SelectionKind) :
    ∃ last?, editor.rememberSelection kind = { editor with lastSelection? := last? } := by
  unfold rememberSelection
  dsimp only
  split
  · exact ⟨_, rfl⟩
  · exact ⟨editor.lastSelection?, rfl⟩

section Single

variable (alone : editor.carets.size = 1)

include alone

theorem descending_single : editor.carets.descending = [0] := by
  rw [CaretSet.eq_single alone]
  rfl

theorem get?_single : editor.carets.get? 0 = some editor.carets.primary := by
  rw [CaretSet.eq_single alone]
  rfl

/-- A destination that there is takes the caret with it. -/
theorem moveCarets_single {destination : Destination} {count? : Option Nat} {landing : Landing}
    (reaches : editor.target? editor.carets.primary destination count? (editor.motionContext false) =
      some landing) :
    editor.moveCarets destination count? =
      (editor.update (·.setCarets (.single
        { editor.carets.primary with
          offset := landing.offset, sticky? := landing.sticky? }))).done := by
  have single : editor.carets = .single editor.carets.primary := CaretSet.eq_single alone
  unfold moveCarets update Workspace.mapCarets
  dsimp only
  rw [single, CaretSet.map_single]
  have any : ((CaretSet.single editor.carets.primary).toList.any fun caret =>
      (editor.target? caret destination count? (editor.motionContext false)).isSome) = true := by
    unfold CaretSet.toList CaretSet.single
    rw [List.nil_append, List.any_cons, reaches]
    rfl
  rw [any, reaches]
  rfl

/-- An operator at the caret. -/
theorem endsAs_applyAt (operator : Operator) {span : Span} (register? : Option Char) (steps : Nat)
    (starts : span.StartsIn editor.text) :
    let landed := editor.applyOperator operator span register? steps
    (editor.applyAt 0 operator span register? steps).1.EndsAs landed.1 landed.2.caret editor.mode ∧
      (editor.applyAt 0 operator span register? steps).2 = landed.2.blockCarets := by
  intro landed
  have size : landed.1.carets.size = 1 :=
    (editor.lands_applyOperator operator span register? steps fun _ => starts).edited.size.trans alone
  have moved : EndsAs { editor with toWorkspace := landed.1.moveCaret 0 landed.2.caret } landed.1
      landed.2.caret editor.mode :=
    ⟨(CaretSet.size_modify _ 0 _).trans size, rfl, Workspace.moveCaret_single size _, rfl⟩
  refine ⟨?_, rfl⟩
  unfold applyAt
  dsimp only
  generalize reportOf? operator span _ _ = report?
  cases report? with
  | none => exact moved
  | some message => exact moved.report message

/-- An operator at the caret, as part of a transaction. -/
theorem endsAs_applyAt_begun (operator : Operator) {span : Span} (register? : Option Char)
    (steps : Nat) (starts : span.StartsIn editor.text) :
    let begun := editor.update (·.begin)
    let landed := editor.applyOperator operator span register? steps
    (begun.applyAt 0 operator span register? steps).1.EndsAs landed.1 landed.2.caret editor.mode ∧
      (begun.applyAt 0 operator span register? steps).2 = landed.2.blockCarets := by
  intro begun landed
  have aloneBegun : begun.carets.size = 1 := (Workspace.size_begin _).trans alone
  have text : begun.text = editor.text := editor.text_begin
  have applied := editor.alike_begin.applyOperator operator span register? steps
  have left : (begun.applyOperator operator span register? steps).2 = landed.2 :=
    editor.applied_begin operator span register? steps
  obtain ⟨ends, blocks⟩ := endsAs_applyAt aloneBegun operator register? steps (text ▸ starts)
  exact ⟨ends.trans applied (congrArg Applied.caret left),
    blocks.trans (congrArg Applied.blockCarets left)⟩

/-- An operator up to a destination. -/
theorem endsAs_operate {operator : Operator} {destination : Destination} {count? : Option Nat}
    {span : Span} (register? : Option Char) (starts : span.StartsIn editor.text)
    (spans : editor.spanAt? editor.carets.primary operator destination count?
      (editor.motionContext true) = some span) :
    let landed := editor.applyOperator operator span register? 1
    ∃ after : Editor, editor.operate operator destination count? register? = after.done ∧
      after.EndsAs landed.1 landed.2.caret (if operator = .change then .insert else .normal) := by
  intro landed
  let begun := editor.update (·.begin)
  have aloneBegun : begun.carets.size = 1 := (Workspace.size_begin _).trans alone
  have carets : begun.carets = editor.carets := editor.carets_begin
  have spansBegun : begun.spanAt? editor.carets.primary operator destination count?
      (editor.motionContext true) = some span := by
    rw [← spans]
    unfold begun update Workspace.begin
    dsimp only
    split <;> rfl
  obtain ⟨ends, -⟩ := endsAs_applyAt_begun alone operator register? 1 starts
  unfold operate
  dsimp only
  rw [descending_single aloneBegun, List.foldl_cons, List.foldl_nil, get?_single aloneBegun, carets,
    Option.bind_some, spansBegun]
  dsimp only
  rw [Bool.not_true, if_neg Bool.false_ne_true]
  by_cases change : operator = .change
  · rw [if_pos change, if_pos change]
    exact ⟨_, rfl, ends.startTyping .insert 1 false⟩
  · rw [if_neg change, if_neg change]
    exact ⟨_, rfl, (ends.withMode .normal).commit⟩

/-- An operator on lines from the caret on. -/
theorem endsAs_operateLines (operator : Operator) {count : Nat} (register? : Option Char)
    (enough : count ≤ 1 ∨ editor.text.lineOf editor.window.caret ≠ editor.text.lastLine) :
    let line := editor.text.lineOf editor.window.caret
    let last := min (Number.wrapAdd line (max count 1 - 1)) editor.text.lastLine
    let landed := editor.applyOperator operator (.lines line last) register? 1
    ∃ after : Editor, editor.operateLines operator count register? = after.done ∧
      after.EndsAs landed.1 landed.2.caret (if operator = .change then .insert else .normal) := by
  intro line last landed
  have allowed : ¬(1 < max count 1 ∧ line = editor.text.lastLine) := by
    rintro ⟨many, atLast⟩
    rcases enough with one | before
    · omega
    · exact before atLast
  let begun := editor.update (·.begin)
  have aloneBegun : begun.carets.size = 1 := (Workspace.size_begin _).trans alone
  have text : begun.text = editor.text := editor.text_begin
  have offset : begun.carets.offsetAt 0 = editor.window.caret := by
    unfold CaretSet.offsetAt
    rw [get?_single aloneBegun]
    exact congrArg Window.caret editor.window_begin
  have starts : (Span.lines line last).StartsIn editor.text := trivial
  obtain ⟨ends, -⟩ := endsAs_applyAt_begun alone operator register? 1 starts
  unfold operateLines
  dsimp only
  rw [if_neg allowed, descending_single aloneBegun, List.foldl_cons, List.foldl_nil]
  dsimp only
  rw [offset, text, List.contains_nil, if_neg Bool.false_ne_true]
  by_cases change : operator = .change
  · rw [if_pos change, if_pos change]
    exact ⟨_, rfl, ends.startTyping .insert 1 false⟩
  · rw [if_neg change, if_neg change]
    exact ⟨_, rfl, (ends.withMode .normal).commit⟩

/-- An operator on the selection of a single caret is applied to that one alone. -/
theorem operateOnSelections_single (operator : Operator) {kind : SelectionKind} {span : Span}
    (target : ReturnMode) (register? : Option Char) (steps : Nat) {toLineEnd : Bool}
    (spans : editor.spanOf? editor.carets.primary kind toLineEnd = some span) :
    ∃ last?,
      let begun := update { editor with lastSelection? := last? } (·.begin)
      let cleared := (begun.applyAt 0 operator span register? steps).1.update (·.clearAnchors)
      let places := (begun.applyAt 0 operator span register? steps).2
      editor.operateOnSelections operator kind target register? steps toLineEnd =
        if operator = .change then
          if 1 < places.length then
            let typing := (cleared.placeCarets places).startTyping .insert 1 false
            { typing with typing := { typing.typing with block := true } }.done
          else (cleared.startTyping .insert 1 false).done
        else ((cleared.update (·.commit)).enterAgain target.mode).done := by
  unfold operateOnSelections
  dsimp only
  have remembered : ∃ last?, (editor.mode.selectionKind?.map editor.rememberSelection).getD editor =
      { editor with lastSelection? := last? } := by
    cases editor.mode.selectionKind? with
    | none => exact ⟨editor.lastSelection?, rfl⟩
    | some kind => exact editor.exists_rememberSelection kind
  obtain ⟨last?, same⟩ := remembered
  refine ⟨last?, ?_⟩
  rw [same]
  let begun := update { editor with lastSelection? := last? } (·.begin)
  have aloneBegun : begun.carets.size = 1 := (Workspace.size_begin _).trans alone
  have carets : begun.carets = editor.carets := editor.carets_begin
  have spansBegun : begun.spanOf? editor.carets.primary kind toLineEnd = some span := by
    rw [← spans]
    unfold begun update Workspace.begin
    dsimp only
    split <;> rfl
  have step : operateOnCaret operator kind register? steps toLineEnd (begun, []) 0 =
      begun.applyAt 0 operator span register? steps := by
    unfold operateOnCaret
    dsimp only
    rw [get?_single aloneBegun, carets]
    dsimp only
    rw [spansBegun]
    rfl
  rw [descending_single aloneBegun, List.foldl_cons, List.foldl_nil, step]

/-- An operator on a selection. -/
theorem endsAs_operateOnSelections {operator : Operator} {kind : SelectionKind} {span : Span}
    (target : ReturnMode) (register? : Option Char) (steps : Nat) {toLineEnd : Bool}
    (starts : span.StartsIn editor.text)
    (spans : editor.spanOf? editor.carets.primary kind toLineEnd = some span)
    (places : (editor.applyOperator operator span register? steps).2.blockCarets = []) :
    let landed := editor.applyOperator operator span register? steps
    ∃ after : Editor,
      editor.operateOnSelections operator kind target register? steps toLineEnd = after.done ∧
      after.EndsAs landed.1 landed.2.caret (if operator = .change then .insert else target.mode) := by
  intro landed
  obtain ⟨last?, applied⟩ := operateOnSelections_single alone operator target register? steps spans
  have aloneRemembered : CaretSet.size (Workspace.carets
      { editor with lastSelection? := last? }.toWorkspace) = 1 := alone
  obtain ⟨ends, blocks⟩ := endsAs_applyAt_begun aloneRemembered operator register? steps starts
  have none := blocks.trans places
  rw [applied, none]
  by_cases change : operator = .change
  · rw [if_pos change, if_pos change]
    exact ⟨_, rfl, ends.clearAnchors.startTyping .insert 1 false⟩
  · rw [if_neg change, if_neg change]
    exact ⟨_, rfl, ends.clearAnchors.commit.enterAgain target⟩

/-- An operator on lines that a command names. Only deleting them moves the caret. -/
theorem endsAs_applyToLines (operator : Operator) (first last : Nat) (register? : Option Char) :
    let landed := editor.applyOperator operator (.lines first last) register? 0
    ∃ after : Editor, (Session.applyToLines editor operator first last register?).1 = after.settle ∧
      after.toWorkspace.Alike landed.1 ∧
      (operator = .delete → after.EndsAs landed.1 landed.2.caret editor.mode) := by
  intro landed
  let begun := editor.begin.applyOperator operator (.lines first last) register? 0
  have applied : begun.1.Alike landed.1 :=
    editor.alike_begin.applyOperator operator (.lines first last) register? 0
  have left : begun.2 = landed.2 :=
    editor.applied_begin operator (.lines first last) register? 0
  have size : begun.1.carets.size = 1 :=
    (editor.begin.lands_applyOperator operator (.lines first last) register? 0
      fun _ => trivial).edited.size.trans ((Workspace.size_begin _).trans alone)
  refine ⟨_, rfl, ?_, ?_⟩
  · split
    · exact applied
    · exact applied
  · intro delete
    rw [if_pos delete]
    have index : begun.1.carets.primaryIndex = 0 := by
      rw [CaretSet.eq_single size]
      rfl
    have caret : (begun.1.moveCaret begun.1.carets.primaryIndex begun.2.caret).window.caret =
        landed.2.caret := by
      rw [index, Workspace.moveCaret_single size, left]
    exact ⟨(CaretSet.size_modify _ _ _).trans size, applied, caret, rfl⟩

end Single

end Editor

end ModalEdit

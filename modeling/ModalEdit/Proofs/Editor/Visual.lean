import ModalEdit.Editor.Visual
import ModalEdit.Proofs.Editor.Normal
import ModalEdit.Proofs.Editor.Typing

/-!
Every key keeps the editor sound while something is selected.
-/

set_option autoImplicit false

namespace ModalEdit

namespace Key

/-- The keys that move the carets in modes that take text: cursor keys, and named keys with shift. -/
def moves (key : Key) : Bool :=
  key.isShiftedNamed || key.isCursorKey

/-- A key with control alone is a character key, so it moves nothing. -/
theorem moves_of_isCtrl {key : Key} {c : Char} (ctrl : key.isCtrl c = true) :
    key.moves = false := by
  obtain ⟨code, modifiers⟩ := key
  cases code with
  | char typed => rfl
  | _ => cases ctrl

theorem isCtrl_of_moves {key : Key} (moves : key.moves = true) (c : Char) :
    key.isCtrl c = false := by
  cases ctrl : key.isCtrl c with
  | false => rfl
  | true =>
    rw [moves_of_isCtrl ctrl] at moves
    cases moves

theorem ne_escape_of_moves {key : Key} (moves : key.moves = true) : key ≠ .escape := by
  rintro rfl
  cases moves

theorem printable?_of_moves {key : Key} (moves : key.moves = true) : key.printable? = none := by
  obtain ⟨code, modifiers⟩ := key
  cases code with
  | char typed => cases moves
  | _ => rfl

end Key

namespace Editor

variable {start : Journal} {editor before after : Editor}

theorem Sound.closed_selecting (sound : editor.Sound start)
    (selecting : editor.mode.selectionKind?.isSome = true) :
    editor.history.inTransaction = false := by
  apply sound.closed
  cases mode : editor.mode with
  | insert | replace =>
    rw [mode] at selecting
    cases selecting
  | _ => rfl

theorem Sound.uncounted_selecting (sound : editor.Sound start)
    (selecting : editor.mode.selectionKind?.isSome = true) :
    editor.pending.operatorCount? = none := by
  apply sound.uncounted
  intro operator target mode
  rw [mode] at selecting
  cases selecting

theorem startsIn_selectionSpan {window : Window} {caret : Caret} {kind : SelectionKind}
    {exclusive toLineEnd : Bool} {span : Span} (inside : caret.offset ≤ window.text.length)
    (found : selectionSpan? window caret kind exclusive toLineEnd = some span) :
    span.StartsIn window.text := by
  unfold selectionSpan? at found
  obtain ⟨anchor, _, found⟩ := Option.bind_eq_some_iff.mp found
  dsimp only at found
  cases kind with
  | character =>
    have low : min anchor caret.offset ≤ window.text.length :=
      Nat.le_trans (Nat.min_le_right _ _) inside
    dsimp only at found
    generalize (if exclusive then _ else _) = stop at found
    split at found
    · cases found
    · cases found
      exact low
  | line =>
    cases found
    trivial
  | block =>
    cases found
    trivial

theorem edits_operateOnCaret (operator : Operator) (kind : SelectionKind) (register? : Option Char)
    (steps : Nat) (toLineEnd : Bool) (state : Editor × List Nat) (index : Nat) :
    state.1.Edits (operateOnCaret operator kind register? steps toLineEnd state index).1 := by
  obtain ⟨editor, places⟩ := state
  unfold operateOnCaret
  dsimp only
  split
  · exact .refl editor
  · rename_i caret stands
    have inside : editor.InText → caret.offset ≤ editor.text.length :=
      fun inText => inText caret (List.mem_of_getElem? stands)
    split
    · rename_i span found
      exact editor.edits_applyAt index operator register? steps
        fun inText => startsIn_selectionSpan (inside inText) found
    · split
      · exact edits_moveCaret index (.refl editor)
          fun inText => Nat.le_trans (Nat.min_le_right _ _) (inside inText)
      · exact .refl editor

/-- Edits of the selections, which end then. -/
theorem Sound.selectionsEdited {remembered : Editor} (sound : editor.Sound start)
    (inText : editor.InText) (same : editor.Matches remembered)
    (edits : (remembered.update (·.begin)).Edits after)
    (uncounted : editor.pending.operatorCount? = none) :
    (after.update (·.clearAnchors)).Ready start := by
  have remembers := sound.ofMatches same
  have stands : remembered.InText := same.space ▸ inText
  have recorded : after.Recorded start := remembers.recorded.begun stands edits
  refine ⟨recorded.leadsTo (.refl _) rfl, selects_clearAnchors _, ?_⟩
  exact (congrArg _ (edits.pending.trans same.pending)).trans uncounted

theorem pending_placeCarets (places : List Nat) :
    (editor.placeCarets places).pending = editor.pending := by
  cases places <;> rfl

/-- Carets put at places take no selections along. -/
theorem ready_placeCarets {places : List Nat} (recorded : editor.Recorded start)
    (uncounted : editor.pending.operatorCount? = none) (placed : places ≠ []) :
    (editor.placeCarets places).Ready start := by
  have strays : (editor.placeCarets places).strays = editor.strays := by
    cases places <;> rfl
  refine ⟨recorded.leadsTo ?_ strays, selects_placeCarets placed, ?_⟩
  · rw [journal_placeCarets]
    exact .refl _
  · rw [pending_placeCarets]
    exact uncounted

/-- What an operator on the selections comes down to: edits in a transaction of their own, and then
typing, or the mode that the selections came from. -/
theorem operateOnSelections_cases (editor : Editor) (operator : Operator) (kind : SelectionKind)
    (target : ReturnMode) (register? : Option Char) (steps : Nat) (toLineEnd : Bool) :
    ∃ remembered applied places, editor.Matches remembered ∧
      (remembered.update (·.begin)).Edits applied ∧
      editor.operateOnSelections operator kind target register? steps toLineEnd =
        let cleared := applied.update (·.clearAnchors)
        if operator = .change then
          if 1 < places.length then
            let typing := (cleared.placeCarets places).startTyping .insert 1 false
            { typing with typing := { typing.typing with block := true } }.done
          else (cleared.startTyping .insert 1 false).done
        else ((cleared.update (·.commit)).enterAgain target.mode).done := by
  unfold operateOnSelections
  dsimp only
  have same := editor.matches_remembered
  generalize (editor.mode.selectionKind?.map editor.rememberSelection).getD editor = remembered
    at same ⊢
  refine ⟨remembered, _, _, same, ?_, rfl⟩
  exact Edits.foldl Prod.fst (edits_operateOnCaret operator kind register? steps toLineEnd)
    (remembered.update (·.begin)).carets.descending (remembered.update (·.begin), [])

theorem keeps_operateOnSelections (operator : Operator) (kind : SelectionKind)
    (target : ReturnMode) (register? : Option Char) (steps : Nat) (toLineEnd : Bool)
    (sound : editor.Sound start) (inText : editor.InText)
    (uncounted : editor.pending.operatorCount? = none) :
    Keeps start before
      (editor.operateOnSelections operator kind target register? steps toLineEnd) := by
  obtain ⟨remembered, applied, places, same, edits, outcome⟩ :=
    editor.operateOnSelections_cases operator kind target register? steps toLineEnd
  have cleared := sound.selectionsEdited inText same edits uncounted
  rw [outcome]
  dsimp only
  split
  · split
    · rename_i several
      have placed : places ≠ [] := by
        intro none
        rw [none] at several
        cases several
      have ready := ready_placeCarets cleared.recorded cleared.uncounted placed
      exact .done ((ready.startTyping .insert rfl 1 false).retype _)
    · exact .done (cleared.startTyping _ rfl 1 false)
  · have closed := applied.clearAnchors.inTransaction_commit
    exact .done (sound_enterAgain target cleared.commit closed)

theorem keeps_joinSelection (kind : SelectionKind) (target : ReturnMode) (spaces : Bool)
    (sound : editor.Sound start) (selecting : editor.mode.selectionKind?.isSome = true) :
    Keeps start before (editor.joinSelection kind target spaces) := by
  have remembered := sound.ofMatches (editor.matches_rememberSelection kind)
  have selects : (editor.rememberSelection kind).mode.selectionKind?.isSome = true := by
    rw [(editor.matches_rememberSelection kind).mode]
    exact selecting
  have ended := sound_endSelection target remembered (remembered.closed_selecting selects)
    (remembered.uncounted_selecting selects)
  have inText := ((editor.rememberSelection kind).placed_endSelection target).offsets
  unfold joinSelection
  dsimp only
  split
  · exact .reject remembered
  · split
    · exact .reject (ended.transacted inText .refl)
    · rename_i space place joins
      exact .done (ended.transacted inText ((Workspace.lands_joinLines joins).moveCaret _))

theorem edits_putOnCaret (kind : SelectionKind) (register? : Option Char)
    (state : Editor × Bool) (index : Nat) :
    state.1.Edits (putOnCaret kind register? state index).1 := by
  obtain ⟨editor, any⟩ := state
  unfold putOnCaret
  dsimp only
  split
  · rename_i space place put
    obtain ⟨span, found, puts⟩ := Option.bind_eq_some_iff.mp put
    obtain ⟨caret, stands, spanned⟩ := Option.bind_eq_some_iff.mp found
    have starts : editor.InText → span.StartsIn editor.text := fun inText =>
      startsIn_selectionSpan (inText caret (List.mem_of_getElem? stands)) spanned
    exact .ofSpace ((Workspace.lands_replaceWithRegister starts puts).moveCaret index)
  · exact .refl editor

/-- Edits of the selections that end in the mode that they came from. -/
theorem Sound.selectionsCommitted {remembered : Editor} {target : ReturnMode}
    (sound : editor.Sound start) (inText : editor.InText) (same : editor.Matches remembered)
    (edits : (remembered.update (·.begin)).Edits after)
    (uncounted : editor.pending.operatorCount? = none) :
    Sound start { after.update (fun space => space.clearAnchors.commit) with
      mode := target.mode } := by
  have cleared := sound.selectionsEdited inText same edits uncounted
  have closed := after.clearAnchors.inTransaction_commit
  refine cleared.commit.closed closed ?_
  cases target <;> rfl

theorem keeps_putOnSelections (kind : SelectionKind) (target : ReturnMode)
    (register? : Option Char) (sound : editor.Sound start) (inText : editor.InText)
    (uncounted : editor.pending.operatorCount? = none) :
    Keeps start before (editor.putOnSelections kind target register?) := by
  have same := editor.matches_rememberSelection kind
  have edits := Edits.foldl Prod.fst (edits_putOnCaret kind register?)
    ((editor.rememberSelection kind).update (·.begin)).carets.descending
    ((editor.rememberSelection kind).update (·.begin), false)
  exact .doneIf (sound.selectionsCommitted inText same edits uncounted) _

theorem edits_fillAtCaret (kind : SelectionKind) (c : Char) (editor : Editor) (index : Nat) :
    editor.Edits (fillAtCaret kind c editor index) := by
  unfold fillAtCaret
  dsimp only
  split
  · rename_i span found
    obtain ⟨caret, stands, spanned⟩ := Option.bind_eq_some_iff.mp found
    have starts : editor.InText → span.StartsIn editor.text := fun inText =>
      startsIn_selectionSpan (inText caret (List.mem_of_getElem? stands)) spanned
    exact .ofSpace ((editor.lands_fillSpan span c starts).moveCaret index)
  · exact .refl editor

theorem keeps_fillKey (kind : SelectionKind) (target : ReturnMode) (key : Key)
    (sound : editor.Sound start) (inText : editor.InText) :
    Keeps start before (editor.fillKey kind target key) := by
  have taken := sound.clearPending
  unfold fillKey
  dsimp only
  split
  · exact .done taken
  · split
    · exact .reject taken
    · rename_i c _
      have same := editor.clearPending.matches_rememberSelection kind
      have edits := Edits.foldl (fun editor => editor) (edits_fillAtCaret kind c)
        ((editor.clearPending.rememberSelection kind).update (·.begin)).carets.descending
        ((editor.clearPending.rememberSelection kind).update (·.begin))
      exact .done (taken.selectionsCommitted inText same edits rfl)

theorem keeps_insertAtBlock (putAfter : Bool) (sound : editor.Sound start)
    (uncounted : editor.pending.operatorCount? = none) :
    Keeps start before (editor.insertAtBlock putAfter) := by
  have same := editor.matches_rememberSelection .block
  have remembered := sound.ofMatches same
  unfold insertAtBlock
  dsimp only
  split
  · split
    · exact .reject remembered
    · rename_i some
      refine .done (Sound.retype ?_ _)
      refine (ready_placeCarets remembered.recorded ?_ ?_).begin.startTyping .insert rfl 1 false
      · rw [same.pending]
        exact uncounted
      · intro none
        rw [none] at some
        exact some rfl
  · exact .reject remembered

theorem keeps_swapEnds (sound : editor.Sound start) : Keeps start before editor.swapEnds := by
  refine .done (sound.mapCarets ?_)
  intro caret
  dsimp only
  split
  · rename_i anchor anchored
    rw [anchored]
    rfl
  · rfl

theorem keeps_selectionCommandOfChar (kind : SelectionKind) (target : ReturnMode) (c : Char)
    (count : Nat) (register? : Option Char) (sound : editor.Sound start) (inText : editor.InText)
    (selecting : editor.mode.selectionKind?.isSome = true) :
    Keeps start before (editor.selectionCommandOfChar kind target c count register?) := by
  have closed := sound.closed_selecting selecting
  have uncounted := sound.uncounted_selecting selecting
  have operate (operator : Operator) (kind : SelectionKind) (steps : Nat) (toLineEnd : Bool) :
      Keeps start before
        (editor.operateOnSelections operator kind target register? steps toLineEnd) :=
    keeps_operateOnSelections _ _ _ _ _ _ sound inText uncounted
  have toLineEnd (operator : Operator) :
      Keeps start before
        (if kind = .block then editor.operateOnSelections operator kind target register? 1 true
          else editor.operateOnSelections operator .line target register? 1 false) := by
    split <;> exact operate _ _ _ _
  have prompt : ((editor.endSelection .normal).openPrompt "'<,'>".toList).Sound start := by
    have ended := sound_endSelection .normal sound closed uncounted
    have normal := editor.mode_endSelection .normal
    exact sound_openPrompt _ (ended.ready_normal normal) (ended.closed_normal normal)
  have insertAt (putAfter : Bool) :
      Keeps start before
        (if kind = .block then editor.insertAtBlock putAfter else editor.reject) := by
    split
    · exact keeps_insertAtBlock putAfter sound uncounted
    · exact .reject sound
  unfold selectionCommandOfChar
  dsimp only
  split
  · exact keeps_switchSelection _ _ _ sound selecting closed
  · exact keeps_switchSelection _ _ _ sound selecting closed
  · exact keeps_swapEnds sound
  · exact keeps_swapEnds sound
  · exact .done prompt
  · exact operate _ _ _ _
  · exact operate _ _ _ _
  · exact toLineEnd _
  · exact operate _ _ _ _
  · exact operate _ _ _ _
  · exact operate _ _ _ _
  · exact operate _ _ _ _
  · exact operate _ _ _ _
  · exact toLineEnd _
  · exact operate _ _ _ _
  · exact operate _ _ _ _
  · exact operate _ _ _ _
  · exact operate _ _ _ _
  · exact operate _ _ _ _
  · exact operate _ _ _ _
  · exact operate _ _ _ _
  · exact keeps_joinSelection _ _ _ sound selecting
  · exact keeps_putOnSelections _ _ _ sound inText uncounted
  · exact keeps_putOnSelections _ _ _ sound inText uncounted
  · exact insertAt _
  · exact insertAt _
  · exact .reject sound

theorem keeps_selectionCommand (kind : SelectionKind) (target : ReturnMode) (key : Key)
    (sound : editor.Sound start) (inText : editor.InText)
    (selecting : editor.mode.selectionKind?.isSome = true) :
    Keeps start before (editor.selectionCommand kind target key) := by
  have taken := sound.clearPending
  unfold selectionCommand takePending
  dsimp only
  split
  · exact keeps_operateOnSelections _ _ _ _ _ _ taken inText rfl
  · exact IfAny.elim (.reject taken) fun c _ =>
      keeps_selectionCommandOfChar _ _ c _ _ taken inText selecting

theorem keeps_visualAfterG (kind : SelectionKind) (target : ReturnMode) (key : Key)
    (sound : editor.Sound start) (selecting : editor.mode.selectionKind?.isSome = true) :
    Keeps start before (editor.visualAfterG kind target key) := by
  unfold visualAfterG
  split
  · exact keeps_moveBy _ sound
  · exact keeps_joinSelection _ _ _ sound.clearPending selecting
  · exact keeps_selectAgain sound (sound.closed_selecting selecting)
  · exact .reject sound

/-- A key that ends the selection is taken again in the mode that the selection came from. -/
theorem keeps_pressAgain (target : ReturnMode) (key : Key) (sound : editor.Sound start)
    (selecting : editor.mode.selectionKind?.isSome = true) :
    Keeps start before ((editor.endSelection target).pressAgain key) := by
  have ended := sound_endSelection target sound (sound.closed_selecting selecting)
    (sound.uncounted_selecting selecting)
  have placed := editor.placed_endSelection target
  have mode := editor.mode_endSelection target
  have unselecting : (editor.endSelection target).mode.isVisual = false := by
    rw [mode]
    cases target <;> rfl
  refine Keeps.of_rested ?_ placed (editor.rested_endSelection target) unselecting
  unfold pressAgain
  split
  · rename_i typing
    exact keeps_pressTyping key ended typing placed.offsets
  · rename_i notTyping
    refine keeps_pressNormal key ended placed.offsets ?_
    cases target with
    | normal => exact mode
    | insert | replace =>
      rw [mode] at notTyping
      exact absurd rfl notTyping

/-- A cursor key makes the selection longer or ends it, as the options say. -/
theorem keepsIf_cursorKey (goesOn ends : Bool) (target : ReturnMode) (key : Key)
    (sound : editor.Sound start) (selecting : editor.mode.selectionKind?.isSome = true) :
    KeepsIf start before
      (if key.isShiftedNamed then
        some (if goesOn then editor.extendBy key.unshifted else editor.moveShifted key)
      else if key.isCursorKey then
        some (if ends then (editor.endSelection target).pressAgain key else editor.extendBy key)
      else none) := by
  split
  · refine .ofSome ?_
    split
    · exact keeps_extendBy _ sound
    · exact keeps_moveShifted _ sound
  · split
    · refine .ofSome ?_
      split
      · exact keeps_pressAgain target key sound selecting
      · exact keeps_extendBy key sound
    · exact .ofNone

theorem keeps_visualKey (kind : SelectionKind) (target : ReturnMode) (key : Key)
    (sound : editor.Sound start) (inText : editor.InText)
    (selecting : editor.mode.selectionKind?.isSome = true)
    (notSelect : editor.mode.isSelect = false) (awaits : editor.pending.awaited = .command) :
    Keeps start editor (editor.visualKey kind target key) := by
  have closed := sound.closed_selecting selecting
  have uncounted := sound.uncounted_selecting selecting
  unfold visualKey
  split
  · exact .done (sound_endSelection target sound.clearPending closed rfl)
  · refine IfAny.getD (keepsIf_countKey key sound) ?_
    split
    · exact keeps_switchSelection _ _ _ sound selecting closed
    · split
      · exact keeps_visualToSelect _ _ sound selecting closed uncounted awaits
      · refine IfAny.getD ?_ (keeps_selectionCommand _ _ key sound inText selecting)
        refine .orElse (keepsIf_cursorKey _ _ target key sound selecting) (.orElse ?_
          (.orElse (keepsIf_commandStart key sound notSelect)
            (.orElse (keepsIf_scrollKey key sound) (.map fun motion _ => keeps_moveBy motion sound))))
        exact keepsIf_motionStart key none sound inText notSelect fun absurd => nomatch absurd rfl

theorem keeps_pressVisual (kind : SelectionKind) (target : ReturnMode) (key : Key)
    (sound : editor.Sound start) (inText : editor.InText)
    (visual : editor.mode = .visual kind target) :
    Keeps start editor (editor.pressVisual kind target key) := by
  have rest := sound.stopWaiting
  have selecting : editor.mode.selectionKind?.isSome = true := visual ▸ rfl
  have notSelect : editor.mode.isSelect = false := visual ▸ rfl
  suffices keeps : Keeps start editor.stopWaiting (editor.pressVisual kind target key) from
    keeps.of_standsAs ⟨rfl, rfl, rfl, id⟩
  unfold pressVisual
  dsimp only
  split
  · exact keeps_visualAfterG kind target key rest selecting
  · exact keeps_scrollAfterZ key rest
  · exact keeps_registerKey key rest
  · exact keeps_findKey key _ _ none rest inText fun absurd => nomatch absurd rfl
  · exact keeps_fillKey kind target key rest inText
  · exact keeps_markKey key _ none rest inText fun absurd => nomatch absurd rfl
  · exact keeps_visualKey kind target key rest inText selecting notSelect rfl

/-- A key that types something does so with no modifier but shift. -/
theorem isCtrl_of_types {key : Key}
    (types : key.printable?.isSome = true ∨ key.code = .enter ∨ key.code = .tab) (c : Char) :
    key.isCtrl c = false := by
  obtain ⟨code, modifiers⟩ := key
  unfold Key.isCtrl
  cases code with
  | char typed =>
    rcases types with printable | named | named
    · unfold Key.printable? at printable
      dsimp only at printable ⊢
      by_cases held : modifiers = { ctrl := true }
      · subst held
        cases printable
      · rw [beq_eq_false_iff_ne.mpr held, Bool.false_and]
    · cases named
    · cases named
  | _ => rfl

theorem tabText_ne_nil (editor : Editor) : editor.tabText ≠ [] := by
  unfold tabText
  split
  · intro none
    have width := congrArg List.length none
    have wide : 0 < editor.tabStop := Nat.le_max_right _ 1
    have rest := Nat.mod_lt (editor.window.displayColumn editor.window.caret) wide
    rw [List.length_replicate, List.length_nil] at width
    omega
  · nofun

/-- A key that types something types it as text. -/
theorem pressTyping_of_types {key : Key}
    (types : key.printable?.isSome = true ∨ key.code = .enter ∨ key.code = .tab)
    (notShifted : key.isShiftedNamed = false) (awaits : editor.pending.awaited = .command) :
    ∃ chars, chars ≠ [] ∧ editor.pressTyping key = editor.stopWaiting.typeText chars := by
  have noControl := isCtrl_of_types types
  have notEscape : key ≠ .escape := by
    rintro rfl
    rcases types with printable | named | named
    · cases printable
    · cases named
    · cases named
  have typed : editor.pressTyping key =
      if key.isCursorKey then editor.stopWaiting.breakTyping.extendBy key
      else editor.stopWaiting.typedKey key := by
    unfold pressTyping specialStart? typingControl?
    simp only [awaits, noControl, notEscape, notShifted, ne_eq, not_true_eq_false, ↓reduceIte,
      Bool.false_eq_true, or_self, Bool.or_self, Option.orElse_eq_orElse, Option.orElse_none,
      Option.getD_none]
  rw [typed]
  obtain ⟨code, modifiers⟩ := key
  unfold typedKey Key.isCursorKey
  rcases types with printable | named | named
  · cases code with
    | char c =>
      unfold Key.printable? at printable
      dsimp only at printable
      split at printable
      · cases printable
      · rename_i unheld
        refine ⟨[c], nofun, ?_⟩
        simp only [Bool.false_eq_true, ↓reduceIte, Key.printable?, if_neg unheld, Option.elim_some]
    | _ => cases printable
  · cases named
    exact ⟨['\n'], nofun, rfl⟩
  · cases named
    exact ⟨_, editor.stopWaiting.tabText_ne_nil, rfl⟩

/-- A change of the selections goes on typing, with the command being typed as it is. -/
theorem mode_operateOnSelections_change (kind : SelectionKind) (target : ReturnMode)
    (register? : Option Char) (steps : Nat) (toLineEnd : Bool) :
    (editor.operateOnSelections .change kind target register? steps toLineEnd).1.mode = .insert := by
  unfold operateOnSelections
  dsimp only
  rw [if_pos rfl]
  split <;> rfl

theorem pending_operateOnSelections_change (kind : SelectionKind) (target : ReturnMode)
    (register? : Option Char) (steps : Nat) (toLineEnd : Bool) :
    (editor.operateOnSelections .change kind target register? steps toLineEnd).1.pending =
      editor.pending := by
  obtain ⟨remembered, applied, places, same, edits, outcome⟩ :=
    editor.operateOnSelections_cases .change kind target register? steps toLineEnd
  have pending : applied.pending = editor.pending := edits.pending.trans same.pending
  rw [outcome]
  dsimp only
  rw [if_pos rfl]
  split
  · exact (@pending_placeCarets (applied.update (·.clearAnchors)) places).trans pending
  · exact pending

/-- What is typed over the selections takes their place. Carets may be behind the end of the text
then. -/
theorem keeps_typeOverSelections (kind : SelectionKind) (target : ReturnMode) {key : Key}
    (sound : editor.Sound start) (inText : editor.InText)
    (selecting : editor.mode.selectionKind?.isSome = true)
    (awaits : editor.pending.awaited = .command) (notShifted : key.isShiftedNamed = false)
    (types : key.printable?.isSome = true ∨ key.code = .enter ∨ key.code = .tab) :
    Keeps start before
      ((editor.operateOnSelections .change kind target none 1 false).1.countStrays.pressTyping
        key) := by
  have uncounted := sound.uncounted_selecting selecting
  have changes : Keeps start before
      (editor.operateOnSelections .change kind target none 1 false) :=
    keeps_operateOnSelections _ _ _ _ _ _ sound inText uncounted
  have changed := changes.sound
  have mode := editor.mode_operateOnSelections_change kind target none 1 false
  have pending := editor.pending_operateOnSelections_change kind target none 1 false
  generalize (editor.operateOnSelections .change kind target none 1 false).1 = change
    at changed mode pending ⊢
  have waits : change.countStrays.pending.awaited = .command :=
    (congrArg Pending.awaited pending).trans awaits
  obtain ⟨chars, some, typed⟩ := pressTyping_of_types types notShifted waits
  have notPrompt : change.countStrays.stopWaiting.mode ≠ .commandLine := by
    rw [show change.countStrays.stopWaiting.mode = .insert from mode]
    nofun
  rw [typed, typeText, if_neg notPrompt]
  exact .done (sound_typeCounted changed.stopWaiting mode some)

/-- Only cursor keys and named keys with shift move the carets of select mode. -/
theorem isSome_selectCursorKey? (editor : Editor) (target : ReturnMode) (key : Key) :
    (editor.selectCursorKey? target key).isSome = key.moves := by
  unfold selectCursorKey? Key.moves
  cases key.isShiftedNamed with
  | true => rfl
  | false => cases key.isCursorKey <;> rfl

theorem keeps_pressSelect (kind : SelectionKind) (target : ReturnMode) (key : Key)
    (sound : editor.Sound start) (inText : editor.InText)
    (select : editor.mode = .select kind target) :
    Keeps start editor (editor.pressSelect kind target key) := by
  have selecting : editor.mode.selectionKind?.isSome = true := select ▸ rfl
  have awaits : editor.pending.awaited = .command := sound.command (select ▸ rfl)
  have closed := sound.closed_selecting selecting
  have uncounted := sound.uncounted_selecting selecting
  unfold pressSelect
  dsimp only
  split
  · exact .done (sound_endSelection target sound closed uncounted)
  · split
    · exact keeps_selectToVisual kind target sound selecting closed uncounted
    · cases cursor : editor.selectCursorKey? target key with
      | some outcome => exact keepsIf_cursorKey _ _ target key sound selecting outcome cursor
      | none =>
        have moves := editor.isSome_selectCursorKey? target key
        rw [cursor] at moves
        have notShifted : key.isShiftedNamed = false := (Bool.or_eq_false_iff.mp moves.symm).1
        rw [Option.getD_none]
        split
        · exact keeps_operateOnSelections _ _ _ _ _ _ sound inText uncounted
        · split
          · rename_i types
            exact keeps_typeOverSelections kind target sound inText selecting awaits notShifted types
          · exact .reject sound

end Editor

end ModalEdit

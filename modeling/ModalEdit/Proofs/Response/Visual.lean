import ModalEdit.Proofs.Response.Normal

/-!
What keys answer while something is selected. Some leave the selection before they are found to be of
no use, and the keys that select mode takes as text leave the command as it is.
-/

set_option autoImplicit false

namespace ModalEdit

namespace Editor

variable {turns stores parts : Prop} {before after : Editor} (editor : Editor)

theorem resembles_rememberSelection (kind : SelectionKind) :
    editor.Resembles (editor.rememberSelection kind) := by
  unfold rememberSelection
  dsimp only
  split <;> exact ⟨rfl, rfl, rfl, rfl, rfl, rfl⟩

/-- What a caret has selected does not depend on what is remembered. -/
theorem spanOf?_rememberSelection (remembered : SelectionKind) (caret : Caret)
    (kind : SelectionKind) (toLineEnd : Bool) :
    (editor.rememberSelection remembered).spanOf? caret kind toLineEnd =
      editor.spanOf? caret kind toLineEnd := by
  unfold rememberSelection
  dsimp only
  split <;> rfl

theorem size_placeCarets {editor : Editor} {places : List Nat} (placed : places ≠ []) :
    (editor.placeCarets places).carets.size = places.length := by
  cases places with
  | nil => exact absurd rfl placed
  | cons first rest =>
    have all := congrArg List.length (toList_addAll
      (editor.carets.retainPrimary.modifyPrimary fun caret => (caret.moveTo first).clearAnchor)
      rest)
    rw [List.length_append, List.length_map] at all
    exact all.trans (Nat.add_comm 1 rest.length)

/-- Carets are placed for a block, or there is one. -/
theorem gathered_placeCarets {editor : Editor} {places : List Nat} (placed : places ≠ [])
    (carets : after.carets = (editor.placeCarets places).carets)
    (typing : after.mode.isTyping = true) (block : after.typing.block = decide (1 < places.length)) :
    after.Gathered := by
  by_cases several : 1 < places.length
  · exact Or.inr ⟨typing, block.trans (decide_eq_true several)⟩
  · left
    have some := List.length_pos_iff.mpr placed
    rw [carets, size_placeCarets placed]
    omega

theorem responds_operateOnSelections (operator : Operator) (kind : SelectionKind)
    (target : ReturnMode) (register? : Option Char) (steps : Nat) (toLineEnd : Bool)
    (notTyping : editor.mode.isTyping = false) :
    Responds turns stores parts editor.pending editor
      (editor.operateOnSelections operator kind target register? steps toLineEnd) := by
  obtain ⟨remembered, applied, places, same, edits, outcome⟩ :=
    editor.operateOnSelections_cases operator kind target register? steps toLineEnd
  have pending : applied.pending = editor.pending := edits.pending.trans same.pending
  have alone (gathered : editor.Gathered) : applied.clearAnchors.carets.size = 1 := by
    refine (CaretSet.size_map _ _).trans (edits.size.trans ?_)
    exact (congrArg (fun space => space.carets.size) same.space).trans (gathered.alone notTyping)
  rw [outcome]
  dsimp only
  split
  · split
    · exact .done ⟨(@pending_placeCarets (applied.update (·.clearAnchors)) places).trans pending,
        clearAtPrompt_of_mode nofun⟩ fun _ => Or.inr ⟨rfl, rfl⟩
    · exact .done ⟨pending, clearAtPrompt_of_mode nofun⟩ fun gathered => Or.inl (alone gathered)
  · refine .done ⟨(pending_enterAgain _ _).trans pending, clearAtPrompt_of_mode ?_⟩
      fun gathered => Or.inl ?_
    · rw [mode_enterAgain]
      exact target.mode_ne_commandLine
    · have again := spares_enterAgain ((applied.update (·.clearAnchors)).update (·.commit))
        target.mode
      exact (congrArg (fun window => window.carets.size) again.window).trans (alone gathered)

/-- The selection ends before it turns out whether there are lines to join. -/
theorem responds_joinSelection (kind : SelectionKind) (target : ReturnMode) (spaces : Bool)
    (notTyping : editor.mode.isTyping = false)
    (unturned : ¬turns → editor.spanOf? editor.carets.primary kind false = none) :
    Responds turns stores parts editor.pending editor
      (editor.joinSelection kind target spaces) := by
  have same := editor.resembles_rememberSelection kind
  have pending := (editor.matches_rememberSelection kind).pending
  unfold joinSelection
  dsimp only
  rw [same.carets, editor.spanOf?_rememberSelection]
  generalize editor.rememberSelection kind = remembered at same pending ⊢
  have ended := remembered.completes_endSelection target
  have size (gathered : editor.Gathered) : (remembered.endSelection target).begin.carets.size = 1 :=
    (Workspace.size_begin _).trans (size_endSelection target
      ((congrArg CaretSet.size same.carets).trans (gathered.alone notTyping)))
  split
  · exact .unused same
  · rename_i span spanned
    have turned : turns := by
      by_contra still
      rw [unturned still] at spanned
      cases spanned
    split
    · have spares := (remembered.endSelection target).spares_begin.trans
        (Workspace.spares_commit _)
      have left : Refuses turns stores remembered (remembered.endSelection target) :=
        remembered.refuses_endSelection target turned
      refine .reject (same.refuses.trans (left.trans (.ofSpares spares fun _ => rfl)))
        fun gathered => Or.inl (size gathered)
    · rename_i space place joins
      have edited := (Workspace.lands_joinLines joins).edited
      refine .done ⟨ended.pending.trans pending, fun isPrompt => ended.prompt isPrompt⟩
        fun gathered => Or.inl ?_
      exact (CaretSet.size_modify _ _ _).trans (edited.size.trans (size gathered))

theorem putOnCaret_idle (kind : SelectionKind) (register? : Option Char) (state : Editor × Bool)
    (index : Nat) (idle : (putOnCaret kind register? state index).2 = false) :
    state.2 = false ∧ (putOnCaret kind register? state index).1 = state.1 := by
  obtain ⟨editor, any⟩ := state
  unfold putOnCaret at idle ⊢
  dsimp only at idle ⊢
  split at idle
  · cases idle
  · exact ⟨idle, rfl⟩

/-- The selections end whether there is anything to put in their place or not. -/
theorem responds_putOnSelections (kind : SelectionKind) (target : ReturnMode)
    (register? : Option Char) (notTyping : editor.mode.isTyping = false) (turned : turns) :
    Responds turns stores parts editor.pending editor
      (editor.putOnSelections kind target register?) := by
  have same := editor.resembles_rememberSelection kind
  have pending := (editor.matches_rememberSelection kind).pending
  unfold putOnSelections
  dsimp only
  generalize editor.rememberSelection kind = remembered at same pending ⊢
  have edits := Edits.foldl Prod.fst (edits_putOnCaret kind register?)
    (remembered.update (·.begin)).carets.descending (remembered.update (·.begin), false)
  have idle := @Workspace.foldl_idle _ _ _ _ Prod.snd Prod.fst (putOnCaret_idle kind register?)
    (remembered.update (·.begin)).carets.descending (remembered.update (·.begin), false)
  generalize List.foldl _ _ _ = put at edits idle ⊢
  refine .doneIf (fun none => ?_)
    (fun _ => ⟨edits.pending.trans pending, clearAtPrompt_of_mode target.mode_ne_commandLine⟩)
    fun gathered => Or.inl ?_
  · have begun := remembered.spares_begin
    rw [(idle none).2]
    exact .ofTurned turned ((congrArg Window.text begun.window).trans same.text)
      (begun.registers.trans same.registers) (begun.options.trans same.options)
  · exact (CaretSet.size_map _ _).trans (edits.size.trans
      ((congrArg CaretSet.size same.carets).trans (gathered.alone notTyping)))

theorem responds_fillKey (kind : SelectionKind) (target : ReturnMode) (key : Key)
    (notTyping : editor.mode.isTyping = false) :
    Responds turns stores parts {} editor (editor.fillKey kind target key) := by
  unfold fillKey
  dsimp only
  split
  · exact .done ⟨rfl, clearAtPrompt_of_pending rfl⟩ id
  · split
    · exact .unused ⟨rfl, rfl, rfl, rfl, rfl, rfl⟩
    · rename_i c _
      have same := editor.clearPending.resembles_rememberSelection kind
      have pending := (editor.clearPending.matches_rememberSelection kind).pending
      generalize editor.clearPending.rememberSelection kind = remembered at same pending ⊢
      have edits := Edits.foldl (fun editor => editor) (edits_fillAtCaret kind c)
        (remembered.update (·.begin)).carets.descending (remembered.update (·.begin))
      refine .done ⟨edits.pending.trans pending,
        clearAtPrompt_of_mode target.mode_ne_commandLine⟩ fun gathered => Or.inl ?_
      exact (CaretSet.size_map _ _).trans (edits.size.trans
        ((congrArg CaretSet.size same.carets).trans (gathered.alone notTyping)))

theorem responds_insertAtBlock (putAfter : Bool) :
    Responds turns stores parts editor.pending editor (editor.insertAtBlock putAfter) := by
  have same := editor.resembles_rememberSelection .block
  have pending := (editor.matches_rememberSelection .block).pending
  unfold insertAtBlock
  dsimp only
  generalize editor.rememberSelection .block = remembered at same pending ⊢
  split
  · rename_i first last left right? spanned
    generalize blockPlaces remembered.window first last left right? putAfter = places
    split
    · exact .unused same
    · rename_i some
      have placed : places ≠ [] := fun none => some (none ▸ rfl)
      refine .done ⟨(remembered.pending_placeCarets places).trans pending,
        clearAtPrompt_of_mode nofun⟩ fun _ => ?_
      exact gathered_placeCarets placed (Workspace.carets_begin _) rfl rfl
  · exact .unused same

theorem responds_swapEnds (prompt : editor.ClearAtPrompt) :
    Responds turns stores parts editor.pending editor editor.swapEnds :=
  .done ⟨rfl, prompt⟩ fun gathered => gathered.resized (CaretSet.size_map _ _) rfl rfl

theorem responds_selectionCommandOfChar (kind : SelectionKind) (target : ReturnMode) (c : Char)
    (count : Nat) (register? : Option Char) (clear : editor.pending = {})
    (notTyping : editor.mode.isTyping = false)
    (joins : ¬turns → c = 'J' → editor.spanOf? editor.carets.primary kind false = none)
    (puts : ¬turns → c ≠ 'p' ∧ c ≠ 'P') :
    Responds turns stores parts {} editor
      (editor.selectionCommandOfChar kind target c count register?) := by
  have prompt := editor.clearAtPrompt_of_pending clear
  have operate (operator : Operator) (kind : SelectionKind) (steps : Nat) (toLineEnd : Bool) :
      Responds turns stores parts {} editor
        (editor.operateOnSelections operator kind target register? steps toLineEnd) :=
    clear ▸ editor.responds_operateOnSelections _ _ _ _ _ _ notTyping
  have toLineEnd (operator : Operator) :
      Responds turns stores parts {} editor
        (if kind = .block then editor.operateOnSelections operator kind target register? 1 true
          else editor.operateOnSelections operator .line target register? 1 false) := by
    split <;> exact operate _ _ _ _
  have opened : Responds turns stores parts {} editor
      ((editor.endSelection .normal).openPrompt "'<,'>".toList).done := by
    have left := (editor.pending_endSelection .normal).trans clear
    exact .done ⟨left, clearAtPrompt_of_pending left⟩
      fun gathered => Or.inl (size_endSelection .normal (gathered.alone notTyping))
  have insertAt (putAfter : Bool) :
      Responds turns stores parts {} editor
        (if kind = .block then editor.insertAtBlock putAfter else editor.reject) := by
    split
    · exact clear ▸ editor.responds_insertAtBlock putAfter
    · exact .unused (.refl editor)
  have put (turned : turns) : Responds turns stores parts {} editor
      (editor.putOnSelections kind target register?) :=
    clear ▸ editor.responds_putOnSelections kind target register? notTyping turned
  unfold selectionCommandOfChar
  dsimp only
  split
  · exact editor.responds_switchSelection _ _ _ notTyping
  · exact editor.responds_switchSelection _ _ _ notTyping
  · exact clear ▸ editor.responds_swapEnds prompt
  · exact clear ▸ editor.responds_swapEnds prompt
  · exact opened
  · exact operate _ _ _ _
  · exact operate _ _ _ _
  · exact toLineEnd _
  · exact operate _ _ _ _
  · exact operate _ _ _ _
  · exact operate _ _ _ _
  · exact operate _ _ _ _
  · exact operate _ _ _ _
  · exact toLineEnd _
  · exact operate _ _ _ _
  · exact operate _ _ _ _
  · exact operate _ _ _ _
  · exact operate _ _ _ _
  · exact operate _ _ _ _
  · exact operate _ _ _ _
  · exact operate _ _ _ _
  · exact clear ▸ editor.responds_joinSelection _ _ _ notTyping fun still => joins still rfl
  · exact put (by_contra fun still => (puts still).1 rfl)
  · exact put (by_contra fun still => (puts still).2 rfl)
  · exact insertAt _
  · exact insertAt _
  · exact .unused (.refl editor)

theorem responds_selectionCommand (kind : SelectionKind) (target : ReturnMode) (key : Key)
    (notTyping : editor.mode.isTyping = false)
    (joins : ¬turns → key.printable? = some 'J' →
      editor.spanOf? editor.carets.primary kind false = none)
    (puts : ¬turns → key.printable? ≠ some 'p' ∧ key.printable? ≠ some 'P') :
    Responds turns stores parts {} editor (editor.selectionCommand kind target key) := by
  refine .ofTaken ?_
  unfold selectionCommand takePending
  dsimp only
  split
  · exact editor.clearPending.responds_operateOnSelections _ _ _ _ _ _ notTyping
  · refine IfAny.elim (.unused (.refl _)) fun c typed => ?_
    refine editor.clearPending.responds_selectionCommandOfChar kind target c _ _ rfl notTyping ?_ ?_
    · rintro still rfl
      exact joins still typed
    · intro still
      obtain ⟨notPut, notPutBefore⟩ := puts still
      rw [typed] at notPut notPutBefore
      exact ⟨fun same => notPut (congrArg some same), fun same => notPutBefore (congrArg some same)⟩

theorem responds_visualAfterG (kind : SelectionKind) (target : ReturnMode) (key : Key)
    (notTyping : editor.mode.isTyping = false)
    (joins : ¬turns → key.printable? = some 'J' →
      editor.spanOf? editor.carets.primary kind false = none) :
    Responds turns stores parts {} editor (editor.visualAfterG kind target key) := by
  unfold visualAfterG
  split
  · exact editor.responds_moveBy _
  · rename_i typed
    exact .ofTaken (editor.clearPending.responds_joinSelection _ _ _ notTyping
      fun still => joins still typed)
  · exact editor.responds_selectAgain
  · exact .unused (.refl editor)

theorem block_endSelection (target : ReturnMode)
    (typing : (editor.endSelection target).mode.isTyping = true) :
    (editor.endSelection target).typing.block = false := by
  rw [mode_endSelection] at typing
  cases target with
  | normal => cases typing
  | insert | replace => rfl

/-- A cursor key that is taken again where a selection came from turns to no other mode. -/
theorem responds_pressAgain (target : ReturnMode) {key : Key} (cursor : key.isCursorKey = true)
    (unshifted : key.isShiftedNamed = false) (mode : editor.mode = target.mode)
    (awaits : editor.pending.awaited = .command)
    (block : editor.mode.isTyping = true → editor.typing.block = false) :
    Responds turns stores parts {} editor (editor.pressAgain key) := by
  have moves := Key.moves_of_isCursorKey cursor
  have noControl := Key.isCtrl_of_moves moves
  have unturned : key.isShiftedNamed = true →
      editor.options.hasToken "keymodel" "startsel" = false := by
    intro shifted
    rw [unshifted] at shifted
    cases shifted
  unfold pressAgain
  split
  · rename_i typing
    have responds : Responds turns stores parts (editor.commandLeft key) editor
        (editor.pressTyping key) :=
      editor.responds_pressTyping key typing (fun _ _ => unturned) fun _ _ _ gathered =>
        gathered.resolve_right fun together => Bool.eq_false_iff.mp (block typing) together.2
    rw [commandLeft_typing key typing, if_pos ⟨awaits, moves⟩] at responds
    exact responds
  · rename_i notTyping
    have normal : editor.mode = .normal := by
      cases target with
      | normal => exact mode
      | insert | replace =>
        rw [mode] at notTyping
        exact absurd rfl notTyping
    have responds : Responds turns stores parts (editor.commandLeft key) editor
        (editor.pressNormal key) := by
      refine editor.responds_pressNormal key normal ?_ (fun _ _ half => ?_) fun _ _ => unturned
      · rw [awaits]
        rfl
      · rw [noControl, noControl] at half
        cases half
    rw [commandLeft_normal key normal, awaits, if_neg fun both => nomatch both.1] at responds
    exact responds

/-- A cursor key that is taken again needs no other key. -/
theorem step_pressAgain (target : ReturnMode) {key : Key} (cursor : key.isCursorKey = true)
    (unshifted : key.isShiftedNamed = false) (mode : editor.mode = target.mode)
    (awaits : editor.pending.awaited = .command) : (editor.pressAgain key).2 ≠ .pending := by
  unfold pressAgain
  cases target with
  | normal =>
    rw [mode]
    unfold pressNormal
    rw [awaits]
    exact editor.stopWaiting.step_normalKey_cursor cursor unshifted
  | insert | replace =>
    rw [mode, pressTyping_of_moves (Key.moves_of_isCursorKey cursor) awaits, unshifted]
    exact editor.stopWaiting.breakTyping.step_extendBy key

/-- What is answered to a cursor key once it has ended the selection. -/
theorem responds_again (target : ReturnMode) {key : Key} (cursor : key.isCursorKey = true)
    (unshifted : key.isShiftedNamed = false) (awaits : editor.pending.awaited = .command) :
    Responds turns stores parts {} (editor.endSelection target)
      ((editor.endSelection target).pressAgain key) :=
  responds_pressAgain _ target cursor unshifted (editor.mode_endSelection target)
    ((congrArg Pending.awaited (editor.pending_endSelection target)).trans awaits)
    (editor.block_endSelection target)

theorem step_again (target : ReturnMode) {key : Key} (cursor : key.isCursorKey = true)
    (unshifted : key.isShiftedNamed = false) (awaits : editor.pending.awaited = .command) :
    ((editor.endSelection target).pressAgain key).2 ≠ .pending :=
  step_pressAgain _ target cursor unshifted (editor.mode_endSelection target)
    ((congrArg Pending.awaited (editor.pending_endSelection target)).trans awaits)

/-- A cursor key makes the selection longer or ends it, as the options say. -/
theorem responds_cursorKey (goesOn ends : Bool) (target : ReturnMode) (key : Key)
    (awaits : editor.pending.awaited = .command) (notTyping : editor.mode.isTyping = false)
    (stays : ¬turns → (key.isCursorKey && !key.isShiftedNamed) = true → ends = false) :
    IfAny (Responds turns stores parts {} editor)
      (if key.isShiftedNamed then
        some (if goesOn then editor.extendBy key.unshifted else editor.moveShifted key)
      else if key.isCursorKey then
        some (if ends then (editor.endSelection target).pressAgain key else editor.extendBy key)
      else none) := by
  split
  · refine .ofSome ?_
    split
    · exact editor.responds_extendBy _
    · exact editor.responds_moveShifted _
  · rename_i unshifted
    split
    · rename_i cursor
      refine .ofSome ?_
      split
      · rename_i ending
        have plain := Bool.eq_false_iff.mpr unshifted
        have turned : turns := by
          by_contra still
          have ended := stays still (by rw [cursor, plain]; rfl)
          rw [ended] at ending
          cases ending
        exact (editor.responds_again target cursor plain awaits).of_refuses
          (editor.refuses_endSelection target turned)
          (fun _ gathered => Or.inl (size_endSelection target (gathered.alone notTyping)))
          fun pending => absurd pending (editor.step_again target cursor plain awaits)
      · exact editor.responds_extendBy key
    · exact .ofNone

theorem responds_visualKey {left : Pending} (kind : SelectionKind) (target : ReturnMode) (key : Key)
    (visual : editor.mode = .visual kind target) (awaits : editor.pending.awaited = .command)
    (leaves : key.isCtrl 'g' = true → left = editor.pending)
    (takes : key.isCtrl 'g' = false → left = {})
    (uncounted : ¬stores → (key.isCtrl 'd' || key.isCtrl 'u') = true →
      editor.pending.effectiveCount? = none)
    (stays : ¬turns → (key.isCursorKey && !key.isShiftedNamed) = true →
      (editor.options.hasToken "keymodel" "stopvisual" ||
        editor.options.hasToken "keymodel" "stopsel") = false)
    (joins : ¬turns → key.printable? = some 'J' →
      editor.spanOf? editor.carets.primary kind false = none)
    (puts : ¬turns → key.printable? ≠ some 'p' ∧ key.printable? ≠ some 'P') :
    Responds turns stores parts left editor (editor.visualKey kind target key) := by
  have notTyping : editor.mode.isTyping = false := visual ▸ rfl
  have motions : editor.mode.takesMotions = true := visual ▸ rfl
  unfold visualKey
  split
  · rename_i ends
    have others : key.isCtrl 'g' = false := by
      rcases ends with rfl | ctrl
      · rfl
      · exact Key.isCtrl_of_ne ctrl (by decide)
    rw [takes others]
    exact .ofTaken (editor.clearPending.responds_endSelection target notTyping)
  · refine IfAny.getD (editor.responds_countKey key awaits motions) ?_
    split
    · rename_i block
      rw [takes (Key.isCtrl_of_ne block (by decide))]
      exact editor.responds_switchSelection _ _ _ notTyping
    · split
      · rename_i select
        rw [leaves select]
        exact editor.responds_visualToSelect _ _ notTyping
      · rename_i others
        rw [takes (Bool.eq_false_iff.mpr others)]
        refine IfAny.getD ?_ (editor.responds_selectionCommand _ _ key notTyping joins puts)
        refine .orElse (editor.responds_cursorKey _ _ target key awaits notTyping stays) (.orElse ?_
          (.orElse (editor.responds_commandStart key (visual ▸ rfl)) (.orElse
            (editor.responds_scrollKey key uncounted)
            (.map fun motion _ => editor.responds_moveBy motion))))
        exact editor.responds_motionStart key none motions fun _ => rfl

theorem commandLeft_visual {editor : Editor} {kind : SelectionKind} {target : ReturnMode}
    (key : Key) (visual : editor.mode = .visual kind target) :
    editor.commandLeft key =
      if editor.pending.awaited = .command ∧ key.isCtrl 'g' = true then
        editor.stopWaiting.pending
      else {} := by
  unfold commandLeft keepsCommand
  rw [visual]
  simp only [Bool.and_eq_true, decide_eq_true_eq]

theorem responds_pressVisual (kind : SelectionKind) (target : ReturnMode) (key : Key)
    (visual : editor.mode = .visual kind target)
    (awaits : editor.mode.awaits editor.pending.awaited = true)
    (uncounted : ¬stores → editor.pending.awaited = .command →
      (key.isCtrl 'd' || key.isCtrl 'u') = true → editor.pending.effectiveCount? = none)
    (stays : ¬turns → editor.pending.awaited = .command →
      (key.isCursorKey && !key.isShiftedNamed) = true →
      (editor.options.hasToken "keymodel" "stopvisual" ||
        editor.options.hasToken "keymodel" "stopsel") = false)
    (joins : ¬turns → editor.pending.awaited = .command ∨ editor.pending.awaited = .afterG →
      key.printable? = some 'J' → editor.spanOf? editor.carets.primary kind false = none)
    (puts : ¬turns → editor.pending.awaited = .command →
      key.printable? ≠ some 'p' ∧ key.printable? ≠ some 'P') :
    Responds turns stores parts (editor.commandLeft key) editor
      (editor.pressVisual kind target key) := by
  have notTyping : editor.mode.isTyping = false := visual ▸ rfl
  have takes : editor.stopWaiting.mode.takesMotions = true := visual ▸ rfl
  suffices responds : Responds turns stores parts (editor.commandLeft key) editor.stopWaiting
      (editor.pressVisual kind target key) from responds.of_resembles
      ⟨rfl, rfl, rfl, rfl, rfl, rfl⟩ id
  unfold pressVisual
  dsimp only
  rw [commandLeft_visual key visual]
  rw [visual] at awaits
  cases awaited : editor.pending.awaited with
  | afterG =>
    exact editor.stopWaiting.responds_visualAfterG kind target key notTyping
      fun still => joins still (Or.inr awaited)
  | afterZ => exact editor.stopWaiting.responds_scrollAfterZ key
  | registerName => exact editor.stopWaiting.responds_registerKey key rfl takes
  | findTarget forward till =>
    exact editor.stopWaiting.responds_findKey key _ _ none notTyping fun _ => rfl
  | replacement => exact editor.stopWaiting.responds_fillKey kind target key notTyping
  | markToReach linewise =>
    exact editor.stopWaiting.responds_markKey key _ none notTyping fun _ => rfl
  | command =>
    refine editor.stopWaiting.responds_visualKey kind target key visual rfl ?_ ?_
      (fun unstored => uncounted unstored awaited) (fun still => stays still awaited)
      (fun still => joins still (Or.inl awaited)) fun still => puts still awaited
    · intro select
      rw [if_pos ⟨rfl, select⟩]
    · intro others
      rw [others, if_neg fun both => nomatch both.2]
  | markToSet | digraphFirst | digraphSecond | registerToType | literal =>
    rw [awaited] at awaits
    cases awaits

theorem step_typeText (chars : List Char) : (editor.typeText chars).2 = .done := by
  unfold typeText
  split <;> rfl

/-- What is typed over the selections is never refused. -/
theorem responds_typeOverSelections (kind : SelectionKind) (target : ReturnMode) {key : Key}
    (notTyping : editor.mode.isTyping = false) (awaits : editor.pending.awaited = .command)
    (notShifted : key.isShiftedNamed = false)
    (types : key.printable?.isSome = true ∨ key.code = .enter ∨ key.code = .tab) :
    Responds turns stores parts editor.pending editor
      ((editor.operateOnSelections .change kind target none 1 false).1.countStrays.pressTyping
        key) := by
  have changes : Responds turns stores parts editor.pending editor
      (editor.operateOnSelections .change kind target none 1 false) :=
    editor.responds_operateOnSelections _ _ _ _ _ _ notTyping
  have mode := editor.mode_operateOnSelections_change kind target none 1 false
  have pending := editor.pending_operateOnSelections_change kind target none 1 false
  generalize editor.operateOnSelections .change kind target none 1 false = outcome
    at changes mode pending ⊢
  have waits : outcome.1.countStrays.pending.awaited = .command :=
    (congrArg Pending.awaited pending).trans awaits
  -- The change has gone to insert mode and awaits nothing, so the key is text there.
  obtain ⟨chars, _, typed⟩ := pressTyping_of_types types notShifted waits
  have stopped : outcome.1.countStrays.stopWaiting.pending = editor.pending :=
    (pending_stopWaiting waits).trans pending
  have notPrompt : outcome.1.countStrays.stopWaiting.mode ≠ .commandLine := by
    rw [show outcome.1.countStrays.stopWaiting.mode = .insert from mode]
    nofun
  have types : Responds turns stores parts outcome.1.countStrays.stopWaiting.pending
      outcome.1.countStrays.stopWaiting (outcome.1.countStrays.stopWaiting.typeText chars) :=
    responds_typeText _ chars (clearAtPrompt_of_mode notPrompt)
  rw [typed]
  rw [stopped] at types
  refine ⟨fun rejected => ?_, types.completes, fun pending => ?_, fun stays gathered => ?_⟩
  · rw [step_typeText] at rejected
    cases rejected
  · rw [step_typeText] at pending
    cases pending
  · exact types.gathers stays (changes.gathers stays gathered)

theorem commandLeft_select {editor : Editor} {kind : SelectionKind} {target : ReturnMode}
    (key : Key) (select : editor.mode = .select kind target) :
    editor.commandLeft key = if key.moves then {} else editor.stopWaiting.pending := by
  unfold commandLeft keepsCommand
  rw [select]
  cases key.moves <;> rfl

theorem responds_pressSelect (kind : SelectionKind) (target : ReturnMode) (key : Key)
    (select : editor.mode = .select kind target) (awaits : editor.pending.awaited = .command)
    (stays : ¬turns → (key.isCursorKey && !key.isShiftedNamed) = true →
      (editor.options.hasToken "keymodel" "stopselect" ||
        editor.options.hasToken "keymodel" "stopsel") = false) :
    Responds turns stores parts (editor.commandLeft key) editor
      (editor.pressSelect kind target key) := by
  have notTyping : editor.mode.isTyping = false := select ▸ rfl
  have left : key.moves = false →
      editor.commandLeft key = editor.pending := by
    intro still
    rw [commandLeft_select key select, still]
    exact pending_stopWaiting awaits
  unfold pressSelect
  dsimp only
  split
  · rename_i ends
    have still : key.moves = false := by
      rcases ends with rfl | ctrl
      · rfl
      · exact Key.moves_of_isCtrl ctrl
    rw [left still]
    exact editor.responds_endSelection target notTyping
  · split
    · rename_i ctrl
      rw [left (Key.moves_of_isCtrl ctrl)]
      exact editor.responds_selectToVisual kind target notTyping
    · have moves := editor.isSome_selectCursorKey? target key
      cases cursor : editor.selectCursorKey? target key with
      | some outcome =>
        rw [cursor] at moves
        rw [commandLeft_select key select, ← moves]
        exact editor.responds_cursorKey _ _ target key awaits notTyping stays outcome cursor
      | none =>
        rw [cursor] at moves
        rw [left moves.symm, Option.getD_none]
        split
        · exact editor.responds_operateOnSelections _ _ _ _ _ _ notTyping
        · split
          · rename_i types
            exact editor.responds_typeOverSelections kind target notTyping awaits
              (Bool.or_eq_false_iff.mp moves.symm).1 types
          · exact .unused (.refl editor)

end Editor

end ModalEdit

import ModalEdit.Proofs.Response.Press

/-!
What a key that cannot be used here has done all the same: which keys have turned to another mode by
then, which of them have stored a count, and that nothing else is different.
-/

set_option autoImplicit false

namespace ModalEdit

namespace Key

/-- A key with control types nothing, and is not plain. -/
theorem printable?_of_isCtrl {key : Key} {c : Char} (ctrl : key.isCtrl c = true) :
    key.printable? = none ∧ key.isPlain = false := by
  obtain ⟨code, modifiers⟩ := key
  cases code with
  | char typed =>
    have held : modifiers = { ctrl := true } := eq_of_beq (Bool.and_eq_true_iff.mp ctrl).1
    rw [held]
    exact ⟨rfl, rfl⟩
  | _ => cases ctrl

theorem ne_escape_of_isCtrl {key : Key} {c : Char} (ctrl : key.isCtrl c = true) : key ≠ .escape := by
  rintro rfl
  cases ctrl

theorem moves_of_isShiftedNamed {key : Key} (shifted : key.isShiftedNamed = true) :
    key.moves = true := by
  unfold moves
  rw [shifted, Bool.true_or]

theorem isPlain_of_isShiftedNamed {key : Key} (shifted : key.isShiftedNamed = true) :
    key.isPlain = false := by
  obtain ⟨code, modifiers⟩ := key
  have held : modifiers.shift = true := by
    cases code with
    | char typed => cases shifted
    | _ => exact shifted
  unfold isPlain
  refine decide_eq_false ?_
  rintro rfl
  cases held

/-- A character key has no more to it than its character and shift. -/
theorem eq_of_printable? {key : Key} {c : Char} (typed : key.printable? = some c) :
    ∃ shift, key = ⟨.char c, { shift }⟩ := by
  obtain ⟨code, shift, alt, ctrl, metaKey⟩ := key
  cases code with
  | char other =>
    cases alt <;> cases ctrl <;> cases metaKey <;> cases typed
    exact ⟨shift, rfl⟩
  | _ => cases typed

end Key

namespace Editor

/-! The commands that go to another mode before it turns out whether they can be used. -/

variable {editor : Editor} {kind : SelectionKind} {target : ReturnMode} {key : Key}

theorem visualKey_join (typed : key.printable? = some 'J') :
    editor.visualKey kind target key = editor.clearPending.joinSelection kind target true := by
  obtain ⟨shift, rfl⟩ := Key.eq_of_printable? typed
  cases shift <;> rfl

theorem visualKey_put (typed : key.printable? = some 'p' ∨ key.printable? = some 'P') :
    editor.visualKey kind target key =
      editor.clearPending.putOnSelections kind target editor.pending.register? := by
  rcases typed with typed | typed <;> obtain ⟨shift, rfl⟩ := Key.eq_of_printable? typed <;>
    cases shift <;> rfl

theorem visualKey_cursor (cursor : key.isCursorKey = true) (unshifted : key.isShiftedNamed = false)
    (ends : (editor.options.hasToken "keymodel" "stopvisual" ||
      editor.options.hasToken "keymodel" "stopsel") = true) :
    editor.visualKey kind target key = (editor.endSelection target).pressAgain key := by
  have moves := Key.moves_of_isCursorKey cursor
  unfold visualKey visualCursorKey? countKey?
  simp only [Key.ne_escape_of_moves moves, Key.isCtrl_of_moves moves, Key.printable?_of_moves moves,
    cursor, unshifted, ends, Bool.false_eq_true, or_self, ↓reduceIte, Option.orElse_eq_orElse,
    Option.getD_none, Option.orElse_some, Option.getD_some]

theorem pressSelect_cursor (cursor : key.isCursorKey = true)
    (unshifted : key.isShiftedNamed = false)
    (ends : (editor.options.hasToken "keymodel" "stopselect" ||
      editor.options.hasToken "keymodel" "stopsel") = true) :
    editor.pressSelect kind target key = (editor.endSelection target).pressAgain key := by
  have moves := Key.moves_of_isCursorKey cursor
  unfold pressSelect selectCursorKey?
  simp only [Key.ne_escape_of_moves moves, Key.isCtrl_of_moves moves, cursor, unshifted, ends,
    Bool.false_eq_true, or_self, ↓reduceIte, Option.getD_some]

theorem normalKey_shifted (shifted : key.isShiftedNamed = true) :
    editor.normalKey key = editor.shiftedKey key .normal := by
  have moves := Key.moves_of_isShiftedNamed shifted
  unfold normalKey countKey? motionStart? commandStart? scrollKey? Key.operator?
  simp only [Key.ne_escape_of_moves moves, Key.isCtrl_of_moves moves, Key.printable?_of_moves moves,
    Key.isPlain_of_isShiftedNamed shifted, shifted, Bool.false_eq_true, ↓reduceIte,
    Option.orElse_eq_orElse, Option.getD_none, Option.orElse_none, Option.map_none, Bool.false_and,
    Bool.or_self, reduceCtorEq]

section

variable (half : (key.isCtrl 'd' || key.isCtrl 'u') = true)

include half

/-- The keys that scroll by half a page are control and one of two characters. -/
theorem half_cases : ∃ c : Char, key.isCtrl c = true ∧ (c = 'd' ∨ c = 'u') := by
  rcases (Bool.or_eq_true _ _).mp half with down | up
  · exact ⟨'d', down, Or.inl rfl⟩
  · exact ⟨'u', up, Or.inr rfl⟩

theorem scrollKey_half : editor.scrollKey? key = some (editor.scrollByHalf (key.isCtrl 'd')) := by
  obtain ⟨c, ctrl, which⟩ := half_cases half
  have forward : key.isCtrl 'f' = false :=
    Key.isCtrl_of_ne ctrl (by rcases which with rfl | rfl <;> decide)
  have backward : key.isCtrl 'b' = false :=
    Key.isCtrl_of_ne ctrl (by rcases which with rfl | rfl <;> decide)
  unfold scrollKey?
  simp only [forward, backward, (Key.printable?_of_isCtrl ctrl).2, half, Bool.false_and,
    Bool.or_self, Bool.false_eq_true, ↓reduceIte]

theorem normalKey_half : editor.normalKey key = editor.scrollByHalf (key.isCtrl 'd') := by
  obtain ⟨c, ctrl, _⟩ := half_cases half
  unfold normalKey countKey? motionStart? commandStart? Key.operator?
  simp only [Key.ne_escape_of_isCtrl ctrl, (Key.printable?_of_isCtrl ctrl).1, scrollKey_half half,
    ↓reduceIte, Option.orElse_eq_orElse, Option.getD_some, Option.orElse_none, Option.map_none,
    reduceCtorEq]

theorem visualKey_half :
    editor.visualKey kind target key = editor.scrollByHalf (key.isCtrl 'd') := by
  obtain ⟨c, ctrl, which⟩ := half_cases half
  have others (other : Char) (differs : 'd'.toLower ≠ other.toLower ∧ 'u'.toLower ≠ other.toLower) :
      key.isCtrl other = false :=
    Key.isCtrl_of_ne ctrl (by rcases which with rfl | rfl; exacts [differs.1, differs.2])
  have still := Bool.or_eq_false_iff.mp (Key.moves_of_isCtrl ctrl)
  unfold visualKey visualCursorKey? countKey? motionStart? commandStart?
  simp only [Key.ne_escape_of_isCtrl ctrl, (Key.printable?_of_isCtrl ctrl).1, scrollKey_half half,
    others 'c' (by decide), others 'v' (by decide), others 'g' (by decide), still.1, still.2,
    Bool.false_eq_true, or_self, ↓reduceIte, Option.orElse_eq_orElse, Option.getD_none,
    Option.getD_some, Option.orElse_none, Option.orElse_some]

end

theorem mode_joinSelection (spaces : Bool)
    (spanned : (editor.spanOf? editor.carets.primary kind false).isSome = true) :
    (editor.joinSelection kind target spaces).1.mode = target.mode := by
  have same := editor.resembles_rememberSelection kind
  unfold joinSelection
  dsimp only
  rw [same.carets, editor.spanOf?_rememberSelection]
  split
  · rename_i none
    rw [none] at spanned
    cases spanned
  · split <;> exact mode_endSelection _ target

/-- A key that cannot be used after it has begun a selection leaves the selection. -/
theorem selects_shiftedKey (starts : editor.options.hasToken "keymodel" "startsel" = true)
    (rejected : (editor.shiftedKey key target).2 = .rejected) :
    (editor.shiftedKey key target).1.mode.selectionKind?.isSome = true := by
  unfold shiftedKey at rejected ⊢
  dsimp only at rejected ⊢
  rw [if_pos starts] at rejected ⊢
  generalize begunEq : (if editor.options.hasToken "selectmode" "key" = true then _ else _) = begun
    at rejected ⊢
  have begins : begun.mode.selectionKind?.isSome = true := by
    rw [← begunEq]
    split <;> rfl
  have responds : Responds False False False {} begun (begun.extendBy key.unshifted) :=
    begun.responds_extendBy key.unshifted
  rw [(responds.refuses rejected).mode id]
  exact begins

/-- A cursor key that cannot be used after it has ended the selection leaves it ended. -/
theorem mode_again (cursor : key.isCursorKey = true) (unshifted : key.isShiftedNamed = false)
    (awaits : editor.pending.awaited = .command)
    (rejected : ((editor.endSelection target).pressAgain key).2 = .rejected) :
    ((editor.endSelection target).pressAgain key).1.mode = target.mode := by
  have responds : Responds False False False {} (editor.endSelection target)
      ((editor.endSelection target).pressAgain key) :=
    editor.responds_again target cursor unshifted awaits
  exact ((responds.refuses rejected).mode id).trans (editor.mode_endSelection target)

theorem selectionKind?_returnTo (target : ReturnMode) : target.mode.selectionKind? = none := by
  cases target <;> rfl

section

variable (turns : editor.turnsFirst key = true)

include turns

theorem selects_pressNormal (normal : editor.mode = .normal)
    (rejected : (editor.pressNormal key).2 = .rejected) :
    (editor.pressNormal key).1.mode.selectionKind?.isSome = true := by
  unfold turnsFirst at turns
  rw [normal] at turns
  unfold pressNormal at rejected ⊢
  cases awaited : editor.pending.awaited with
  | command =>
    rw [awaited] at turns rejected
    obtain ⟨shifted, starts⟩ := (Bool.and_eq_true _ _).mp turns
    dsimp only at rejected ⊢
    rw [normalKey_shifted shifted] at rejected ⊢
    exact selects_shiftedKey starts rejected
  | _ =>
    rw [awaited] at turns
    cases turns

theorem selects_pressTyping (typing : editor.mode.isTyping = true)
    (rejected : (editor.pressTyping key).2 = .rejected) :
    (editor.pressTyping key).1.mode.selectionKind?.isSome = true := by
  have shifts : editor.pending.awaited = .command ∧
      (key.isShiftedNamed && editor.options.hasToken "keymodel" "startsel") = true := by
    unfold turnsFirst at turns
    rcases Mode.insert_or_replace typing with mode | mode <;> rw [mode] at turns <;>
      cases awaited : editor.pending.awaited with
      | command =>
        rw [awaited] at turns
        exact ⟨rfl, turns⟩
      | _ =>
        rw [awaited] at turns
        cases turns
  obtain ⟨awaits, both⟩ := shifts
  obtain ⟨shifted, starts⟩ := (Bool.and_eq_true _ _).mp both
  have broken := editor.stopWaiting.spares_breakTyping.trans (Workspace.spares_commit _)
  have options : (editor.stopWaiting.breakTyping.update (·.commit)).options = editor.options :=
    broken.options
  rw [← options] at starts
  rw [pressTyping_of_moves (Key.moves_of_isShiftedNamed shifted) awaits, if_pos shifted]
    at rejected ⊢
  exact selects_shiftedKey starts rejected

theorem mode_pressVisual (visual : editor.mode = .visual kind target)
    (rejected : (editor.pressVisual kind target key).2 = .rejected) :
    (editor.pressVisual kind target key).1.mode = target.mode := by
  unfold turnsFirst at turns
  rw [visual] at turns
  unfold pressVisual at rejected ⊢
  cases awaited : editor.pending.awaited with
  | command =>
    rw [awaited] at turns rejected
    simp only [Bool.or_eq_true, Bool.and_eq_true, Bool.not_eq_true', decide_eq_true_eq] at turns
    dsimp only at rejected ⊢
    -- A cursor key that ends the selection, lines to join, and text to put in its place.
    rcases turns with ((⟨⟨cursor, unshifted⟩, ends⟩ | joins) | put) | putBefore
    · have ending := (Bool.or_eq_true _ _).mpr ends
      have again : editor.stopWaiting.visualKey kind target key =
          (editor.stopWaiting.endSelection target).pressAgain key :=
        visualKey_cursor cursor unshifted ending
      rw [again] at rejected ⊢
      exact mode_again cursor unshifted rfl rejected
    · obtain ⟨typed, spanned⟩ := (Bool.and_eq_true _ _).mp joins
      rw [visualKey_join (of_decide_eq_true typed)]
      exact mode_joinSelection true spanned
    · rw [visualKey_put (Or.inl put)]
      rfl
    · rw [visualKey_put (Or.inr putBefore)]
      rfl
  | afterG =>
    rw [awaited] at turns
    obtain ⟨typed, spanned⟩ := (Bool.and_eq_true _ _).mp turns
    unfold visualAfterG
    rw [of_decide_eq_true typed]
    exact mode_joinSelection false spanned
  | _ =>
    rw [awaited] at turns
    cases turns

theorem mode_pressSelect (select : editor.mode = .select kind target)
    (awaits : editor.pending.awaited = .command)
    (rejected : (editor.pressSelect kind target key).2 = .rejected) :
    (editor.pressSelect kind target key).1.mode = target.mode := by
  unfold turnsFirst at turns
  rw [select] at turns
  simp only [Bool.and_eq_true, Bool.not_eq_true'] at turns
  obtain ⟨⟨cursor, unshifted⟩, ends⟩ := turns
  rw [pressSelect_cursor cursor unshifted ends] at rejected ⊢
  exact mode_again cursor unshifted awaits rejected

/-- A key that turns to another mode and cannot be used there has begun a selection or ended one. -/
theorem selects_pressInMode (orderly : editor.Orderly)
    (notPending : ∀ operator target, editor.mode ≠ .operatorPending operator target)
    (rejected : (editor.pressInMode key).2 = .rejected) :
    (editor.pressInMode key).1.mode.selectionKind?.isSome =
      !editor.mode.selectionKind?.isSome := by
  have ended {after : Editor} {target : ReturnMode} (mode : after.mode = target.mode) :
      after.mode.selectionKind?.isSome = !true := by
    rw [mode, selectionKind?_returnTo]
    rfl
  unfold pressInMode at rejected ⊢
  cases mode : editor.mode with
  | normal =>
    rw [mode] at rejected
    exact selects_pressNormal turns mode rejected
  | operatorPending operator target => exact absurd mode (notPending operator target)
  | insert | replace =>
    rw [mode] at rejected
    exact selects_pressTyping turns (mode ▸ rfl) rejected
  | visual kind target =>
    rw [mode] at rejected
    exact ended (mode_pressVisual turns mode rejected)
  | select kind target =>
    rw [mode] at rejected
    exact ended (mode_pressSelect turns mode (awaits_select orderly mode) rejected)
  | commandLine =>
    unfold turnsFirst at turns
    rw [mode] at turns
    cases turns

end

/-- The options once a key has stored its count. -/
def optionsStored (editor : Editor) (key : Key) : Options :=
  match editor.storesScroll key, editor.pending.effectiveCount? with
  | true, some count => (editor.options.set .local "scroll" (.number (Int64.ofIntClamp count))).1
  | _, _ => editor.options

theorem options_scrollByHalf (down : Bool) {count : Nat}
    (counted : editor.pending.effectiveCount? = some count) :
    (editor.scrollByHalf down).1.options =
      (editor.options.set .local "scroll" (.number (Int64.ofIntClamp count))).1 := by
  unfold scrollByHalf takePending
  dsimp only
  rw [counted]
  rfl

/-- A count is stored before it turns out that there is nothing to scroll. -/
theorem pressInMode_half (stores : editor.storesScroll key = true) :
    editor.pressInMode key = editor.stopWaiting.scrollByHalf (key.isCtrl 'd') := by
  unfold storesScroll at stores
  unfold pressInMode
  cases mode : editor.mode with
  | normal =>
    cases awaited : editor.pending.awaited with
    | command =>
      rw [mode, awaited] at stores
      obtain ⟨half, _⟩ := (Bool.and_eq_true _ _).mp stores
      unfold pressNormal
      rw [awaited]
      exact normalKey_half half
    | _ =>
      rw [mode, awaited] at stores
      cases stores
  | visual kind target =>
    cases awaited : editor.pending.awaited with
    | command =>
      rw [mode, awaited] at stores
      obtain ⟨half, _⟩ := (Bool.and_eq_true _ _).mp stores
      unfold pressVisual
      rw [awaited]
      exact visualKey_half half
    | _ =>
      rw [mode, awaited] at stores
      cases stores
  | _ =>
    rw [mode] at stores
    cases stores

theorem isSome_of_storesScroll (stores : editor.storesScroll key = true) :
    editor.pending.effectiveCount?.isSome = true := by
  unfold storesScroll at stores
  split at stores
  · exact ((Bool.and_eq_true _ _).mp stores).2
  · exact ((Bool.and_eq_true _ _).mp stores).2
  · cases stores

theorem options_pressInMode (orderly : editor.Orderly)
    (rejected : (editor.pressInMode key).2 = .rejected) :
    (editor.pressInMode key).1.options = editor.optionsStored key := by
  unfold optionsStored
  cases stores : editor.storesScroll key with
  | true =>
    obtain ⟨count, counted⟩ := Option.isSome_iff_exists.mp (isSome_of_storesScroll stores)
    rw [counted, pressInMode_half stores]
    exact options_scrollByHalf _ counted
  | false =>
    have refuses := (editor.responds_pressInMode key orderly).refuses rejected
    exact refuses.options (Bool.eq_false_iff.mp stores)

/-- Carets at rest stay where they are when the editor settles. -/
theorem carets_settle (placed : editor.Placed) (rested : editor.Rested) :
    editor.settle.carets = editor.carets := by
  have fixed : editor.carets.map editor.restCaret = editor.carets :=
    CaretSet.map_of_fixed fun caret member =>
      restCaret_of_rests (placed.offsets caret member) (rested.clamped caret member)
        (placed.anchors caret member)
  rw [carets_settle_eq, fixed]
  exact CaretSet.merge_of_ascending rested.ascending

theorem spares_dropCommand (editor : Editor) : editor.Spares editor.dropCommand.toWorkspace := by
  unfold dropCommand
  dsimp only
  split
  · exact editor.spares_commit
  · exact ⟨rfl, rfl, rfl⟩

/-- A key that cannot be used drops the command, and nothing else happens after that. -/
theorem press_of_rejected (rejected : (editor.press key).2 = .rejected) :
    (editor.pressInMode key).2 = .rejected ∧
      (editor.press key).1 = (editor.pressInMode key).1.dropCommand.settle := by
  rcases editor.press_cases key with ⟨waits, press⟩ | ⟨refused, press⟩ | ⟨used, _, press⟩
  · rw [press, waits] at rejected
    cases rejected
  · exact ⟨refused, congrArg Prod.fst press⟩
  · rw [press] at rejected
    exact absurd rejected used

section

variable (orderly : editor.Orderly) (rejected : (editor.press key).2 = .rejected)

include orderly rejected

/-- A key that cannot be used leaves the text, the registers and the options, but for a count that is
stored, and nothing of the command. -/
theorem spares_press :
    (editor.press key).1.text = editor.text ∧
      (editor.press key).1.registers = editor.registers ∧
      (editor.press key).1.options = editor.optionsStored key ∧
      (editor.press key).1.pending = {} := by
  obtain ⟨refused, press⟩ := press_of_rejected rejected
  have refuses := (editor.responds_pressInMode key orderly).refuses refused
  have options := options_pressInMode orderly refused
  rw [press]
  generalize (editor.pressInMode key).1 = pressed at refuses options ⊢
  have dropped := pressed.spares_dropCommand
  have settled := pressed.dropCommand.standsAs_settle.text
  refine ⟨?_, dropped.registers.trans refuses.registers, dropped.options.trans options,
    pressed.pending_dropCommand⟩
  exact settled.trans ((congrArg Window.text dropped.window).trans refuses.text)

/-- It leaves the carets and the mode, unless it turns to another mode first. -/
theorem stays_press (placed : editor.Placed) (rested : editor.Rested)
    (notPending : ∀ operator target, editor.mode ≠ .operatorPending operator target)
    (still : editor.turnsFirst key = false) :
    (editor.press key).1.carets = editor.carets ∧ (editor.press key).1.mode = editor.mode := by
  obtain ⟨refused, press⟩ := press_of_rejected rejected
  have refuses := (editor.responds_pressInMode key orderly).refuses refused
  have unturned : ¬editor.turnsFirst key = true := Bool.eq_false_iff.mp still
  have carets := refuses.carets unturned
  have mode := refuses.mode unturned
  have text := refuses.text
  rw [press]
  generalize (editor.pressInMode key).1 = pressed at carets mode text ⊢
  have dropped := pressed.resembles_dropCommand fun operator target =>
    mode ▸ notPending operator target
  have stands : editor.StandsAs pressed.dropCommand :=
    ⟨dropped.carets.trans carets, dropped.text.trans text,
      congrArg Mode.caretPastEnd (dropped.mode.trans mode),
      fun visual => dropped.mode.trans mode ▸ visual⟩
  have settled := carets_settle (stands.placed placed) (stands.rested rested)
  exact ⟨settled.trans (dropped.carets.trans carets), dropped.mode.trans mode⟩

/-- Where it turns to another mode first, it has begun a selection or ended one. -/
theorem selects_press (turns : editor.turnsFirst key = true)
    (notPending : ∀ operator target, editor.mode ≠ .operatorPending operator target) :
    (editor.press key).1.mode.selectionKind?.isSome = !editor.mode.selectionKind?.isSome := by
  obtain ⟨refused, press⟩ := press_of_rejected rejected
  have selects := selects_pressInMode turns orderly notPending refused
  rw [press, ← selects]
  generalize (editor.pressInMode key).1 = pressed
  show pressed.dropCommand.mode.selectionKind?.isSome = _
  unfold dropCommand
  dsimp only
  split
  · rename_i pending
    exact (congrArg (fun mode : Mode => mode.selectionKind?.isSome) pending).symm
  · rfl

end

end Editor

end ModalEdit

import ModalEdit.Proofs.Editor.Single
import ModalEdit.Proofs.Motion.Inclusive
import ModalEdit.Proofs.Response.Multiplying
import ModalEdit.Proofs.Session.Typing

/-!
Two ways to operate on what a motion passes over: to select it first, and to give the motion to the
operator. Where the motion takes its target in, both come to the same.
-/

set_option autoImplicit false

namespace ModalEdit

open Number (IsRun runsCount?)

/-- The operator that a motion is waited for. -/
def Mode.operator? : Mode → Option Operator
  | operatorPending operator _ => some operator
  | _ => none

/-- These motions see nothing but the text, the place of the caret and the count. -/
theorem InclusiveKeys.resolve_eq {keys : List Key} {motion : Motion} {first second : Window}
    {caret other : Caret} (inclusive : InclusiveKeys keys motion) (text : first.text = second.text)
    (offset : caret.offset = other.offset) (count? : Option Nat) (context another : MotionContext) :
    motion.resolve first caret count? context = motion.resolve second other count? another := by
  cases inclusive <;>
  · unfold Motion.resolve
    dsimp only
    rw [text, offset]

namespace Editor

variable {editor : Editor} {space : Workspace} {keys : List Key} {motion : Motion} {digits : List Char}
  {kind : SelectionKind} {anchor caret : Nat} {landing : Landing}

/-- The editor that recalls another search, and has something else to report. -/
def recalling (editor : Editor) (lastFind? : Option Find) (message? : Option String) : Editor :=
  { editor with lastFind?, message? }

/-- A character behind an operator that goes on with no count and is not the operator again begins a motion
of two keys, or is a motion. -/
theorem operatorKey_ofChar {c : Char} (operator : Operator) (digit : c.isDigit = false)
    (other : c ≠ operator.doublingKey) :
    editor.operatorKey operator (.ofChar c) = (editor.motionStart? (.ofChar c) (some operator)).getD
      ((Key.ofChar c).motion?.elim editor.reject fun motion =>
        editor.go (.motion motion) (some operator)) := by
  have uncounted : editor.countKey? (.ofChar c) = none := countKey?_of_isDigit digit
  have notDoubled : (Key.ofChar c).printable? ≠ some operator.doublingKey :=
    fun doubled => other (Option.some.inj doubled)
  unfold operatorKey
  rw [if_neg (ofChar_ne_escape c), uncounted, Option.getD_none, if_neg notDoubled]

theorem pressInMode_wordEnd {c : Char} (takes : editor.mode.takesMotions = true)
    (awaits : editor.pending.awaited = .command) (inclusive : InclusiveKeys [.ofChar c] motion) :
    editor.pressInMode (.ofChar c) = editor.go (.motion motion) editor.mode.operator? := by
  rcases Mode.takesMotions_cases takes with
    normal | ⟨kind, target, visual⟩ | ⟨operator, target, waits⟩
  · rw [pressInMode_normalKey awaits _ normal, normal]
    cases inclusive <;> rfl
  · rw [pressInMode_visualKey awaits _ visual, visual]
    cases inclusive <;> rfl
  · have digit : c.isDigit = false := by cases inclusive <;> rfl
    have other : c ≠ operator.doublingKey := by cases inclusive <;> cases operator <;> decide
    rw [pressInMode_operatorKey awaits _ waits, waits, operatorKey_ofChar operator digit other]
    cases inclusive <;> rfl

theorem pressInMode_find {c : Char} {till : Bool} (takes : editor.mode.takesMotions = true)
    (awaits : editor.pending.awaited = .command) (key : c = if till then 't' else 'f') :
    editor.pressInMode (.ofChar c) = editor.await (.findTarget true till) := by
  rcases Mode.takesMotions_cases takes with
    normal | ⟨kind, target, visual⟩ | ⟨operator, target, waits⟩
  · rw [pressInMode_normalKey awaits _ normal]
    cases till <;> cases key <;> rfl
  · rw [pressInMode_visualKey awaits _ visual]
    cases till <;> cases key <;> rfl
  · have digit : c.isDigit = false := by cases till <;> cases key <;> rfl
    have other : c ≠ operator.doublingKey := by
      cases till <;> cases key <;> cases operator <;> decide
    rw [pressInMode_operatorKey awaits _ waits, operatorKey_ofChar operator digit other]
    cases till <;> cases key <;> rfl

/-- The character to search is found, or not, with the search remembered. -/
theorem pressInMode_findTarget {key : Key} {c : Char} {till : Bool}
    (takes : editor.mode.takesMotions = true) (awaits : editor.pending.awaited = .findTarget true till)
    (typed : key.target? = some c) :
    editor.pressInMode key = (editor.stopWaiting.recalling (some ⟨c, true, till⟩) editor.message?).go
      (.motion (.find ⟨c, true, till⟩)) editor.mode.operator? := by
  have found (operator? : Option Operator) : editor.stopWaiting.findKey key true till operator? =
      (editor.stopWaiting.recalling (some ⟨c, true, till⟩) editor.message?).go
        (.motion (.find ⟨c, true, till⟩)) operator? := by
    unfold findKey
    rw [typed]
    rfl
  rcases Mode.takesMotions_cases takes with
    normal | ⟨kind, target, visual⟩ | ⟨operator, target, waits⟩
  · rw [pressInMode_normal _ normal, normal]
    unfold pressNormal
    rw [awaits]
    exact found none
  · rw [pressInMode_visual _ visual, visual]
    unfold pressVisual
    rw [awaits]
    exact found none
  · rw [pressInMode_operator _ waits, waits]
    unfold pressOperator
    rw [awaits]
    exact found (some operator)

/-- The keys of a motion that takes its target in go where it leads, or apply the operator that waits for
it. -/
theorem types_inclusive {holds : Editor → Prop} (inclusive : InclusiveKeys keys motion)
    (takes : editor.mode.takesMotions = true) (awaits : editor.pending.awaited = .command)
    (goes : ∀ find? message?, ∃ after : Editor,
      (editor.recalling find? message?).go (.motion motion) editor.mode.operator? = after.done ∧
        holds after) :
    ∃ after : Editor, editor.Types keys after.settle.quiet ∧ holds after := by
  have searches {key : Key} {c : Char} {till : Bool} (typed : key.target? = some c)
      (find : motion = .find ⟨c, true, till⟩) :
      ∃ after : Editor,
        editor.Types [.ofChar (if till then 't' else 'f'), key] after.settle.quiet ∧ holds after := by
    let waiting := (editor.await (.findTarget true till)).1.quiet
    have rest : editor.stopWaiting = editor := stopWaiting_of_command awaits
    obtain ⟨after, went, held⟩ := goes (some ⟨c, true, till⟩) none
    have begun : editor.press (.ofChar (if till then 't' else 'f')) =
        editor.await (.findTarget true till) :=
      press_of_pending (pressInMode_find takes awaits rfl)
    have found : waiting.pressInMode key = (waiting.stopWaiting.recalling _ none).go _ _ :=
      pressInMode_findTarget takes rfl typed
    have same : waiting.stopWaiting.recalling (some ⟨c, true, till⟩) none =
        editor.stopWaiting.recalling (some ⟨c, true, till⟩) none := rfl
    rw [same, rest, ← find] at found
    exact ⟨after, .cons begun nofun (.cons (press_of_done (found.trans went)) nofun (.nil _)), held⟩
  have words {c : Char} (single : InclusiveKeys [.ofChar c] motion) :
      ∃ after : Editor, editor.Types [.ofChar c] after.settle.quiet ∧ holds after := by
    obtain ⟨after, went, held⟩ := goes editor.lastFind? editor.message?
    have pressed := pressInMode_wordEnd takes awaits single
    exact ⟨after, .cons (press_of_done (pressed.trans went)) nofun (.nil _), held⟩
  cases inclusive with
  | wordEnd => exact words .wordEnd
  | bigWordEnd => exact words .bigWordEnd
  | find typed => exact @searches _ _ false typed rfl
  | till typed => exact @searches _ _ true typed rfl

/-- A key of an operator begins nothing over a selection, but is a command. -/
theorem visualKey_doublingKey (editor : Editor) (kind : SelectionKind) (target : ReturnMode)
    (operator : Operator) :
    editor.visualKey kind target (.ofChar operator.doublingKey) =
      editor.clearPending.selectionCommandOfChar kind target operator.doublingKey
        (max (editor.pending.effectiveCount?.getD 1) 1) editor.pending.register? := by
  have plain : ¬(Key.ofChar operator.doublingKey = .escape ∨
      (Key.ofChar operator.doublingKey).isCtrl 'c' = true) :=
    not_or.mpr ⟨ofChar_ne_escape _, nofun⟩
  have uncounted : editor.countKey? (.ofChar operator.doublingKey) = none := by
    cases operator <;> rfl
  have leavesCursor : editor.visualCursorKey? target (.ofChar operator.doublingKey) = none := by
    cases operator <;> rfl
  have startsNoMotion : editor.motionStart? (.ofChar operator.doublingKey) none = none := by
    cases operator <;> rfl
  have startsNothing : editor.commandStart? (.ofChar operator.doublingKey) = none := by
    cases operator <;> rfl
  have noScroll : editor.scrollKey? (.ofChar operator.doublingKey) = none := by
    cases operator <;> rfl
  have noMotion : (Key.ofChar operator.doublingKey).motion? = none := by
    cases operator <;> rfl
  unfold visualKey
  rw [if_neg plain, uncounted, Option.getD_none, isCtrl_ofChar, if_neg Bool.false_ne_true,
    isCtrl_ofChar, if_neg Bool.false_ne_true, leavesCursor, startsNoMotion, startsNothing, noScroll,
    noMotion]
  rfl

/-- One caret selects text from a place on, in a workspace that operators cannot tell from a given one. -/
structure SelectsTo (editor : Editor) (kind : SelectionKind) (space : Workspace) (anchor caret : Nat) :
    Prop where
  mode : editor.mode = .visual kind .normal
  pending : editor.pending = {}
  alone : editor.carets.size = 1
  anchor : editor.carets.primary.anchor? = some anchor
  caret : editor.window.caret = caret
  alike : editor.toWorkspace.Alike space

namespace SelectsTo

theorem quiet (selects : editor.SelectsTo kind space anchor caret) :
    editor.quiet.SelectsTo kind space anchor caret :=
  ⟨selects.mode, selects.pending, selects.alone, selects.anchor, selects.caret, selects.alike⟩

/-- A selection in the text stays where it is. -/
theorem settle (selects : editor.SelectsTo kind space anchor caret)
    (inside : anchor ≤ space.text.length) (rests : space.text.clampCaret caret false = caret) :
    editor.settle.SelectsTo kind space anchor caret := by
  have text : editor.text = space.text := selects.alike.text
  have inText : caret ≤ space.text.length := rests ▸ Document.clampCaret_le _ _ _
  refine ⟨selects.mode, selects.pending, size_settle selects.alone, ?_, ?_,
    editor.alike_settle.trans selects.alike⟩
  · rw [editor.standsAs_settle.carets, carets_clampCarets selects.alone, text]
    dsimp only [CaretSet.single]
    rw [selects.anchor, Option.map_some, Nat.min_eq_left inside]
  · rw [caret_settle selects.alone, text, selects.mode, selects.caret, Nat.min_eq_left inText]
    exact rests

/-- A key of an operator. -/
theorem pressInMode_operator (selects : editor.SelectsTo kind space anchor caret)
    (operator : Operator) :
    editor.pressInMode (.ofChar operator.doublingKey) =
      editor.operateOnSelections operator kind .normal none 1 false := by
  have awaits : editor.pending.awaited = .command := congrArg Pending.awaited selects.pending
  have nothingTyped : editor.clearPending = editor := by
    unfold clearPending
    rw [← selects.pending]
  rw [pressInMode_visualKey awaits _ selects.mode, visualKey_doublingKey, nothingTyped,
    selects.pending]
  cases operator <;> rfl

end SelectsTo

/-- A selection begins at the caret. -/
theorem press_visual (normal : editor.mode = .normal) (clear : editor.pending = {})
    (alone : editor.carets.size = 1)
    (rests : editor.text.clampCaret editor.window.caret false = editor.window.caret) :
    ∃ after : Editor, editor.press (.ofChar 'v') = after.done ∧
      after.SelectsTo .character editor.toWorkspace editor.window.caret editor.window.caret := by
  have awaits : editor.pending.awaited = .command := congrArg Pending.awaited clear
  have inside : editor.window.caret ≤ editor.text.length := rests ▸ Document.clampCaret_le _ _ _
  have begun : editor.pressInMode (.ofChar 'v') =
      (editor.clearPending.enterVisual .character .normal).done :=
    pressInMode_normalKey awaits _ normal
  have selects : (editor.clearPending.enterVisual .character .normal).SelectsTo .character
      editor.toWorkspace editor.window.caret editor.window.caret :=
    ⟨rfl, rfl, (CaretSet.size_map _ _).trans alone, rfl, rfl, rfl⟩
  exact ⟨_, press_of_done begun, selects.settle inside rests⟩

/-- A motion that takes its target in extends a selection to it. -/
theorem SelectsTo.types (selects : editor.SelectsTo kind space anchor caret)
    (inside : anchor ≤ space.text.length) (run : IsRun digits) (inclusive : InclusiveKeys keys motion)
    (lands : motion.resolve space.window (.ofOffset caret) (runsCount? [digits]) {} = some landing) :
    ∃ after : Editor, editor.quiet.Types (Key.typing digits ++ keys) after ∧
      after.SelectsTo kind space anchor landing.offset := by
  have text : editor.text = space.text := selects.alike.text
  have takes : editor.mode.takesMotions = true := by rw [selects.mode]; rfl
  have awaits : editor.pending.awaited = .command := congrArg Pending.awaited selects.pending
  let counted := (editor.withPending { count? := runsCount? [digits] }).quiet
  have typed : editor.quiet.Types (Key.typing digits) counted := by
    have taken := takesIn_digits takes awaits run.digit (Or.inl run.nonzero)
    rw [selects.pending, Pending.pushDigits_fresh rfl] at taken
    exact taken.types_quiet
  have goes (find? : Option Find) (message? : Option String) : ∃ after : Editor,
      (counted.recalling find? message?).go (.motion motion) counted.mode.operator? = after.done ∧
        after.SelectsTo kind space anchor landing.offset := by
    have mode : counted.mode.operator? = none := congrArg Mode.operator? selects.mode
    let going := (counted.recalling find? message?).clearPending
    have reaches : going.target? going.carets.primary (.motion motion) (runsCount? [digits])
        (going.motionContext false) = some landing := by
      rw [← lands]
      exact inclusive.resolve_eq text selects.caret _ _ _
    rw [mode]
    exact ⟨_, @moveCarets_single going selects.alone _ _ _ reaches,
      ⟨selects.mode, rfl, rfl, selects.anchor, rfl, selects.alike⟩⟩
  obtain ⟨after, moved, selectsAfter⟩ :=
    @types_inclusive counted _ _ _ inclusive takes rfl goes
  obtain ⟨-, -, before⟩ := inclusive.lands lands
  have rests : space.text.clampCaret landing.offset false = landing.offset :=
    Document.clampCaret_of_lt_lineEnd _ before
  exact ⟨_, typed.append moved, (selectsAfter.settle inside rests).quiet⟩

/-- Characters go without places for more text. -/
theorem blockCarets_chars (space : Workspace) (operator : Operator) (start stop : Nat)
    (register? : Option Char) (steps : Nat) :
    (space.applyOperator operator (.chars start stop) register? steps).2.blockCarets = [] := by
  cases operator <;> rfl

/-- A key of an operator on selected characters. -/
theorem SelectsTo.press (selects : editor.SelectsTo .character space anchor caret) (operator : Operator)
    (notExclusive : editor.options.text "selection" ≠ "exclusive") (upwards : anchor ≤ caret)
    (inside : caret < space.text.length) :
    let landed := space.applyOperator operator (.chars anchor (caret + 1)) none 1
    ∃ after : Editor, editor.press (.ofChar operator.doublingKey) = after.settle.done ∧
      after.EndsAs landed.1 landed.2.caret (if operator = .change then .insert else .normal) := by
  intro landed
  have text : editor.text = space.text := selects.alike.text
  have spans : editor.spanOf? editor.carets.primary .character false =
      some (.chars anchor (caret + 1)) := by
    have inclusive : editor.selectsExclusively = false := by
      unfold selectsExclusively
      rw [selects.mode, beq_eq_false_iff_ne.mpr notExclusive]
      rfl
    have offset : editor.carets.primary.offset = caret := selects.caret
    have length : editor.window.text.length = space.text.length := congrArg List.length text
    unfold spanOf? selectionSpan?
    rw [inclusive, selects.anchor, Option.bind_some, offset]
    dsimp only
    rw [length, if_neg Bool.false_ne_true, Nat.min_eq_left upwards, Nat.max_eq_right upwards,
      Nat.min_eq_left inside, if_neg (by omega)]
  have starts : (Span.chars anchor (caret + 1)).StartsIn editor.text := by
    rw [text]
    exact Nat.le_trans upwards (Nat.le_of_lt inside)
  obtain ⟨after, operated, ends⟩ := endsAs_operateOnSelections selects.alone .normal none 1 starts
    spans (blockCarets_chars _ operator _ _ _ _)
  have applied := selects.alike.applyOperator operator (.chars anchor (caret + 1)) none 1
  have left := selects.alike.applied operator (.chars anchor (caret + 1)) none 1 fun _ => nofun
  exact ⟨after, press_of_done ((selects.pressInMode_operator operator).trans operated),
    ends.trans applied (congrArg Applied.caret left)⟩

/-- An operator with a motion that takes its target in. -/
theorem types_operator (normal : editor.mode = .normal) (clear : editor.pending = {})
    (alone : editor.carets.size = 1) (inText : editor.window.caret ≤ editor.text.length)
    (run : IsRun digits) (inclusive : InclusiveKeys keys motion)
    (lands : motion.resolve editor.window (.ofOffset editor.window.caret) (runsCount? [digits]) {} =
      some landing) (operator : Operator) :
    let span := Span.chars editor.window.caret (landing.offset + 1)
    let landed := editor.applyOperator operator span none 1
    ∃ after : Editor,
      editor.Types (Key.typing (operator.keys.toList ++ digits) ++ keys) after.settle.quiet ∧
        after.EndsAs landed.1 landed.2.caret (if operator = .change then .insert else .normal) := by
  intro span landed
  have awaits : editor.pending.awaited = .command := congrArg Pending.awaited clear
  let waiting := (editor.startOperator operator).1.withPending { count? := runsCount? [digits] }
  have typed : editor.Types (Key.typing (operator.keys.toList ++ digits)) waiting.quiet := by
    have taken := takesIn_operator_digits operator normal awaits run
    rw [clear] at taken
    refine taken.types ?_
    cases operator <;> exact List.cons_ne_nil _ _
  obtain ⟨wise, behind, before⟩ := inclusive.lands lands
  have before : landing.offset < editor.text.lineEnd (editor.text.lineOf landing.offset) := before
  have behind : editor.window.caret < landing.offset :=
    Nat.lt_of_le_of_lt (Nat.le_of_eq (Nat.min_eq_left inText).symm) behind
  have spans : operatorSpan? editor.text editor.window.caret landing = some span := by
    unfold operatorSpan?
    dsimp only
    rw [wise, Nat.min_eq_left (Nat.le_of_lt behind), Nat.max_eq_right (Nat.le_of_lt behind)]
    dsimp only
    rw [if_pos before, if_pos (by omega)]
  have goes (find? : Option Find) (message? : Option String) : ∃ after : Editor,
      (waiting.quiet.recalling find? message?).go (.motion motion) waiting.quiet.mode.operator? =
          after.done ∧
        after.EndsAs landed.1 landed.2.caret (if operator = .change then .insert else .normal) := by
    let going := (waiting.quiet.recalling find? message?).clearPending
    have reaches : going.target? going.carets.primary (.motion motion) (runsCount? [digits])
        (going.motionContext true) = some landing := by
      have offset : going.carets.primary.offset = (Caret.ofOffset editor.window.caret).offset := rfl
      have text : going.window.text = editor.window.text := rfl
      rw [← lands]
      exact inclusive.resolve_eq text offset _ _ _
    have spansFrom : going.spanAt? going.carets.primary operator (.motion motion)
        (runsCount? [digits]) (going.motionContext true) = some span := by
      have word : changeWordTarget? going.text going.carets.primary operator (.motion motion)
          (runsCount? [digits]) = none := by
        cases inclusive <;> rfl
      unfold spanAt?
      dsimp only
      rw [word, reaches]
      show (operatorSpan? editor.text editor.window.caret landing <|> _) = some span
      rw [spans]
      rfl
    exact @endsAs_operate going alone operator _ _ span none inText spansFrom
  have takes : waiting.quiet.mode.takesMotions = true := rfl
  obtain ⟨after, applied, ends⟩ := types_inclusive inclusive takes rfl goes
  exact ⟨after, typed.append applied, ends⟩

end Editor

namespace Session

open Editor

/-- Selecting up to the target of a motion and then operating on the selection leaves what the operator
leaves that is given the motion: the same text and registers, and the caret at the same place in the
same mode. -/
theorem select_then_operate {session : Session} {digits : List Char} {keys : List Key}
    {motion : Motion} (resting : session.Resting)
    (notExclusive : session.editor.options.text "selection" ≠ "exclusive") (run : IsRun digits)
    (inclusive : InclusiveKeys keys motion)
    (resolves : (motion.resolve session.editor.window session.editor.carets.primary
      (runsCount? [digits]) (session.editor.motionContext true)).isSome = true)
    (operator : Operator) (nesting : Nat) :
    let counted := Key.typing digits ++ keys
    ∃ selected operated answers answersToo,
      session.feedAll nesting (.ofChar 'v' :: (counted ++ [.ofChar operator.doublingKey])) =
          some (selected, answers) ∧
      session.feedAll nesting (Key.typing operator.keys.toList ++ counted) =
          some (operated, answersToo) ∧
      selected.text = operated.text ∧
      selected.editor.registers = operated.editor.registers ∧
      selected.editor.window.caret = operated.editor.window.caret ∧
      selected.editor.mode = operated.editor.mode := by
  intro counted
  have inside : session.editor.window.caret ≤ session.text.length :=
    resting.rests ▸ Document.clampCaret_le _ _ _
  obtain ⟨landing, resolved⟩ := Option.isSome_iff_exists.mp resolves
  have offset : (Caret.ofOffset session.editor.window.caret).offset =
      session.editor.carets.primary.offset := rfl
  have lands : motion.resolve session.editor.window (.ofOffset session.editor.window.caret)
      (runsCount? [digits]) {} = some landing :=
    (inclusive.resolve_eq rfl offset _ _ _).trans resolved
  obtain ⟨-, behind, before⟩ := inclusive.lands lands
  have behind : session.editor.window.caret < landing.offset :=
    Nat.lt_of_le_of_lt (Nat.le_of_eq (Nat.min_eq_left inside).symm) behind
  have inText : landing.offset < session.text.length :=
    Nat.lt_of_lt_of_le before (Document.lineEnd_le _ _)
  obtain ⟨begun, started, selects⟩ :=
    press_visual resting.mode resting.pending resting.alone resting.rests
  obtain ⟨extended, moved, selects⟩ := selects.types inside run inclusive lands
  have options : extended.options = session.editor.options :=
    (congrArg Workspace.options selects.alike :)
  obtain ⟨after, pressed, ends⟩ :=
    selects.press operator (options ▸ notExclusive) (Nat.le_of_lt behind) inText
  have selecting : session.editor.Types
      (.ofChar 'v' :: (counted ++ [.ofChar operator.doublingKey])) after.settle.quiet :=
    .cons started nofun (moved.append (.cons pressed nofun (.nil _)))
  obtain ⟨other, operating, endsToo⟩ := types_operator resting.mode resting.pending resting.alone
    inside run inclusive lands operator
  obtain ⟨selected, answers, fed, -, selectedEditor, -⟩ :=
    selecting nesting session resting.toUnmapped rfl
  obtain ⟨operated, answersToo, fedToo, -, operatedEditor, -⟩ :=
    operating nesting session resting.toUnmapped rfl
  have keysJoined : Key.typing (operator.keys.toList ++ digits) ++ keys =
      Key.typing operator.keys.toList ++ counted := by
    unfold Key.typing counted
    rw [List.map_append, List.append_assoc]
    rfl
  rw [keysJoined] at fedToo
  obtain ⟨text, registers, caret, mode⟩ := ends.settle endsToo rfl
  refine ⟨selected, operated, answers, answersToo, fed, fedToo, ?_⟩
  unfold Session.text
  rw [selectedEditor, operatedEditor]
  exact ⟨text, registers, caret, mode⟩

/-- Up to the end of the second word, which is on the next line. -/
theorem select_then_operate_delete :
    let session := ofWindow { text := ['a', 'b', ' ', 'c', '\n', 'd'], carets := .single (.ofOffset 1) }
    ∃ selected operated answers answersToo,
      session.feedAll 1 (Key.typing ['v', '2', 'e', 'd']) = some (selected, answers) ∧
      session.feedAll 1 (Key.typing ['d', '2', 'e']) = some (operated, answersToo) ∧
      selected.text = ['a'] ∧ operated.text = ['a'] ∧
      selected.editor.registers = operated.editor.registers ∧
      selected.editor.window.caret = operated.editor.window.caret ∧
      selected.editor.mode = operated.editor.mode := by
  intro session
  have resting : session.Resting := ⟨⟨rfl, rfl⟩, rfl, rfl, rfl, by decide⟩
  have deleted : (session.feedAll 1 (Key.typing ['d', '2', 'e'])).all (fun answer =>
      answer.1.text = ['a']) = true := by
    decide +kernel
  obtain ⟨selected, operated, answers, answersToo, fed, fedToo, text, same⟩ :=
    @select_then_operate session ['2'] [.ofChar 'e'] (.wordEnd .small) resting (by decide +kernel)
      (by decide) .wordEnd (by decide +kernel) .delete 1
  have fedToo : session.feedAll 1 (Key.typing ['d', '2', 'e']) = some (operated, answersToo) := fedToo
  rw [fedToo] at deleted
  have gone : operated.text = ['a'] := of_decide_eq_true deleted
  exact ⟨selected, operated, answers, answersToo, fed, fedToo, text.trans gone, gone, same⟩

end Session

end ModalEdit

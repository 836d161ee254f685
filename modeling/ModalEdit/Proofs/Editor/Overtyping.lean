import ModalEdit.Proofs.Editor.Single
import ModalEdit.Proofs.Response.Counts

/-!
Typing over text, and taking back what has been typed. For each character typed the caret remembers the one
that it took the place of, the latest first, so that taking back restores the text as it was before.
-/

set_option autoImplicit false

namespace ModalEdit

namespace Document

/-- What is left of the text behind a caret once a character has been typed over it. Line breaks are typed in
between, and are not typed over. -/
def underTyped (rest : Document) (c : Char) : Document :=
  if c = '\n' ∨ rest.head? = some '\n' then rest else rest.tail

/-- What is left of it once a text has been typed. -/
def behindTyped (rest : Document) (typed : List Char) : Document :=
  typed.foldl underTyped rest

/-- A text with another one typed over it from the start. -/
def overlay (rest : Document) (typed : List Char) : Document :=
  typed ++ rest.behindTyped typed

/-- The character that a typed one takes the place of. -/
def typedOver? (rest : Document) (c : Char) : Option Char :=
  rest.head?.filter fun old => old != '\n' && c != '\n'

/-- The characters that typed ones have taken the place of, the latest first. -/
def typedOver (rest : Document) : List Char → List (Option Char)
  | [] => []
  | c :: typed => typedOver (rest.underTyped c) typed ++ [rest.typedOver? c]

theorem typedOver_concat (rest : Document) (typed : List Char) (c : Char) :
    rest.typedOver (typed ++ [c]) = (rest.behindTyped typed).typedOver? c :: rest.typedOver typed := by
  induction typed generalizing rest with
  | nil => rfl
  | cons first typed ih => exact congrArg (· ++ [rest.typedOver? first]) (ih (rest.underTyped first))

theorem behindTyped_concat (rest : Document) (typed : List Char) (c : Char) :
    rest.behindTyped (typed ++ [c]) = (rest.behindTyped typed).underTyped c :=
  List.foldl_append

theorem length_append_concat (front : Document) (typed : List Char) (c : Char) :
    (front ++ (typed ++ [c])).length = (front ++ typed).length + 1 := by
  rw [← List.append_assoc, List.length_append]
  rfl

/-- Either a character takes the place of another one, or it is typed in between. -/
theorem typedOver?_cases (rest : Document) (c : Char) :
    (∃ old, rest.typedOver? c = some old ∧ rest = old :: rest.underTyped c) ∨
      rest.typedOver? c = none ∧ rest = rest.underTyped c := by
  cases rest with
  | nil => exact .inr ⟨rfl, (ite_self _).symm⟩
  | cons old rest =>
    have replaces : (old != '\n' && c != '\n') = true ↔ ¬(c = '\n' ∨ some old = some '\n') := by
      simp only [Bool.and_eq_true, bne_iff_ne, Option.some_inj, not_or, ne_eq, and_comm]
    by_cases between : c = '\n' ∨ some old = some '\n'
    · exact .inr ⟨if_neg (mt replaces.mp (not_not_intro between)), (if_pos between).symm⟩
    · exact .inl ⟨old, if_pos (replaces.mpr between), congrArg (old :: ·) (if_neg between).symm⟩

/-- A character is typed over the text behind the caret. -/
theorem replace_typedOver (before rest : Document) (c : Char) :
    (before ++ rest).replace before.length
        (if (rest.typedOver? c).isSome then before.length + 1 else before.length) [c] =
      before ++ [c] ++ rest.underTyped c := by
  rcases rest.typedOver?_cases c with ⟨old, replaces, split⟩ | ⟨between, same⟩
  · have behind : rest.drop 1 = rest.underTyped c := congrArg (List.drop 1) split
    rw [replaces, Option.isSome_some, if_pos rfl, replace_append, behind]
  · rw [between, Option.isSome_none, if_neg Bool.false_ne_true, ← same]
    exact replace_append before rest 0 [c]

/-- The character typed last goes, and the one that it took the place of comes back. -/
theorem replace_takenBack (before rest : Document) (c : Char) :
    (before ++ [c] ++ rest.underTyped c).replace before.length (before.length + 1)
        (rest.typedOver? c).toList = before ++ rest := by
  rw [List.append_assoc, replace_append]
  rw [List.append_assoc before]
  rcases rest.typedOver?_cases c with ⟨old, replaces, split⟩ | ⟨between, same⟩
  · rw [replaces]
    exact congrArg (before ++ ·) split.symm
  · rw [between]
    exact congrArg (before ++ ·) same.symm

end Document

/-- The keys of someone who types text and corrects it. -/
inductive TypingKey where
  | char (c : Char)
  | enter
  | tab
  | backspace
deriving DecidableEq

namespace TypingKey

def toKey : TypingKey → Key
  | char c => .ofChar c
  | enter => .enter
  | tab => .named .tab
  | backspace => .named .backspace

/-- The character that is typed. -/
def char? : TypingKey → Option Char
  | char c => some c
  | enter => some '\n'
  | tab => some '\t'
  | backspace => none

/-- The text that is left once a key has typed a character or taken one back. -/
def correct (typed : List Char) (key : TypingKey) : List Char :=
  key.char?.elim typed.dropLast fun c => typed ++ [c]

/-- The text that is left of all that has been typed. -/
def net (keys : List TypingKey) : List Char :=
  keys.foldl correct []

/-- Whether at no time more characters have been taken back than typed, with so many there at first. -/
def Balanced (typed : Nat) (keys : List TypingKey) : Prop :=
  ∀ count ≤ keys.length,
    (keys.take count).count backspace ≤ typed + (keys.take count).countP (· ≠ backspace)

instance (typed : Nat) (keys : List TypingKey) : Decidable (Balanced typed keys) :=
  inferInstanceAs (Decidable (∀ count ≤ keys.length, _))

variable {key : TypingKey} {keys : List TypingKey} {typed : List Char}

theorem Balanced.ne_nil (balanced : Balanced typed.length (backspace :: keys)) : typed ≠ [] := by
  rintro rfl
  have first := balanced 1 (Nat.le_add_left 1 _)
  simp at first

theorem Balanced.tail (balanced : Balanced typed.length (key :: keys)) :
    Balanced (correct typed key).length keys := by
  intro count within
  have later := balanced (count + 1) (Nat.succ_le_succ within)
  rw [List.take_succ_cons, List.count_cons, List.countP_cons] at later
  cases key <;> simp [correct, char?] at later ⊢ <;> omega

end TypingKey

theorem Workspace.options_begin (space : Workspace) : space.begin.options = space.options := by
  unfold begin
  split <;> rfl

namespace Editor

variable {editor : Editor} {front rest : Document} {options : Options} {typed : List Char} {c : Char}

/-- An editor with one caret that types over a text, and still knows what it has typed over. -/
structure Overtypes (editor : Editor) (front rest : Document) (options : Options) (typed : List Char) :
    Prop where
  mode : editor.mode = .replace
  awaits : editor.pending.awaited = .command
  options : editor.options = options
  alone : editor.carets.size = 1
  text : editor.text = front ++ typed ++ rest.behindTyped typed
  caret : editor.window.caret = (front ++ typed).length
  /-- There is a stack for the caret once something has been typed. -/
  single : editor.typing.replaced.length ≤ 1
  replaced : editor.typing.replaced.headD [] = rest.typedOver typed

theorem Overtypes.settle (types : editor.Overtypes front rest options typed) :
    editor.settle.Overtypes front rest options typed := by
  refine ⟨types.mode, types.awaits, types.options, size_settle types.alone,
    editor.text_settle.trans types.text, ?_, types.single, types.replaced⟩
  have inside : editor.window.caret ≤ editor.text.length := by
    rw [types.caret, types.text]
    exact (List.prefix_append _ _).length_le
  rw [caret_settle types.alone, types.mode, Nat.min_eq_left inside]
  exact (Document.clampCaret_pastEnd inside).trans types.caret

theorem Overtypes.offsetAt (types : editor.Overtypes front rest options typed) :
    editor.carets.offsetAt 0 = (front ++ typed).length :=
  (CaretSet.offsetAt_of_get? (get?_single types.alone)).trans types.caret

/-- The text that has been typed has become another one, with the caret behind it. -/
theorem Overtypes.edited (types : editor.Overtypes front rest options typed) {now : List Char}
    {start stop : Nat} {inserted : List Char} (typing : Typing)
    (text : editor.text.replace start stop inserted = front ++ now ++ rest.behindTyped now)
    (replaced : typing.replaced = [rest.typedOver now]) :
    Overtypes { editor with
      toWorkspace := (editor.replace start stop inserted).moveCaret 0 (front ++ now).length
      typing } front rest options now := by
  have alone : (editor.replace start stop inserted).carets.size = 1 :=
    (CaretSet.size_map _ _).trans types.alone
  refine ⟨types.mode, types.awaits, types.options, (CaretSet.size_modify _ _ _).trans alone, text,
    Workspace.moveCaret_single alone _, ?_, ?_⟩
  · exact Nat.le_of_eq (congrArg List.length replaced)
  · exact congrArg (List.headD · []) replaced

theorem Overtypes.typeAt (types : editor.Overtypes front rest options typed)
    (stack : editor.typing.replaced = [rest.typedOver typed]) (c : Char) :
    (Editor.typeAt [c] editor 0).Overtypes front rest options (typed ++ [c]) := by
  have under : editor.text[(front ++ typed).length]? = (rest.behindTyped typed).head? := by
    rw [types.text, List.getElem?_append_right (Nat.le_refl _), Nat.sub_self, List.head?_eq_getElem?]
  have replaced : (pushReplaced editor.typing 0 ((rest.behindTyped typed).typedOver? c)).replaced =
      [rest.typedOver (typed ++ [c])] := by
    unfold pushReplaced
    rw [stack, Document.typedOver_concat]
    rfl
  have text := Document.replace_typedOver (front ++ typed) (rest.behindTyped typed) c
  rw [← types.text, ← Document.behindTyped_concat, List.append_assoc front] at text
  have typed := types.edited _ text replaced
  unfold Editor.typeAt
  dsimp only
  rw [if_pos types.mode, types.offsetAt, List.foldl_cons, List.foldl_nil]
  unfold typeOver
  dsimp only
  rw [under]
  rwa [Document.length_append_concat] at typed

/-- Other notes on what is typed do not matter. -/
theorem Overtypes.retype (types : editor.Overtypes front rest options typed) {typing : Typing}
    (single : typing.replaced.length ≤ 1) (replaced : typing.replaced.headD [] = rest.typedOver typed) :
    Overtypes { editor with typing } front rest options typed :=
  ⟨types.mode, types.awaits, types.options, types.alone, types.text, types.caret, single, replaced⟩

theorem Overtypes.begin (types : editor.Overtypes front rest options typed) :
    (editor.update (·.begin)).Overtypes front rest options typed := by
  have options := editor.options_begin.trans types.options
  have alone := editor.size_begin.trans types.alone
  have text := editor.text_begin.trans types.text
  have caret := (congrArg Window.caret editor.window_begin).trans types.caret
  exact ⟨types.mode, types.awaits, options, alone, text, caret, types.single, types.replaced⟩

theorem Overtypes.insertText (types : editor.Overtypes front rest options typed) (c : Char) :
    (editor.insertText [c]).Overtypes front rest options (typed ++ [c]) := by
  have begun := types.begin
  -- The caret gets its stack with the first character, if there is none yet.
  have stack : editor.typing.replaced ++ List.replicate (1 - editor.typing.replaced.length) [] =
      [rest.typedOver typed] := by
    rw [← types.replaced]
    have single := types.single
    generalize editor.typing.replaced = replaced at single ⊢
    match replaced with
    | [] => rfl
    | [stack] => rfl
  have size : (editor.update (·.begin)).carets.size = 1 := begun.alone
  unfold Editor.insertText
  dsimp only
  rw [size, show (editor.update (·.begin)).typing.replaced = editor.typing.replaced from rfl, stack]
  have ready : Overtypes { editor.update (·.begin) with
      typing := { editor.typing with replaced := [rest.typedOver typed] } } front rest options typed :=
    begun.retype (Nat.le_refl 1) rfl
  rw [descending_single ready.alone, List.foldl_cons, List.foldl_nil]
  have next := ready.typeAt rfl c
  exact next.retype next.single next.replaced

theorem Overtypes.backspaceAt (types : editor.Overtypes front rest options (typed ++ [c])) (any : Bool) :
    ∃ after : Editor, Editor.backspaceAt (editor, any) 0 = (after, true) ∧
      after.Overtypes front rest options typed := by
  -- Something has been typed, so there is a stack, with what the last character took the place of on top.
  have stack : editor.typing.replaced = [rest.typedOver (typed ++ [c])] := by
    have single := types.single
    have replaced := types.replaced
    rw [Document.typedOver_concat] at replaced ⊢
    generalize editor.typing.replaced = all at single replaced ⊢
    match all with
    | [] => cases replaced
    | [stack] => exact congrArg (fun stack => [stack]) replaced
  have text := Document.replace_takenBack (front ++ typed) (rest.behindTyped typed) c
  rw [List.append_assoc front, ← Document.behindTyped_concat, ← types.text] at text
  refine ⟨_, ?_, types.edited
    { editor.typing with replaced := editor.typing.replaced.modify 0 List.tail } text ?_⟩
  · unfold Editor.backspaceAt
    dsimp only
    rw [types.offsetAt, Document.length_append_concat, if_neg (Nat.succ_ne_zero _), if_pos types.mode, stack,
      Document.typedOver_concat]
    cases (rest.behindTyped typed).typedOver? c with
    | none => rfl
    | some old => rfl
  · dsimp only
    rw [stack, Document.typedOver_concat]
    rfl

theorem Overtypes.backspace (types : editor.Overtypes front rest options (typed ++ [c])) :
    ∃ after : Editor, editor.backspace = after.done ∧ after.Overtypes front rest options typed := by
  have begun := types.begin
  obtain ⟨after, back, left⟩ := begun.backspaceAt false
  unfold Editor.backspace
  dsimp only
  rw [descending_single begun.alone, List.foldl_cons, List.foldl_nil, back]
  exact ⟨_, rfl, left.retype left.single left.replaced⟩

/-- Each key types its character or takes one back. -/
theorem Overtypes.takes (types : editor.Overtypes front rest options typed) (key : TypingKey)
    (tabs : key = .tab → options.flag "expandtab" = false) (enough : key = .backspace → typed ≠ []) :
    ∃ after : Editor, editor.pressTyping key.toKey = after.done ∧
      after.Overtypes front rest options (key.correct typed) := by
  have notPrompt : editor.mode ≠ .commandLine := types.mode ▸ nofun
  have typesText (c : Char) : editor.typeText [c] = (editor.insertText [c]).done := if_neg notPrompt
  unfold pressTyping
  rw [types.awaits, stopWaiting_of_command types.awaits]
  cases key with
  | char c =>
    refine ⟨_, ?_, types.insertText c⟩
    rw [← typesText]
    rfl
  | enter =>
    refine ⟨_, ?_, types.insertText '\n'⟩
    rw [← typesText]
    rfl
  | tab =>
    have tabText : editor.tabText = ['\t'] := by
      unfold Editor.tabText
      rw [types.options, tabs rfl]
      rfl
    refine ⟨_, ?_, types.insertText '\t'⟩
    rw [← typesText, ← tabText]
    rfl
  | backspace =>
    have split := List.dropLast_concat_getLast (enough rfl)
    rw [← split] at types
    exact types.backspace

theorem Overtypes.press (types : editor.Overtypes front rest options typed) (key : TypingKey)
    (tabs : key = .tab → options.flag "expandtab" = false) (enough : key = .backspace → typed ≠ []) :
    (editor.press key.toKey).1.Overtypes front rest options (key.correct typed) := by
  have typing : editor.mode.isTyping = true := types.mode ▸ rfl
  obtain ⟨after, taken, types⟩ := types.takes key tabs enough
  rw [press_of_done ((pressInMode_typing _ typing).trans taken)]
  exact types.settle

theorem Overtypes.pressAll {keys : List TypingKey} (types : editor.Overtypes front rest options typed)
    (tabs : .tab ∈ keys → options.flag "expandtab" = false)
    (balanced : TypingKey.Balanced typed.length keys) :
    (editor.pressAll (keys.map TypingKey.toKey)).Overtypes front rest options
      (keys.foldl TypingKey.correct typed) := by
  induction keys generalizing editor typed with
  | nil => exact types
  | cons key keys ih =>
    refine ih (types.press key ?_ ?_) (fun member => tabs (List.mem_cons_of_mem _ member)) balanced.tail
    · rintro rfl
      exact tabs List.mem_cons_self
    · rintro rfl
      exact balanced.ne_nil

/-- Typing over begins where the caret is. -/
theorem overtypes_press (normal : editor.mode = .normal) (clear : editor.pending = {})
    (alone : editor.carets.size = 1) (inside : editor.window.caret ≤ editor.text.length) :
    (editor.press (.ofChar 'R')).1.Overtypes (editor.text.take editor.window.caret)
      (editor.text.drop editor.window.caret) editor.options [] := by
  have awaits : editor.pending.awaited = .command := congrArg Pending.awaited clear
  have begun : editor.pressInMode (.ofChar 'R') =
      ((editor.clearPending.startTyping .replace (max (editor.pending.effectiveCount?.getD 1) 1)
        false).update (·.begin)).done :=
    pressInMode_normalKey awaits _ normal
  have started (times : Nat) : (editor.clearPending.startTyping .replace times false).Overtypes
      (editor.text.take editor.window.caret) (editor.text.drop editor.window.caret) editor.options [] := by
    refine ⟨rfl, rfl, rfl, alone, ?_, ?_, Nat.zero_le 1, rfl⟩
    · rw [List.append_nil]
      exact (List.take_append_drop editor.window.caret editor.text).symm
    · rw [List.append_nil, List.length_take_of_le inside]
      rfl
  rw [press_of_done begun]
  exact (started _).begin.settle

/-- What is typed over text and corrected comes to typing over it what is left in the end. If nothing is left,
the text and the caret are as they were. -/
theorem overtyping_corrected (editor : Editor) (keys : List TypingKey) (normal : editor.mode = .normal)
    (clear : editor.pending = {}) (alone : editor.carets.size = 1)
    (inside : editor.window.caret ≤ editor.text.length)
    (tabs : .tab ∈ keys → editor.options.flag "expandtab" = false) (balanced : TypingKey.Balanced 0 keys) :
    let start := editor.window.caret
    let typed := editor.pressAll (.ofChar 'R' :: keys.map TypingKey.toKey)
    let net := TypingKey.net keys
    typed.text = editor.text.take start ++ Document.overlay (editor.text.drop start) net ∧
      typed.window.caret = start + net.length ∧
      (net = [] → typed.text = editor.text ∧ typed.window.caret = start) := by
  intro start typed net
  have types : typed.Overtypes (editor.text.take start) (editor.text.drop start) editor.options net :=
    (overtypes_press normal clear alone inside).pressAll tabs balanced
  have text : typed.text = editor.text.take start ++ Document.overlay (editor.text.drop start) net :=
    types.text.trans (List.append_assoc _ _ _)
  have caret : typed.window.caret = start + net.length := by
    rw [types.caret, List.length_append, List.length_take_of_le inside]
  refine ⟨text, caret, fun none => ?_⟩
  rw [text, caret, none]
  exact ⟨List.take_append_drop start editor.text, rfl⟩

/-- Over `abc` and a line break `x`, a line break, `yz` and a tab are typed, with all but the `x` taken back in
between and `k` typed instead. -/
theorem overtyping_corrected_twice :
    let editor : Editor := { window := { text := "abc\nd".toList, carets := .single (.ofOffset 1) } }
    let keys : List TypingKey :=
      [.char 'x', .enter, .char 'y', .backspace, .backspace, .char 'y', .char 'z', .tab, .backspace, .backspace,
        .backspace, .char 'k']
    let typed := editor.pressAll (.ofChar 'R' :: keys.map TypingKey.toKey)
    editor.mode = .normal ∧ editor.pending = {} ∧ editor.carets.size = 1 ∧
      editor.window.caret ≤ editor.text.length ∧ editor.options.flag "expandtab" = false ∧
      TypingKey.Balanced 0 keys ∧ typed.text = "axk\nd".toList ∧ typed.window.caret = 3 := by
  intro editor keys typed
  have inside : editor.window.caret ≤ editor.text.length := by decide
  have tabs : editor.options.flag "expandtab" = false := by decide +kernel
  have balanced : TypingKey.Balanced 0 keys := by decide
  obtain ⟨text, caret, _⟩ := overtyping_corrected editor keys rfl rfl rfl inside (fun _ => tabs) balanced
  rw [show editor.pressAll (.ofChar 'R' :: keys.map TypingKey.toKey) = typed from rfl] at text caret
  exact ⟨rfl, rfl, rfl, inside, tabs, balanced, text.trans (by decide), caret.trans (by decide)⟩

end Editor

end ModalEdit

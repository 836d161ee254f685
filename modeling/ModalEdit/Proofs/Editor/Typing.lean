import ModalEdit.Editor.Typing
import ModalEdit.Proofs.Edit.Operator
import ModalEdit.Proofs.Editor.Selecting

/-!
Typing: what is typed at the carets is recorded as it stands in the text, and every key keeps the
editor sound while text is typed.
-/

set_option autoImplicit false

namespace ModalEdit

/-- What is noted of the typing, but for the characters typed over. -/
def Typing.bare (typing : Typing) : Typing :=
  { typing with replaced := [] }

namespace Editor

variable {start : Journal} {editor before after : Editor}

/-- Typing over other text goes on one place behind the last character typed. -/
theorem edits_typeOver (index : Nat) (chars : List Char) (place : Nat)
    (edits : before.Edits editor) (inside : before.InText → place ≤ editor.text.length) :
    before.Edits (chars.foldl (typeOver index) (editor, place)).1 ∧
      (before.InText → place + chars.length ≤
        (chars.foldl (typeOver index) (editor, place)).1.text.length) := by
  induction chars generalizing editor place with
  | nil => exact ⟨edits, inside⟩
  | cons c rest ih =>
    have typed : before.Edits (typeOver index (editor, place) c).1 :=
      ⟨.replace _ [c] edits.space inside, edits.mode, edits.pending, edits.block, edits.strays⟩
    have behind : before.InText → place + 1 ≤ (typeOver index (editor, place) c).1.text.length :=
      fun inText => editor.text.start_add_length_le_replace place _ [c] (inside inText)
    have others := ih (place + 1) typed behind
    rw [List.length_cons, Nat.add_comm rest.length, ← Nat.add_assoc]
    exact others

theorem edits_moveCaret (index : Nat) {place : Nat} (edits : before.Edits editor)
    (inside : before.InText → place ≤ editor.text.length) :
    before.Edits (editor.update (·.moveCaret index place)) :=
  ⟨.moveCaret index edits.space inside, edits.mode, edits.pending, edits.block, edits.strays⟩

theorem edits_typeAt (chars : List Char) (editor : Editor) (index : Nat) :
    editor.Edits (typeAt chars editor index) := by
  have stands : editor.InText → editor.carets.offsetAt index ≤ editor.text.length :=
    fun inText => inText.offsetAt_le index
  unfold typeAt
  dsimp only
  split
  · obtain ⟨edits, behind⟩ := edits_typeOver index chars _ (.refl editor) stands
    exact edits_moveCaret index edits behind
  · refine edits_moveCaret index ⟨editor.edited_replace _ chars stands, rfl, rfl, rfl, rfl⟩ ?_
    exact fun inText => editor.text.start_add_length_le_replace _ _ chars (stands inText)

theorem typeAt_insert (chars : List Char) (index : Nat) (inserts : editor.mode ≠ .replace) :
    typeAt chars editor index =
      (editor.update (·.insert (editor.carets.offsetAt index) chars)).update
        (·.moveCaret index (editor.carets.offsetAt index + chars.length)) := by
  unfold typeAt
  dsimp only
  rw [if_neg inserts]

theorem text_typeAt (chars : List Char) (index : Nat) (inserts : editor.mode ≠ .replace) :
    (typeAt chars editor index).text =
      editor.text.replace (editor.carets.offsetAt index) (editor.carets.offsetAt index) chars := by
  rw [typeAt_insert chars index inserts]
  rfl

/-- A caret goes with what is typed at it, in front of it or where it stands. -/
theorem get?_typeAt (chars : List Char) (index : Nat) (inserts : editor.mode ≠ .replace) {other : Nat}
    {caret : Caret} (stands : editor.carets.get? other = some caret) :
    ∃ moved, (typeAt chars editor index).carets.get? other = some moved ∧
      moved.offset = if editor.carets.offsetAt index ≤ caret.offset then caret.offset + chars.length
        else caret.offset := by
  have shifted : (editor.insert (editor.carets.offsetAt index) chars).carets.get? other = some _ :=
    (CaretSet.get?_map _ _ other).trans (congrArg (Option.map _) stands)
  rw [typeAt_insert chars index inserts]
  by_cases here : index = other
  · cases here
    refine ⟨_, (CaretSet.get?_modify_self _ index _).trans (congrArg (Option.map _) shifted), ?_⟩
    rw [CaretSet.offsetAt_of_get? stands, if_pos (Nat.le_refl _)]
    rfl
  · exact ⟨_, (CaretSet.get?_modify_of_ne here _).trans shifted, shiftOffset_self _ _ _⟩

theorem typing_typeAt (chars : List Char) (editor : Editor) (index : Nat) :
    (typeAt chars editor index).typing.bare = editor.typing.bare := by
  have typesOver (place : Nat) :
      (chars.foldl (typeOver index) (editor, place)).1.typing.bare = editor.typing.bare := by
    induction chars generalizing editor place with
    | nil => rfl
    | cons c rest ih => exact ih _ (place + 1)
  unfold typeAt
  dsimp only
  split
  · exact typesOver _
  · rfl

/-- What is typed is noted behind what has been typed before. -/
theorem typing_insertText (chars : List Char) (editor : Editor) :
    (editor.insertText chars).typing.bare =
      { editor.typing.bare with typed := editor.typing.typed ++ chars } := by
  have each (indices : List Nat) (ready : Editor) :
      (indices.foldl (typeAt chars) ready).typing.bare = ready.typing.bare := by
    induction indices generalizing ready with
    | nil => rfl
    | cons index rest ih => exact (ih _).trans (typing_typeAt chars ready index)
  exact congrArg (fun typing : Typing => { typing with typed := typing.typed ++ chars }) (each _ _)

theorem edits_insertText (chars : List Char) (editor : Editor) :
    (editor.update (·.begin)).Edits (editor.insertText chars) := by
  have typed (ready : Editor) (indices : List Nat) :
      ready.Edits (indices.foldl (typeAt chars) ready) :=
    Edits.foldl (fun editor => editor) (fun editor index => edits_typeAt chars editor index) _ _
  unfold insertText
  dsimp only
  refine .retype (.trans (.retype (.refl _) _ ?_) (typed _ _)) _ ?_
  · rfl
  · rfl

/-- The editor goes on typing after edits that have been recorded. -/
theorem Sound.ofEdited (sound : editor.Sound start) (typing : editor.mode.isTyping = true)
    (edited : editor.begin.Edited after.toWorkspace) (mode : after.mode = editor.mode)
    (pending : after.pending = editor.pending) (recorded : after.Recorded start) :
    after.Sound start := by
  constructor
  · rw [mode]
    exact edited.selects (Workspace.selects_begin sound.selects)
  · intro _
    rw [mode]
    exact typing
  · rw [pending, mode]
    exact sound.counting
  · rw [pending, mode]
    exact sound.command
  · exact recorded

theorem Sound.typed (sound : editor.Sound start) (typing : editor.mode.isTyping = true)
    (inText : editor.InText) (edits : (editor.update (·.begin)).Edits after) :
    after.Sound start :=
  sound.ofEdited typing edits.space edits.mode edits.pending (sound.recorded.begun inText edits)

theorem selectionKind?_of_isTyping {mode : Mode} (typing : mode.isTyping = true) :
    mode.selectionKind? = none := by
  cases mode with
  | insert | replace => rfl
  | _ => cases typing

theorem isSelect_of_isTyping {mode : Mode} (typing : mode.isTyping = true) :
    mode.isSelect = false := by
  cases mode with
  | insert | replace => rfl
  | _ => cases typing

theorem Sound.readyTyping (sound : editor.Sound start) (typing : editor.mode.isTyping = true) :
    editor.Ready start := by
  refine sound.ready (selectionKind?_of_isTyping typing) (sound.uncounted ?_)
  intro operator target mode
  rw [mode] at typing
  cases typing

theorem keeps_typeText (chars : List Char) (sound : editor.Sound start) (inText : editor.InText)
    (takes : editor.mode.isTyping = true ∨ editor.mode = .commandLine) :
    Keeps start before (editor.typeText chars) := by
  unfold typeText
  split
  · exact .done (sound.ofMatches ⟨rfl, rfl, rfl, rfl⟩)
  · rename_i notPrompt
    have typing := takes.resolve_right notPrompt
    exact .done (sound.typed typing inText (edits_insertText chars editor))

theorem edits_backspaceAt (state : Editor × Bool) (index : Nat) :
    state.1.Edits (backspaceAt state index).1 := by
  obtain ⟨editor, any⟩ := state
  have stands : editor.InText → editor.carets.offsetAt index - 1 ≤ editor.text.length :=
    fun inText => Nat.le_trans (Nat.sub_le _ 1) (inText.offsetAt_le index)
  have replaced (stop : Nat) (chars : List Char) (typing : Typing)
      (block : typing.block = editor.typing.block) : editor.Edits (({ editor with typing }.update
        (·.replace (editor.carets.offsetAt index - 1) stop chars)).update
          (·.moveCaret index (editor.carets.offsetAt index - 1))) := by
    refine edits_moveCaret index ⟨editor.edited_replace stop chars stands, rfl, rfl, block, rfl⟩ ?_
    intro inText
    have behind := editor.text.start_add_length_le_replace _ stop chars (stands inText)
    exact Nat.le_trans (Nat.le_add_right _ chars.length) behind
  unfold backspaceAt
  dsimp only
  split
  · exact .refl editor
  · split
    · split
      · exact replaced _ _ _ rfl
      · exact replaced _ _ _ rfl
      · split
        · exact .refl editor
        · exact edits_moveCaret index (.refl editor) stands
    · exact replaced _ _ editor.typing rfl

/-- An edit tried at every caret in one transaction. Where it can be made at none, nothing has been
edited. -/
def Attempts (editor : Editor) (outcome : Outcome) : Prop :=
  ∃ edited any, (editor.update (·.begin)).Edits edited ∧
    (any = false → edited.toWorkspace = editor.begin) ∧ outcome = edited.doneIf any

theorem Attempts.keeps {outcome : Outcome} (attempts : editor.Attempts outcome)
    (sound : editor.Sound start) (typing : editor.mode.isTyping = true) (inText : editor.InText) :
    Keeps start before outcome := by
  obtain ⟨edited, any, edits, _, rfl⟩ := attempts
  exact .doneIf (sound.typed typing inText edits) any

theorem backspaceAt_idle (state : Editor × Bool) (index : Nat)
    (idle : (backspaceAt state index).2 = false) :
    state.2 = false ∧ (backspaceAt state index).1 = state.1 := by
  obtain ⟨editor, any⟩ := state
  unfold backspaceAt at idle ⊢
  dsimp only at idle ⊢
  split
  · rename_i atStart
    rw [if_pos atStart] at idle
    exact ⟨idle, rfl⟩
  · rename_i inside
    rw [if_neg inside] at idle
    split
    · rename_i replaces
      rw [if_pos replaces] at idle
      split at idle
      · cases idle
      · cases idle
      · split at idle
        · rename_i first
          rw [if_pos first]
          exact ⟨idle, rfl⟩
        · cases idle
    · rename_i insert
      rw [if_neg insert] at idle
      cases idle

theorem attempts_backspace (editor : Editor) : editor.Attempts editor.backspace := by
  unfold backspace
  dsimp only
  refine ⟨_, _, ?_, fun none => ?_, rfl⟩
  · refine .retype ?_ _ rfl
    exact Edits.foldl Prod.fst edits_backspaceAt _ (editor.update (·.begin), false)
  · have idle := @Workspace.foldl_idle _ _ _ _ Prod.snd Prod.fst backspaceAt_idle _ _ none
    exact congrArg toWorkspace idle.2

theorem attempts_deleteUnder (editor : Editor) : editor.Attempts editor.deleteUnder := by
  unfold deleteUnder
  dsimp only
  refine ⟨_, _, ?_, fun none => ?_, rfl⟩
  · refine Edits.foldl Prod.fst ?_ _ (editor.update (·.begin), false)
    intro (editor, any) index
    dsimp only
    split
    · exact ⟨editor.edited_replace _ [] fun inText => inText.offsetAt_le index, rfl, rfl, rfl,
        rfl⟩
    · exact .refl editor
  · refine congrArg toWorkspace (@Workspace.foldl_idle _ _ _ _ Prod.snd Prod.fst ?_ _ _ none).2
    intro (editor, any) index found
    dsimp only at found ⊢
    split at found
    · cases found
    · rename_i outside
      rw [if_neg outside]
      exact ⟨found, rfl⟩

theorem attempts_deleteBack (editor : Editor) (word : Bool) :
    editor.Attempts (editor.deleteBack word) := by
  unfold deleteBack
  dsimp only
  refine ⟨_, _, ?_, fun none => Workspace.editAtCarets_idle none, rfl⟩
  refine .retype (.ofSpace ?_) _ rfl
  refine Workspace.edited_editAtCarets ?_ (editor.update (·.begin)).toWorkspace
  intro space offset landed inside deleted
  split at deleted
  · rename_i before
    cases deleted
    have stands : space.InText → deletionStart space.text word offset ≤ space.text.length :=
      fun inText => Nat.le_trans (Nat.le_of_lt before) (inside inText)
    exact ⟨space.edited_replace _ [] stands, fun inText =>
      space.text.start_add_length_le_replace _ _ [] (stands inText)⟩
  · cases deleted

theorem keeps_shiftCaretLines (right : Bool) (sound : editor.Sound start)
    (typing : editor.mode.isTyping = true) (inText : editor.InText) :
    Keeps start before (editor.shiftCaretLines right) := by
  refine .done (sound.typed typing inText ⟨?_, rfl, rfl, rfl, rfl⟩)
  exact Workspace.edited_foldl (fun space => space)
    (fun space line => space.edited_shiftLines line line right 1) _ _

theorem sound_breakTyping (sound : editor.Sound start) (typing : editor.mode.isTyping = true) :
    editor.breakTyping.Sound start :=
  ((sound.readyTyping typing).commit.begin).startTyping _ typing 1 false

theorem Ready.stepBack (ready : editor.Ready start) : editor.stepBack.Ready start := by
  refine ⟨ready.recorded.leadsTo (.refl _) rfl, ?_, ready.uncounted⟩
  intro caret member
  obtain ⟨old, stood, rfl⟩ := CaretSet.mem_map.mp member
  exact ready.selects old stood

theorem Ready.retainPrimary (ready : editor.Ready start) :
    (editor.update fun space => space.setCarets space.carets.retainPrimary).Ready start := by
  refine ⟨ready.recorded.leadsTo (.refl _) rfl, ?_, ready.uncounted⟩
  intro caret member
  rw [List.mem_singleton.mp member]
  exact ready.selects _ editor.carets.primary_mem

theorem Ready.retype (ready : editor.Ready start) (typing : Typing) :
    Ready start { editor with typing } :=
  ⟨ready.recorded.leadsTo (.refl _) rfl, ready.selects, ready.uncounted⟩

/-- Whatever is typed again when typing ends is part of the transaction that ends then. -/
theorem sound_finishTyping (ready : editor.Ready start) (inText : editor.InText) :
    editor.finishTyping.Sound start := by
  have again : ∀ text : List Char, Ready start { insertText { editor with typing := {} } text with
      typing := {} } := by
    intro text
    have cleared : Ready start { editor with typing := {} } := ready.retype _
    exact (cleared.edits inText (edits_insertText text _)).retype _
  unfold finishTyping
  dsimp only
  generalize againEq : (if 1 < editor.typing.times ∧ editor.typing.typed ≠ [] then _ else _) = typed
  have typedReady : typed.Ready start := by
    rw [← againEq]
    split
    · exact again _
    · exact ready.retype _
  have closed := typed.inTransaction_commit
  split
  · exact typedReady.commit.retainPrimary.stepBack.closed closed rfl
  · exact typedReady.commit.stepBack.closed closed rfl

/-- When typing ends, what has been noted is typed again as often as it takes, and nothing else of the text
changes. -/
theorem text_finishTyping (editor : Editor) :
    editor.finishTyping.text =
      if 1 < editor.typing.times ∧ editor.typing.typed ≠ [] then
        (insertText { editor with typing := {} } (List.replicate (editor.typing.times - 1)
          (if editor.typing.newLine then '\n' :: editor.typing.typed else editor.typing.typed)).flatten).text
      else editor.text := by
  have ended (typed : Editor) (block : Bool) :
      Workspace.text (Editor.toWorkspace { (if block then
        (typed.update (·.commit)).update fun space => space.setCarets space.carets.retainPrimary
        else typed.update (·.commit)).stepBack with mode := .normal }) = typed.text := by
    cases block <;> rfl
  exact (ended _ _).trans (apply_ite (fun typed : Editor => typed.text) _ _ _)

theorem keeps_specialKey (awaited : Awaited) (key : Key) (sound : editor.Sound start)
    (inText : editor.InText) (takes : editor.mode.isTyping = true ∨ editor.mode = .commandLine)
    (unselecting : editor.mode.isSelect = false) :
    Keeps start editor (editor.specialKey awaited key) := by
  unfold specialKey
  split
  · exact .done sound
  · split
    · exact .await sound unselecting _
    · split
      · exact keeps_typeText _ sound inText takes
      · exact keeps_typeText _ sound inText takes
    · split
      · exact keeps_typeText _ sound inText takes
      · exact .reject sound
    · exact IfAny.elim (.reject sound) fun c _ => keeps_typeText [c] sound inText takes
    · exact .reject sound

theorem keepsIf_specialStart (key : Key) (sound : editor.Sound start)
    (unselecting : editor.mode.isSelect = false) :
    KeepsIf start editor (editor.specialStart? key) := by
  unfold specialStart?
  split
  · exact .ofSome (.await sound unselecting _)
  · split
    · exact .ofSome (.await sound unselecting _)
    · split
      · exact .ofSome (.await sound unselecting _)
      · exact .ofNone

theorem keepsIf_typingControl (key : Key) (sound : editor.Sound start)
    (typing : editor.mode.isTyping = true) (inText : editor.InText) :
    KeepsIf start before (editor.typingControl? key) := by
  unfold typingControl?
  split
  · exact .ofSome ((editor.attempts_deleteBack true).keeps sound typing inText)
  · split
    · exact .ofSome ((editor.attempts_deleteBack false).keeps sound typing inText)
    · split
      · exact .ofSome (editor.attempts_backspace.keeps sound typing inText)
      · split
        · exact .ofSome (keeps_typeText _ sound inText (Or.inl typing))
        · split
          · exact .ofSome (keeps_shiftCaretLines _ sound typing inText)
          · exact .ofNone

theorem keeps_toggleReplace (sound : editor.Sound start) (typing : editor.mode.isTyping = true) :
    Keeps start before editor.toggleReplace := by
  have ready := sound.readyTyping typing
  have recorded : editor.toggleReplace.1.Recorded start := sound.recorded.leadsTo (.refl _) rfl
  unfold toggleReplace at recorded ⊢
  dsimp only at recorded ⊢
  by_cases insert : editor.mode = .insert
  · rw [if_pos insert] at recorded ⊢
    exact .done (.plain recorded ready.selects rfl (fun _ => rfl) ready.uncounted)
  · rw [if_neg insert] at recorded ⊢
    exact .done (.plain recorded ready.selects rfl (fun _ => rfl) ready.uncounted)

theorem keeps_typedKey (key : Key) (sound : editor.Sound start)
    (typing : editor.mode.isTyping = true) (inText : editor.InText) :
    Keeps start before (editor.typedKey key) := by
  unfold typedKey
  split
  · exact keeps_typeText _ sound inText (Or.inl typing)
  · exact keeps_typeText _ sound inText (Or.inl typing)
  · exact editor.attempts_backspace.keeps sound typing inText
  · exact editor.attempts_deleteUnder.keeps sound typing inText
  · exact keeps_toggleReplace sound typing
  · exact IfAny.elim (.reject sound) fun c _ => keeps_typeText [c] sound inText (Or.inl typing)

/-- Every key keeps the editor sound while text is typed. -/
theorem keeps_pressTyping (key : Key) (sound : editor.Sound start)
    (typing : editor.mode.isTyping = true) (inText : editor.InText) :
    Keeps start editor (editor.pressTyping key) := by
  have rest := sound.stopWaiting
  have unselecting : editor.mode.isSelect = false := isSelect_of_isTyping typing
  suffices keeps : Keeps start editor.stopWaiting (editor.pressTyping key) from
    keeps.of_standsAs ⟨rfl, rfl, rfl, id⟩
  unfold pressTyping
  dsimp only
  split
  · exact keeps_specialKey _ key rest inText (Or.inl typing) unselecting
  · split
    · exact .done (sound_finishTyping (rest.readyTyping typing) inText)
    · refine IfAny.getD (.orElse (keepsIf_specialStart key rest unselecting)
        (keepsIf_typingControl key rest typing inText)) ?_
      split
      · have broken := (sound_breakTyping rest typing).commit
        have closed := editor.stopWaiting.breakTyping.inTransaction_commit
        exact keeps_shiftedKey key _ broken closed (rest.readyTyping typing).uncounted rfl
      · split
        · exact keeps_extendBy key (sound_breakTyping rest typing)
        · exact keeps_typedKey key rest typing inText

end Editor

/-! ### Behind the end of the text

Typing while a caret is behind the end of the text. What that caret types is recorded where the text
does not have it.
-/

namespace Editor

variable {editor : Editor} {begun : Journal} {chars : List Char}

/-- Whether the caret of a number is behind the end of the text. -/
def IsBehind (editor : Editor) (index : Nat) : Prop :=
  ∃ caret, editor.carets.get? index = some caret ∧ editor.text.length < caret.offset

theorem IsBehind.lt_offsetAt {index : Nat} (behind : editor.IsBehind index) :
    editor.text.length < editor.carets.offsetAt index := by
  obtain ⟨caret, stands, far⟩ := behind
  rw [CaretSet.offsetAt_of_get? stands]
  exact far

theorem journal_typeAt (chars : List Char) (index : Nat) (inserts : editor.mode ≠ .replace) :
    (typeAt chars editor index).journal =
      (editor.journal.apply (.replace (editor.carets.offsetAt index)
        (editor.carets.offsetAt index) chars)).1 := by
  rw [typeAt_insert chars index inserts]
  rfl

/-- A caret that is behind the end stays there while another one types in the text. -/
theorem IsBehind.typeAt {index other : Nat} (behind : editor.IsBehind other)
    (inserts : editor.mode ≠ .replace)
    (inside : editor.carets.offsetAt index ≤ editor.text.length) :
    (Editor.typeAt chars editor index).IsBehind other := by
  have far := behind.lt_offsetAt
  obtain ⟨caret, stands, farCaret⟩ := behind
  have differ : index ≠ other := by
    intro same
    rw [same] at inside
    omega
  obtain ⟨moved, there, offset⟩ := get?_typeAt chars index inserts stands
  have length : (editor.text.replace (editor.carets.offsetAt index)
      (editor.carets.offsetAt index) chars).length = editor.text.length + chars.length := by
    rw [editor.text.length_replace _ _ chars inside, Nat.max_self]
    omega
  refine ⟨moved, there, ?_⟩
  rw [text_typeAt chars index inserts, length, offset, if_pos (by omega)]
  omega

theorem opened_typeAt (chars : List Char) (index : Nat)
    (opened : editor.history.inTransaction = true) :
    (typeAt chars editor index).history.inTransaction = true :=
  (edits_typeAt chars editor index).space.inTransaction.trans opened

/-- Once text has strayed, whatever else is typed is permitted or strays too. -/
theorem straysTo_typeAt {indices : List Nat} (strayed : begun.StraysTo editor.journal)
    (typed : chars ≠ []) (opened : editor.history.inTransaction = true)
    (inserts : editor.mode ≠ .replace) :
    begun.StraysTo (indices.foldl (typeAt chars) editor).journal := by
  induction indices generalizing editor with
  | nil => exact strayed
  | cons index rest ih =>
    have mode := (edits_typeAt chars editor index).mode
    apply ih _ (opened_typeAt chars index opened) (mode ▸ inserts)
    rw [journal_typeAt chars index inserts]
    by_cases inside : editor.carets.offsetAt index ≤ editor.text.length
    · exact .permitted strayed ⟨opened, inside⟩
    · exact .again strayed ⟨opened, Nat.lt_of_not_le inside, typed⟩

/-- If a caret that is to type is behind the end of the text, then text strays. -/
theorem straysTo_of_isBehind {indices : List Nat} (leads : begun.LeadsTo editor.journal)
    (typed : chars ≠ []) (opened : editor.history.inTransaction = true)
    (inserts : editor.mode ≠ .replace) (behind : ∃ index ∈ indices, editor.IsBehind index) :
    begun.StraysTo (indices.foldl (typeAt chars) editor).journal := by
  induction indices generalizing editor with
  | nil =>
    obtain ⟨index, member, _⟩ := behind
    cases member
  | cons index rest ih =>
    have mode := (edits_typeAt chars editor index).mode
    have journal := journal_typeAt chars index inserts
    by_cases inside : editor.carets.offsetAt index ≤ editor.text.length
    · obtain ⟨other, member, far⟩ := behind
      have later : other ∈ rest := by
        rcases List.mem_cons.mp member with here | inRest
        · have farHere := far.lt_offsetAt
          rw [here] at farHere
          omega
        · exact inRest
      refine ih ?_ (opened_typeAt chars index opened) (mode ▸ inserts)
        ⟨other, later, far.typeAt inserts inside⟩
      rw [journal]
      exact leads.trans (.apply _ ⟨opened, inside⟩)
    · have strayed : begun.StraysTo (typeAt chars editor index).journal := by
        rw [journal]
        exact .first leads ⟨opened, Nat.lt_of_not_le inside, typed⟩
      rw [List.foldl_cons]
      exact straysTo_typeAt strayed typed (opened_typeAt chars index opened) (mode ▸ inserts)

theorem straysTo_insertText (typed : chars ≠ []) (inserts : editor.mode ≠ .replace)
    (behind : ∃ caret ∈ editor.carets.toList, editor.text.length < caret.offset) :
    editor.journal.StraysTo (editor.insertText chars).journal := by
  obtain ⟨caret, member, far⟩ := behind
  obtain ⟨index, stands⟩ := List.mem_iff_getElem?.mp member
  have begunStands : editor.begin.carets.get? index = some caret := by
    rw [editor.carets_begin]
    exact stands
  have begunFar : editor.begin.text.length < caret.offset := by
    rw [editor.text_begin]
    exact far
  refine editor.leadsTo_begin.straysTo ?_
  exact straysTo_of_isBehind (.refl _) typed editor.inTransaction_begin inserts
    ⟨index, CaretSet.mem_descending_iff.mpr ⟨caret, begunStands⟩, caret, begunStands, begunFar⟩

variable {start : Journal}

/-- Typing right after the carets have been counted. Text strays if one of them is behind the end of
the text, and is recorded as it stands otherwise. -/
theorem sound_typeCounted (sound : editor.Sound start) (insert : editor.mode = .insert)
    (typed : chars ≠ []) : (editor.countStrays.insertText chars).Sound start := by
  have typing : editor.mode.isTyping = true := insert ▸ rfl
  have inserts : editor.countStrays.mode ≠ .replace := by
    rw [show editor.countStrays.mode = .insert from insert]
    nofun
  have edits := edits_insertText chars editor.countStrays
  have edited : editor.begin.Edited (editor.countStrays.insertText chars).toWorkspace := edits.space
  refine sound.ofEdited typing edited edits.mode edits.pending ?_
  by_cases none : editor.carets.toList.countP (fun caret => editor.text.length < caret.offset) = 0
  · have inText : editor.InText := by
      intro caret member
      have here := List.countP_eq_zero.mp none caret member
      simp only [decide_eq_true_eq] at here
      omega
    refine sound.recorded.leadsTo (edited.leadsTo_begun inText) (edits.strays.trans ?_)
    exact (congrArg (editor.strays + ·) none).trans (Nat.add_zero _)
  · have behind : ∃ caret ∈ editor.carets.toList, editor.text.length < caret.offset := by
      obtain ⟨caret, member, far⟩ := List.countP_pos_iff.mp (Nat.pos_of_ne_zero none)
      exact ⟨caret, member, of_decide_eq_true far⟩
    have strayed : editor.journal.StraysTo (editor.countStrays.insertText chars).journal :=
      straysTo_insertText typed inserts behind
    have strays : (editor.countStrays.insertText chars).strays ≠ 0 := by
      rw [edits.strays]
      change editor.strays + _ ≠ 0
      omega
    refine ⟨fun zero => absurd zero strays, fun _ => ?_⟩
    by_cases first : editor.strays = 0
    · exact (sound.recorded.inside first).straysTo strayed
    · exact (sound.recorded.outside first).trans strayed

end Editor

end ModalEdit

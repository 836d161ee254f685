import Mathlib.Data.List.DropRight
import ModalEdit.Proofs.Command.Lines
import ModalEdit.Proofs.Session.Status
import ModalEdit.Proofs.Session.Strokes
import ModalEdit.Proofs.Session.Typing

/-!
Keys played by a command line: `:normal!` presses the keys of its argument and then escapes. The argument
is what is left of the line when the white space at both ends is gone. `:normal` looks at mappings: it
does what the same keys do that the user types one by one, the end of waiting for more, and an escape.
-/

set_option autoImplicit false

namespace ModalEdit

namespace Text

variable {c : Char} {text behind : List Char}

theorem trimStart_cons_blank (blank : isBlank c = true) (rest : List Char) :
    trimStart (c :: rest) = trimStart rest :=
  List.dropWhile_cons_of_pos blank

theorem trimEnd_append (text behind : List Char) :
    trimEnd (text ++ behind) = if trimEnd behind = [] then trimEnd text else text ++ trimEnd behind := by
  unfold trimEnd
  rw [List.reverse_append, List.dropWhile_append]
  cases behind.reverse.dropWhile isBlank with
  | nil => simp
  | cons c rest => simp

theorem trimEnd_append_of_trimmed (trimmed : trimEnd text = text) :
    trimEnd (text ++ behind) = text ++ trimEnd behind := by
  rw [trimEnd_append, trimmed]
  split
  · rename_i nothing
    rw [nothing, List.append_nil]
  · rfl

theorem trimEnd_cons (visible : isBlank c = false) (rest : List Char) :
    trimEnd (c :: rest) = c :: trimEnd rest :=
  @trimEnd_append_of_trimmed [c] rest (trimEnd_of_visible (by simpa using visible))

/-- It does not matter which end is trimmed first. -/
theorem trimStart_trimEnd (text : List Char) : trimStart (trimEnd text) = trim text := by
  induction text with
  | nil => rfl
  | cons c rest ih =>
    unfold trim at ih ⊢
    cases visible : isBlank c with
    | false =>
      rw [trimEnd_cons visible, trimStart_cons visible, trimStart_cons visible, trimEnd_cons visible]
    | true =>
      have alone : trimEnd [c] = [] := List.rdropWhile_eq_nil_iff.mpr (by simpa using visible)
      rw [trimStart_cons_blank visible, ← ih, ← List.singleton_append, trimEnd_append, alone]
      split
      · rename_i nothing
        rw [nothing]
      · exact trimStart_cons_blank visible _

/-- A text is trimmed just if nothing can be trimmed at either end. -/
theorem trim_eq_self_iff (text : List Char) :
    trim text = text ↔
      (∀ c ∈ text.head?, isBlank c = false) ∧ ∀ c ∈ text.getLast?, isBlank c = false := by
  constructor
  · intro trimmed
    have isPrefix : trim text <+: trimStart text := List.rdropWhile_prefix isBlank _
    have shorter := isPrefix.length_le
    have started : trimStart text = text :=
      (List.dropWhile_suffix isBlank).eq_of_length_le (by rwa [trimmed] at shorter)
    have ended : trimEnd text = text := by
      unfold trim at trimmed
      rwa [started] at trimmed
    constructor
    · rintro c first
      have visible := List.head?_dropWhile_not isBlank text
      rw [show text.dropWhile isBlank = text from started, Option.mem_def.mp first] at visible
      exact visible
    · rintro c last
      have visible := List.head?_dropWhile_not isBlank text.reverse
      have reversed : text.reverse.dropWhile isBlank = text.reverse := by
        rw [← List.reverse_eq_iff]
        exact ended
      rw [reversed, List.head?_reverse, Option.mem_def.mp last] at visible
      exact visible
  · rintro ⟨first, last⟩
    have started : trimStart text = text := by
      cases text with
      | nil => rfl
      | cons c rest => exact trimStart_cons (first c rfl)
    unfold trim
    rw [started]
    exact trimEnd_of_visible last

end Text

namespace Command

/-- The line that plays keys without looking at mappings. -/
def normalLine (text : List Char) : List Char :=
  ['n', 'o', 'r', 'm', 'a', 'l', '!', ' '] ++ text

/-- The keys that the line plays are its argument, without the white space at both ends. -/
theorem parse_normalLine (text : List Char) :
    parse (normalLine text) = .ok ⟨none, .normal, true, .raw (String.ofList (Text.trim text))⟩ := by
  let name : List Char := ['n', 'o', 'r', 'm', 'a', 'l']
  have trimmed : Text.trimEnd ((normalLine text).dropWhile fun c => c == ':' || Text.isBlank c) =
      name ++ '!' :: Text.trimEnd (' ' :: text) :=
    @Text.trimEnd_append_of_trimmed (name ++ ['!']) (' ' :: text) rfl
  have unranged : Range.read (name ++ '!' :: Text.trimEnd (' ' :: text)) =
      .ok (none, name ++ '!' :: Text.trimEnd (' ' :: text)) :=
    Range.read_of_isAlpha rfl rfl
  have argument : Text.trimStart (Text.trimEnd (' ' :: text)) = Text.trim text :=
    Text.trimStart_trimEnd (' ' :: text)
  have read : parse (normalLine text) =
      .ok ⟨none, .normal, true,
        .raw (String.ofList (Text.trimStart (Text.trimEnd (' ' :: text))))⟩ := by
    unfold parse
    dsimp only
    rw [trimmed, unranged]
    rfl
  rw [read, argument]

end Command

namespace Session

variable {session : Session} {press : KeyRunner}

theorem typeKeys_unmapped (press : KeyRunner) (keys waiting : List Key) (session : Session)
    (result : KeyResult) (failed : Bool) :
    typeKeys press false keys waiting session =
      (pressAll press keys session result failed).map fun pressed => (pressed.1, waiting) := by
  induction keys generalizing session result failed with
  | nil => rfl
  | cons key rest ih =>
    unfold typeKeys pressAll
    cases press session key with
    | none => rfl
    | some pressed => exact ih pressed.1 pressed.2 _

/-- Keys that are played without mappings are pressed one after the other. -/
theorem runKeys_unmapped (press : KeyRunner) (session : Session) (keys : List Key) :
    runKeys press session keys false =
      (pressAll press keys session .consumed false).map fun pressed =>
        (pressed.1.update Editor.escape).collectReport := by
  unfold runKeys
  rw [typeKeys_unmapped press keys [] session .consumed false]
  cases pressAll press keys session .consumed false with
  | none => rfl
  | some pressed => rfl

/-- A line that plays keys in terms of the keys played. -/
theorem execute_of_normal (handled : session.handlers .normal = some .normal) (nesting : Nat)
    {line text : List Char} {bang : Bool} (some : text ≠ [])
    (parsed : Command.parse line = .ok ⟨none, .normal, bang, .raw (String.ofList text)⟩) :
    session.execute (nesting + 1) line =
      (runKeys (pressKey (runLine nesting)) session.clearStatus (text.map Key.ofControlChar)
        (!bang)).map fun played => (played.syncOptions.collectReport, .ok none) := by
  let command : Command := ⟨none, .normal, bang, .raw (String.ofList text)⟩
  have typed : command.rawText.toList = text := String.toList_ofList
  have keys : text.map Key.ofControlChar ≠ [] :=
    fun none => some (List.map_eq_nil_iff.mp none)
  have ran : session.clearStatus.runCommand (runLine nesting) command =
      session.clearStatus.runNormal (runLine nesting) command := by
    have accepted : refusal? command = none := by cases bang <;> rfl
    have handled : session.clearStatus.handlers command.id = .some .normal := handled
    unfold runCommand
    rw [accepted, handled]
    rfl
  unfold execute runLine
  rw [parsed]
  dsimp only
  rw [ran]
  unfold runNormal
  rw [typed]
  dsimp only
  rw [if_neg keys, Option.map_map, Option.map_map]
  rfl

/-- The line in terms of the keys pressed within it. -/
theorem execute_normalLine_eq (handled : session.handlers .normal = some .normal) (nesting : Nat)
    {text : List Char} (some : Text.trim text ≠ []) :
    session.execute (nesting + 1) (Command.normalLine text) =
      (pressAll (pressKey (runLine nesting)) ((Text.trim text).map Key.ofControlChar)
        session.clearStatus .consumed false).map fun pressed =>
          ((pressed.1.update Editor.escape).collectReport.syncOptions.collectReport, .ok none) := by
  rw [execute_of_normal handled nesting some (Command.parse_normalLine text), Bool.not_true,
    runKeys_unmapped, Option.map_map]
  rfl

/-- The line `normal!` presses the keys of its argument, as if they were typed, and then escapes. It ends
just if the keys do. Its argument is all of the text just if that has no white space at either end; of
other texts the keys at the ends are lost. -/
theorem execute_normalLine (handled : session.handlers .normal = some .normal) (nesting : Nat)
    {text : List Char} (some : Text.trim text ≠ []) :
    let keys := (Text.trim text).map Key.ofControlChar
    (pressAll (pressTyped nesting) keys session .consumed false = none ↔
        session.execute (nesting + 1) (Command.normalLine text) = none) ∧
      (∀ pressed answer, pressAll (pressTyped nesting) keys session .consumed false =
          .some (pressed, answer) →
        ∃ ended, session.execute (nesting + 1) (Command.normalLine text) = .some (ended, .ok none) ∧
          ended.editor.text = pressed.editor.escape.text ∧
          ended.editor.carets = pressed.editor.escape.carets ∧
          ended.editor.registers = pressed.editor.escape.registers ∧
          ended.editor.mode = pressed.editor.escape.mode) ∧
      (Text.trim text = text ↔
        (∀ c ∈ text.head?, Text.isBlank c = false) ∧ ∀ c ∈ text.getLast?, Text.isBlank c = false) := by
  intro keys
  have runs := execute_normalLine_eq handled nesting some
  have alike : EndAlike (pressAll (pressKey (runLine nesting)) keys session.clearStatus .consumed false)
      (pressAll (pressTyped nesting) keys session .consumed false) :=
    agrees_pressAll (agrees_pressTyped nesting) session.agrees_clearStatus.symm keys .consumed false
  refine ⟨?_, ?_, Text.trim_eq_self_iff text⟩
  · rw [runs, Option.map_eq_none_iff]
    generalize pressAll (pressKey (runLine nesting)) keys session.clearStatus .consumed false = within?
      at alike
    generalize pressAll (pressTyped nesting) keys session .consumed false = typed? at alike
    cases alike with
    | none => exact Iff.rfl
    | some => exact ⟨nofun, nofun⟩
  · intro pressed answer typed
    rw [typed] at alike
    rw [runs]
    generalize pressAll (pressKey (runLine nesting)) keys session.clearStatus .consumed false = within?
      at alike
    cases alike with
    | @some within _ related =>
      obtain ⟨agrees, -⟩ := related
      have escaped : (within.1.update Editor.escape).collectReport.editor =
          pressed.editor.escape.quiet := by
        rw [(collectReport_editor _).1, agrees.editor]
        rfl
      have shown := shown_editor (within.1.update Editor.escape).collectReport
      dsimp only at shown
      rw [escaped] at shown
      exact ⟨_, rfl, shown⟩

/-- `normal! f ` does not look for the blank, as the keys do: the line loses it. -/
theorem execute_normalLine_find :
    let session := ofWindow { text := ['a', ' ', 'b'] }
    Text.trim ['f', ' '] = ['f'] ∧
      (∃ ended, session.execute 1 (Command.normalLine ['f', ' ']) = some (ended, .ok none) ∧
        ended.editor.window.caret = 0) ∧
      ∃ pressed answer, pressAll (pressTyped 0) [.ofChar 'f', .ofChar ' '] session .consumed false =
          some (pressed, answer) ∧ pressed.editor.escape.window.caret = 1 := by
  intro session
  have caretBehind (keys : List Key) (caret : Nat)
      (moves : (pressAll (pressTyped 0) keys session .consumed false).any
        (fun pressed => pressed.1.editor.escape.window.caret = caret) = true) :
      ∃ pressed answer, pressAll (pressTyped 0) keys session .consumed false =
        some (pressed, answer) ∧ pressed.editor.escape.window.caret = caret := by
    obtain ⟨⟨pressed, answer⟩, typed, moved⟩ := (Option.any_eq_true _ _).mp moves
    exact ⟨pressed, answer, typed, of_decide_eq_true moved⟩
  obtain ⟨pressed, answer, typed, stays⟩ := caretBehind [.ofChar 'f'] 0 (by decide +kernel)
  obtain ⟨-, ends, -⟩ :=
    @execute_normalLine session rfl 0 ['f', ' '] (by decide)
  obtain ⟨ended, ran, -, carets, -⟩ := ends pressed answer typed
  refine ⟨by decide, ⟨ended, ran, ?_⟩, caretBehind _ 1 (by decide +kernel)⟩
  rw [← stays]
  exact congrArg (fun carets => carets.primary.offset) carets

end Session

/-! ### Keys that go through mappings -/

namespace Command

variable {text : List Char}

/-- The line that plays keys and looks at mappings. -/
def mappedLine (text : List Char) : List Char :=
  ['n', 'o', 'r', 'm', 'a', 'l', ' '] ++ text

/-- The keys that the line plays are its argument, if there is no white space at its ends. -/
theorem parse_mappedLine (typed : text ≠ []) (first : ∀ c ∈ text.head?, Text.isBlank c = false)
    (last : ∀ c ∈ text.getLast?, Text.isBlank c = false) :
    parse (mappedLine text) = .ok ⟨none, .normal, false, .raw (String.ofList text)⟩ := by
  let name : List Char := ['n', 'o', 'r', 'm', 'a', 'l']
  have whole : Text.trimEnd ((mappedLine text).dropWhile fun c => c == ':' || Text.isBlank c) =
      name ++ ' ' :: text := by
    refine Text.trimEnd_of_visible fun c isLast => last c ?_
    have behind : (name ++ [' '] ++ text).getLast? = text.getLast? :=
      List.getLast?_append_of_ne_nil _ typed
    exact behind ▸ isLast
  have unranged : Range.read (name ++ ' ' :: text) = .ok (none, name ++ ' ' :: text) :=
    Range.read_of_isAlpha rfl rfl
  have argument : Text.trimStart (' ' :: text) = text := by
    rw [Text.trimStart_cons_blank rfl]
    cases text with
    | nil => rfl
    | cons c rest => exact Text.trimStart_cons (first c rfl)
  have read : parse (mappedLine text) =
      .ok ⟨none, .normal, false, .raw (String.ofList (Text.trimStart (' ' :: text)))⟩ := by
    unfold parse
    dsimp only
    rw [whole, unranged]
    rfl
  rw [read, argument]

end Command

namespace Session

variable {session within typed : Session}

theorem agrees_begun (session : Session) : session.Agrees session.begun := by
  unfold begun
  split
  · exact session.agrees_clearStatus
  · exact .refl session

theorem feed_eq (nesting : Nat) (session : Session) (key : Key) :
    session.feed nesting key =
      (drain (pressTyped nesting) false maxExpansions (session.typeahead ++ [key]) session.begun
        .consumed).map fun drained =>
          ({ drained.1 with typeahead := drained.2.1 }, drained.2.2) :=
  rfl

/-- Keys that a line plays leave the same keys waiting as those that the user types. By induction on the
keys; what waits is kept in the session that the user types in, and beside the one that the line runs in. -/
theorem typeKeys_alike (nesting : Nat) (agrees : within.Agrees typed) (keys : List Key) :
    Option.Rel (fun within typed => within.1.Agrees typed.1 ∧ typed.1.typeahead = within.2)
      (typeKeys (pressKey (runLine nesting)) true keys typed.typeahead within)
      (typed.feedAll nesting keys) := by
  induction keys generalizing within typed with
  | nil => exact .some ⟨agrees, rfl⟩
  | cons key rest ih =>
    have drained := agrees_drain (agrees_pressTyped nesting) false maxExpansions
      (agrees.trans typed.agrees_begun) (typed.typeahead ++ [key]) .consumed
    rw [feedAll_cons, feed_eq, typeKeys, if_pos rfl]
    generalize drain (pressKey (runLine nesting)) false maxExpansions (typed.typeahead ++ [key]) within
      .consumed = within? at drained ⊢
    generalize drain (pressTyped nesting) false maxExpansions (typed.typeahead ++ [key]) typed.begun
      .consumed = typed? at drained ⊢
    cases drained with
    | none => exact .none
    | @some within typed related =>
      obtain ⟨within, waiting, result⟩ := within
      obtain ⟨typed, waiting', result'⟩ := typed
      obtain ⟨agrees, same⟩ := related
      cases same
      have others := @ih within { typed with typeahead := waiting }
        (agrees.trans (typed.agrees_withTypeahead waiting))
      dsimp only [Option.bind_some, Option.map_some] at others ⊢
      generalize typeKeys (pressKey (runLine nesting)) true rest waiting within = within? at others ⊢
      generalize feedAll nesting { typed with typeahead := waiting } rest = typed? at others ⊢
      cases others with
      | none => exact .none
      | some related => exact .some related

/-- What a user does to play keys: type them one by one, and wait until no more are waited for. -/
def typeOut (nesting : Nat) (session : Session) (keys : List Key) : Option Session :=
  (session.feedAll nesting keys).bind fun fed => (fed.1.flush nesting).map Prod.fst

theorem runKeys_alike (nesting : Nat) (waiting : typed.typeahead = []) (agrees : within.Agrees typed)
    (keys : List Key) :
    Option.Rel (fun within typed => within.Agrees (typed.update Editor.escape).collectReport)
      (runKeys (pressKey (runLine nesting)) within keys true) (typed.typeOut nesting keys) := by
  have fed := typeKeys_alike nesting agrees keys
  rw [waiting] at fed
  unfold runKeys typeOut
  generalize typeKeys (pressKey (runLine nesting)) true keys [] within = within? at fed ⊢
  generalize typed.feedAll nesting keys = typed? at fed ⊢
  cases fed with
  | none => exact .none
  | @some within typed related =>
    obtain ⟨within, waiting⟩ := within
    obtain ⟨typed, results⟩ := typed
    obtain ⟨agrees, same⟩ := related
    dsimp only at agrees same
    subst same
    have drained := agrees_drain (agrees_pressTyped nesting) true maxExpansions agrees typed.typeahead
      .consumed
    unfold flush drainTyped
    dsimp only [bind, Option.bind]
    generalize drain (pressKey (runLine nesting)) true maxExpansions typed.typeahead within .consumed =
      within? at drained ⊢
    generalize drain (pressTyped nesting) true maxExpansions typed.typeahead typed .consumed = typed?
      at drained ⊢
    cases drained with
    | none => exact .none
    | @some within typed related =>
      have agrees := related.1.trans (typed.1.agrees_withTypeahead typed.2.1)
      exact .some (agrees.update Editor.escape).collectReport

/-- What is shown, and the options that take effect, leave the mappings and the values of options alone. -/
theorem shown_rest (session : Session) :
    session.syncOptions.collectReport.mappings = session.mappings ∧
      session.syncOptions.collectReport.editor.options.slots = session.editor.options.slots := by
  obtain ⟨editor, -, mappings⟩ := collectReport_editor session.syncOptions
  refine ⟨mappings, ?_⟩
  rw [editor]
  rfl

/-- The line `normal` does what its keys do that the user types one by one, the end of waiting for more, and
an escape, mapped as they are and whatever lines they run on the way. One of the two comes to an end just
if the other does. -/
theorem execute_mappedLine (handled : session.handlers .normal = some .normal)
    (waiting : session.typeahead = []) (nesting : Nat) {text : List Char} (some : text ≠ [])
    (first : ∀ c ∈ text.head?, Text.isBlank c = false)
    (last : ∀ c ∈ text.getLast?, Text.isBlank c = false) :
    let keys := text.map Key.ofControlChar
    let line := Command.mappedLine text
    (session.typeOut nesting keys = none ↔ session.execute (nesting + 1) line = none) ∧
      ∀ typed, session.typeOut nesting keys = .some typed →
        ∃ ended, session.execute (nesting + 1) line = .some (ended, .ok none) ∧
          ended.editor.text = typed.editor.escape.text ∧
          ended.editor.carets = typed.editor.escape.carets ∧
          ended.editor.registers = typed.editor.escape.registers ∧
          ended.editor.mode = typed.editor.escape.mode ∧
          ended.mappings = typed.mappings ∧
          ended.editor.options.slots = typed.editor.escape.options.slots := by
  intro keys line
  have runs : session.execute (nesting + 1) line =
      (runKeys (pressKey (runLine nesting)) session.clearStatus keys true).map _ :=
    execute_of_normal handled nesting some (Command.parse_mappedLine some first last)
  have alike := runKeys_alike nesting waiting session.agrees_clearStatus.symm keys
  rw [runs]
  generalize runKeys (pressKey (runLine nesting)) session.clearStatus keys true = played? at alike ⊢
  generalize session.typeOut nesting keys = typed? at alike ⊢
  cases alike with
  | none =>
    refine ⟨⟨fun _ => rfl, fun _ => rfl⟩, ?_⟩
    rintro _ ⟨⟩
  | @some played typed agrees =>
    refine ⟨⟨nofun, nofun⟩, ?_⟩
    rintro _ ⟨⟩
    refine ⟨_, rfl, ?_⟩
    have editor : played.editor = typed.editor.escape.quiet :=
      agrees.symm.editor.trans (collectReport_editor (typed.update Editor.escape)).1
    have mappings : played.mappings = typed.mappings :=
      agrees.symm.mappings.trans (collectReport_editor (typed.update Editor.escape)).2.2
    obtain ⟨text, carets, registers, mode⟩ := shown_editor played
    obtain ⟨keptMappings, options⟩ := shown_rest played
    rw [editor] at text carets registers mode options
    exact ⟨text, carets, registers, mode, keptMappings.trans mappings, options⟩

/-- A key at the end that may be the start of a longer mapping is mapped when no more keys come. -/
theorem execute_mappedLine_waiting :
    let word : Mapping :=
      ⟨.single .normal, [.ofChar 'Q'], [.ofChar 'd', .ofChar 'w'], false⟩
    let line : Mapping :=
      ⟨.single .normal, [.ofChar 'Q', .ofChar 'Q'], [.ofChar 'd', .ofChar 'd'], false⟩
    let session := { ofWindow { text := ['a', 'b', ' ', 'c'] } with mappings := ⟨[word, line]⟩ }
    session.typeahead = [] ∧ Text.isBlank 'x' = false ∧ Text.isBlank 'Q' = false ∧
      ∃ ended, session.execute 1 (Command.mappedLine ['x', 'Q']) = some (ended, .ok none) ∧
        ended.editor.text = ['c'] := by
  intro word line session
  have typed : (session.typeOut 0 [.ofChar 'x', .ofChar 'Q']).any
      (fun typed => typed.editor.escape.text = ['c']) = true := by
    decide +kernel
  obtain ⟨typed, played, left⟩ := (Option.any_eq_true _ _).mp typed
  have first : ∀ c ∈ ['x', 'Q'].head?, Text.isBlank c = false := by
    rintro _ ⟨⟩
    decide
  have last : ∀ c ∈ ['x', 'Q'].getLast?, Text.isBlank c = false := by
    rintro _ ⟨⟩
    decide
  obtain ⟨-, ends⟩ := @execute_mappedLine session rfl rfl 0 ['x', 'Q'] (by decide) first last
  obtain ⟨ended, ran, text, -⟩ := ends typed played
  exact ⟨rfl, by decide, by decide, ended, ran, text.trans (of_decide_eq_true left)⟩

end Session

end ModalEdit

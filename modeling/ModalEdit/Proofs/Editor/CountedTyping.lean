import ModalEdit.Document.Word
import ModalEdit.Proofs.Editor.Inserting
import ModalEdit.Proofs.Editor.Single
import ModalEdit.Proofs.Response.Counts
import ModalEdit.Proofs.Session.Escaping

/-!
Inserting text with a count. What is typed again when the typing ends is not the text that has been inserted but
what has been noted of it: the end of that text, from the last deletion of a word or a line on.
-/

set_option autoImplicit false

namespace ModalEdit

/-- The keys that begin to insert text as often as a count says. -/
inductive EntryKey where
  | here
  | behind
  | firstNonBlank
  | lineEnd
  | below
  | above
deriving DecidableEq

namespace EntryKey

def char : EntryKey → Char
  | here => 'i'
  | behind => 'a'
  | firstNonBlank => 'I'
  | lineEnd => 'A'
  | below => 'o'
  | above => 'O'

/-- Whether the text goes on a new line each time. -/
def opensLine (entry : EntryKey) : Bool :=
  entry matches below | above

/-- Where the text is divided for what is inserted. -/
def place (text : Document) (caret : Nat) : EntryKey → Nat
  | here => InsertPlace.here.resolve text caret
  | behind => InsertPlace.behind.resolve text caret
  | firstNonBlank => InsertPlace.firstNonBlank.resolve text caret
  | lineEnd => InsertPlace.lineEnd.resolve text caret
  | below => text.lineEnd (text.lineOf caret)
  | above => text.lineStart (text.lineOf caret)

/-- The text in front of what is inserted. -/
def front (entry : EntryKey) (text : Document) (caret : Nat) : Document :=
  text.take (entry.place text caret) ++ if entry = below then ['\n'] else []

/-- The text behind what is inserted. -/
def back (entry : EntryKey) (text : Document) (caret : Nat) : Document :=
  (if entry = above then ['\n'] else []) ++ text.drop (entry.place text caret)

/-- A text so many times more, on new lines if the key opens lines. -/
def copies (entry : EntryKey) (count : Nat) (text : List Char) : List Char :=
  (List.replicate count (if entry.opensLine then '\n' :: text else text)).flatten

end EntryKey

/-- The keys of someone who inserts text and deletes some of it again. -/
inductive InsertingKey where
  | char (c : Char)
  | enter
  | backspace
  | word
  | line
deriving DecidableEq

namespace InsertingKey

def toKey : InsertingKey → Key
  | char c => .ofChar c
  | enter => .enter
  | backspace => .named .backspace
  | word => .ctrl 'w'
  | line => .ctrl 'u'

/-- What is noted of the inserted text. A word or a line that is deleted takes all of the note with it. -/
def note (noted : List Char) : InsertingKey → List Char
  | char c => noted ++ [c]
  | enter => noted ++ ['\n']
  | backspace => noted.dropLast
  | word => []
  | line => []

end InsertingKey

namespace EntryKey

variable {entry : EntryKey} {count : Nat} {noted inserted : List Char}

theorem length_copies (entry : EntryKey) (count : Nat) (text : List Char) :
    (entry.copies count text).length = count * (text.length + if entry.opensLine then 1 else 0) := by
  unfold copies
  rw [List.length_flatten, List.map_replicate, List.sum_replicate_nat]
  split <;> rfl

/-- The end of a text makes the same copies only if it is all of the text. Without any text, there are no copies,
not even empty lines. -/
theorem copies_eq_iff (ends : noted <:+ inserted) :
    (if noted = [] then [] else entry.copies count noted) = entry.copies count inserted ↔
      count = 0 ∨ noted = inserted ∧ (entry.opensLine = true → inserted ≠ []) := by
  by_cases none : count = 0
  · subst none
    simp only [copies, List.replicate_zero, List.flatten_nil, ite_self, true_or]
  · have some : 0 < count := Nat.pos_of_ne_zero none
    simp only [none, false_or]
    constructor
    · intro same
      have lengths := congrArg List.length same
      by_cases empty : noted = []
      · rw [if_pos empty, length_copies, List.length_nil, eq_comm, Nat.mul_eq_zero] at lengths
        have nothing := lengths.resolve_left none
        refine ⟨empty.trans (List.eq_nil_of_length_eq_zero (by omega)).symm, fun opens => ?_⟩
        rw [if_pos opens] at nothing
        omega
      · rw [if_neg empty, length_copies, length_copies, Nat.mul_right_inj none] at lengths
        have whole := ends.eq_of_length (Nat.add_right_cancel lengths)
        exact ⟨whole, fun _ => whole ▸ empty⟩
    · rintro ⟨rfl, someLine⟩
      by_cases empty : noted = []
      · have plain : ¬entry.opensLine = true := fun opens => someLine opens empty
        rw [if_pos empty, empty]
        unfold copies
        rw [if_neg plain, List.flatten_replicate_nil]
      · exact if_neg empty

end EntryKey

/-- Deleting back stops in front of the caret at the latest. -/
theorem Editor.deletionStart_le (text : Document) (word : Bool) (offset : Nat) :
    deletionStart text word offset ≤ offset := by
  have line := text.lineStart_lineOf_le offset
  unfold deletionStart
  dsimp only
  split
  · exact Nat.sub_le _ _
  · split
    · exact Nat.max_le.mpr ⟨WordKind.prevStart_le _ text offset, line⟩
    · split
      · exact Nat.le_of_lt ‹_›
      · exact line

/-- A text that is being inserted at one caret: the whole text, the caret behind what has been inserted, and what
has been noted of it. -/
structure Insertion where
  text : Document
  caret : Nat
  noted : List Char := []

/-- The insertion that a key begins. -/
def EntryKey.insertion (entry : EntryKey) (text : Document) (caret : Nat) : Insertion where
  text := entry.front text caret ++ entry.back text caret
  caret := (entry.front text caret).length

namespace EntryKey

variable {entry : EntryKey} {text : Document} {caret : Nat}

theorem place_le (inside : caret ≤ text.length) : entry.place text caret ≤ text.length := by
  have lineEnd := text.lineEnd_le (text.lineOf caret)
  cases entry with
  | here => exact inside
  | behind =>
    unfold place InsertPlace.resolve
    dsimp only
    split
    · exact Nat.le_trans (Nat.min_le_right _ _) lineEnd
    · exact inside
  | firstNonBlank => exact text.firstNonBlank_le _
  | lineEnd => exact lineEnd
  | below => exact lineEnd
  | above => exact text.lineStart_le _

theorem insertion_of_not_opensLine (opens : entry.opensLine = false)
    (within : entry.place text caret ≤ text.length) :
    entry.insertion text caret = { text, caret := entry.place text caret } := by
  have notBelow : entry ≠ below := by
    rintro rfl
    cases opens
  have notAbove : entry ≠ above := by
    rintro rfl
    cases opens
  unfold insertion front back
  rw [if_neg notBelow, if_neg notAbove, List.append_nil, List.nil_append, List.take_append_drop,
    List.length_take_of_le within]

theorem insertion_of_opensLine (opens : entry.opensLine = true) (within : entry.place text caret ≤ text.length) :
    entry.insertion text caret =
      { text := text.replace (entry.place text caret) (entry.place text caret) ['\n']
        caret := entry.place text caret + if entry = below then 1 else 0 } := by
  unfold insertion front back Document.replace
  rw [Nat.max_self, List.length_append, List.length_take_of_le within]
  cases entry with
  | below => rfl
  | above => simp
  | _ => cases opens

end EntryKey

namespace Insertion

/-- Text is typed at the caret. -/
def type (insertion : Insertion) (chars : List Char) : Insertion where
  text := insertion.text.replace insertion.caret insertion.caret chars
  caret := insertion.caret + chars.length
  noted := insertion.noted ++ chars

/-- The text from a place up to the caret is deleted. -/
def deleteFrom (insertion : Insertion) (start : Nat) (noted : List Char) : Insertion where
  text := insertion.text.replace start insertion.caret []
  caret := start
  noted

/-- What a key makes of the insertion. -/
def take (insertion : Insertion) : InsertingKey → Insertion
  | .char c => insertion.type [c]
  | .enter => insertion.type ['\n']
  | .backspace => insertion.deleteFrom (insertion.caret - 1) insertion.noted.dropLast
  | .word => insertion.deleteFrom (Editor.deletionStart insertion.text true insertion.caret) []
  | .line => insertion.deleteFrom (Editor.deletionStart insertion.text false insertion.caret) []

theorem noted_foldl (insertion : Insertion) (keys : List InsertingKey) :
    (keys.foldl take insertion).noted = keys.foldl InsertingKey.note insertion.noted := by
  induction keys generalizing insertion with
  | nil => rfl
  | cons key rest ih =>
    rw [List.foldl_cons, List.foldl_cons, ih]
    cases key <;> rfl

variable {insertion : Insertion} {front back : Document} {inserted : List Char}

/-- What has been inserted stands between two parts of the text, with the caret behind it and the end of it
noted. -/
structure Holds (insertion : Insertion) (front back : Document) (inserted : List Char) : Prop where
  text : insertion.text = front ++ inserted ++ back
  caret : insertion.caret = (front ++ inserted).length
  noted : insertion.noted <:+ inserted

theorem Holds.type (holds : insertion.Holds front back inserted) (chars : List Char) :
    (insertion.type chars).Holds front back (inserted ++ chars) := by
  have put := Document.replace_append (front ++ inserted) back 0 chars
  rw [← holds.text, Nat.add_zero, ← holds.caret, List.drop_zero, List.append_assoc front] at put
  refine ⟨put, ?_, List.suffix_append_self_iff.mpr holds.noted⟩
  rw [← List.append_assoc, List.length_append, ← holds.caret]
  rfl

/-- Deleting back to a place of what has been inserted leaves what stands in front of the place. -/
theorem Holds.deleteFrom (holds : insertion.Holds front back inserted) {count : Nat} {noted : List Char}
    (within : count ≤ inserted.length) (ends : noted <:+ inserted.take count) :
    (insertion.deleteFrom (front.length + count) noted).Holds front back (inserted.take count) := by
  have start : (front ++ inserted.take count).length = front.length + count := by
    rw [List.length_append, List.length_take_of_le within]
  have stop : insertion.caret = front.length + count + (inserted.drop count).length := by
    rw [holds.caret, List.length_append, List.length_drop]
    omega
  have removed := Document.replace_append (front ++ inserted.take count) (inserted.drop count ++ back)
    (inserted.drop count).length []
  rw [List.append_nil, List.drop_left, start, ← stop, List.append_assoc front, ← List.append_assoc _ _ back,
    List.take_append_drop, ← List.append_assoc front, ← holds.text] at removed
  exact ⟨removed, start.symm, ends⟩

theorem dropLast_suffix {noted inserted : List Char} (ends : noted <:+ inserted) :
    noted.dropLast <:+ inserted.dropLast := by
  obtain ⟨before, rfl⟩ := ends
  by_cases empty : noted = []
  · rw [empty]
    exact List.nil_suffix
  · rw [List.dropLast_append_of_ne_nil empty]
    exact List.suffix_append _ _

/-- A key that deletes nothing in front of what has been inserted changes what has been inserted alone, and its end
stays noted. All of it stays noted unless a word or a line is deleted. -/
theorem Holds.take (holds : insertion.Holds front back inserted) {key : InsertingKey}
    (behind : front.length ≤ (insertion.take key).caret) :
    ∃ after, (insertion.take key).Holds front back after ∧
      (key ≠ .word → key ≠ .line → insertion.noted = inserted → (insertion.take key).noted = after) := by
  have caret := holds.caret
  rw [List.length_append] at caret
  have deletes (word : Bool)
      (behind : front.length ≤ Editor.deletionStart insertion.text word insertion.caret) :
      ∃ after, (insertion.deleteFrom (Editor.deletionStart insertion.text word insertion.caret) []).Holds
        front back after := by
    have upTo := Editor.deletionStart_le insertion.text word insertion.caret
    obtain ⟨count, start⟩ := Nat.exists_eq_add_of_le behind
    rw [start] at upTo ⊢
    exact ⟨_, holds.deleteFrom (by omega) List.nil_suffix⟩
  cases key with
  | char c => exact ⟨_, holds.type [c], fun _ _ all => congrArg (· ++ [c]) all⟩
  | enter => exact ⟨_, holds.type ['\n'], fun _ _ all => congrArg (· ++ ['\n']) all⟩
  | backspace =>
    have ends := dropLast_suffix holds.noted
    have start : insertion.caret - 1 = front.length + (inserted.length - 1) := by
      have kept : front.length ≤ insertion.caret - 1 := behind
      omega
    have without : inserted.dropLast = inserted.take (inserted.length - 1) := List.dropLast_eq_take
    rw [without] at ends
    have left := holds.deleteFrom (Nat.sub_le inserted.length 1) ends
    rw [← start, ← without] at left
    exact ⟨_, left, fun _ _ all => congrArg List.dropLast all⟩
  | word =>
    obtain ⟨after, left⟩ := deletes true behind
    exact ⟨after, left, fun other => absurd rfl other⟩
  | line =>
    obtain ⟨after, left⟩ := deletes false behind
    exact ⟨after, left, fun _ other => absurd rfl other⟩

/-- So do keys of which none deletes anything in front of what has been inserted. -/
theorem Holds.foldl {keys : List InsertingKey} (holds : insertion.Holds front back inserted)
    (behind : ∀ count ≤ keys.length, front.length ≤ ((keys.take count).foldl Insertion.take insertion).caret) :
    ∃ after, (keys.foldl Insertion.take insertion).Holds front back after ∧
      ((∀ key ∈ keys, key ≠ .word ∧ key ≠ .line) → insertion.noted = inserted →
        (keys.foldl Insertion.take insertion).noted = after) := by
  induction keys generalizing insertion inserted with
  | nil => exact ⟨inserted, holds, fun _ all => all⟩
  | cons key rest ih =>
    obtain ⟨after, next, kept⟩ := holds.take (behind 1 (Nat.le_add_left 1 _))
    obtain ⟨final, last, keptToo⟩ := ih next fun count within => behind (count + 1) (Nat.succ_le_succ within)
    refine ⟨final, last, fun letters all => ?_⟩
    obtain ⟨⟨noWord, noLine⟩, others⟩ := List.forall_mem_cons.mp letters
    exact keptToo others (kept noWord noLine all)

end Insertion

namespace Editor

variable {editor : Editor} {insertion : Insertion} {times : Nat} {newLine : Bool}

/-- An editor that inserts text at one caret, to be typed so many times. -/
structure Performs (editor : Editor) (insertion : Insertion) (times : Nat) (newLine : Bool) : Prop where
  mode : editor.mode = .insert
  awaits : editor.pending.awaited = .command
  alone : editor.carets.size = 1
  text : editor.text = insertion.text
  caret : editor.window.caret = insertion.caret
  inside : insertion.caret ≤ insertion.text.length
  typing : editor.typing.bare = { typed := insertion.noted, times, newLine }

namespace Performs

variable (performs : editor.Performs insertion times newLine)

include performs

theorem settle : editor.settle.Performs insertion times newLine := by
  refine ⟨performs.mode, performs.awaits, size_settle performs.alone, editor.text_settle.trans performs.text, ?_,
    performs.inside, performs.typing⟩
  have inside : editor.window.caret ≤ editor.text.length := by
    rw [performs.caret, performs.text]
    exact performs.inside
  rw [caret_settle performs.alone, performs.mode, Nat.min_eq_left inside]
  exact (Document.clampCaret_pastEnd inside).trans performs.caret

theorem begin : (editor.update (·.begin)).Performs insertion times newLine := by
  have caret := (congrArg Window.caret editor.window_begin).trans performs.caret
  exact ⟨performs.mode, performs.awaits, editor.size_begin.trans performs.alone,
    editor.text_begin.trans performs.text, caret, performs.inside, performs.typing⟩

theorem dropCommand : editor.dropCommand.Performs insertion times newLine := by
  have same : editor.dropCommand = editor.clearPending := by
    unfold Editor.dropCommand
    dsimp only
    rw [show editor.clearPending.mode = .insert from performs.mode]
  rw [same]
  exact ⟨performs.mode, rfl, performs.alone, performs.text, performs.caret, performs.inside, performs.typing⟩

theorem insertText (chars : List Char) :
    (editor.insertText chars).Performs (insertion.type chars) times newLine := by
  have single : editor.carets.toList = [editor.carets.primary] := by
    rw [CaretSet.eq_single performs.alone]
    rfl
  have inside : editor.window.caret ≤ editor.text.length := by
    rw [performs.caret, performs.text]
    exact performs.inside
  have inText : editor.InText := by
    intro caret member
    rw [single] at member
    rw [List.mem_singleton.mp member]
    exact inside
  have inserts : editor.mode ≠ .replace := performs.mode ▸ nofun
  have edits := edits_insertText chars editor
  have typed := typedAt_insertText chars inserts inText
  have alone := typed.size.trans performs.alone
  have text : (editor.insertText chars).text = (insertion.type chars).text := by
    have put := Document.insertEach_eq_foldr (List.pairwise_singleton (· < ·) editor.window.caret)
      (List.forall_mem_singleton.mpr inside) chars
    rw [typed.text, single]
    refine put.trans ?_
    rw [List.foldr_cons, List.foldr_nil, performs.text, performs.caret]
    rfl
  have caret : (editor.insertText chars).window.caret = insertion.caret + chars.length := by
    obtain ⟨moved, there, offset⟩ := typed.carets 0 _ (get?_single performs.alone)
    rw [get?_single alone, Option.some_inj] at there
    have count : [editor.carets.primary.offset].countP (· ≤ editor.carets.primary.offset) = 1 := by simp
    rw [← there, single, List.map_singleton, count, Nat.one_mul] at offset
    rw [← performs.caret]
    exact offset
  refine ⟨edits.mode.trans performs.mode, (congrArg Pending.awaited edits.pending).trans performs.awaits, alone,
    text, caret, ?_, ?_⟩
  · exact insertion.text.start_add_length_le_replace _ _ _ performs.inside
  · have noted := typing_insertText chars editor
    have before : editor.typing.typed = insertion.noted := congrArg Typing.typed performs.typing
    rw [performs.typing, before] at noted
    exact noted

section Deleting

variable {noted : List Char} {typing : Typing} (notes : typing.bare = { typed := noted, times, newLine })

include notes

/-- The text from a place up to the caret is deleted. -/
theorem deleteFrom {start : Nat} (upTo : start ≤ insertion.caret) :
    Performs { editor with toWorkspace := (editor.remove start insertion.caret).moveCaret 0 start, typing }
      (insertion.deleteFrom start noted) times newLine := by
  have alone : (editor.remove start insertion.caret).carets.size = 1 :=
    (CaretSet.size_map _ _).trans performs.alone
  have text : editor.text.replace start insertion.caret [] = (insertion.deleteFrom start noted).text := by
    rw [performs.text]
    rfl
  refine ⟨performs.mode, performs.awaits, (CaretSet.size_modify _ _ _).trans alone, text,
    Workspace.moveCaret_single alone start, ?_, notes⟩
  exact insertion.text.start_add_length_le_replace start _ [] (Nat.le_trans upTo performs.inside)

/-- Nothing is deleted, but what has been noted changes. -/
theorem deleteNothing :
    Performs { editor with typing } (insertion.deleteFrom insertion.caret noted) times newLine := by
  have same := insertion.text.replace_nothing insertion.caret
  refine ⟨performs.mode, performs.awaits, performs.alone, performs.text.trans same.symm, performs.caret, ?_, notes⟩
  exact Nat.le_trans performs.inside (Nat.le_of_eq (congrArg List.length same.symm))

end Deleting

theorem typed : editor.typing.typed = insertion.noted :=
  congrArg Typing.typed performs.typing

theorem offsetAt : editor.carets.offsetAt 0 = insertion.caret :=
  (CaretSet.offsetAt_of_get? (get?_single performs.alone)).trans performs.caret

theorem backspace :
    ∃ (after : Editor) (any : Bool), editor.backspace = after.doneIf any ∧
      after.Performs (insertion.take .backspace) times newLine := by
  have begun := performs.begin
  have notes : { (editor.update (·.begin)).typing with
      typed := (editor.update (·.begin)).typing.typed.dropLast : Typing }.bare =
        { typed := insertion.noted.dropLast, times, newLine } := by
    have noted := congrArg (fun typing : Typing => { typing with typed := typing.typed.dropLast }) begun.typing
    exact noted
  unfold Editor.backspace
  dsimp only
  rw [descending_single begun.alone, List.foldl_cons, List.foldl_nil]
  unfold backspaceAt
  dsimp only
  rw [begun.offsetAt]
  by_cases start : insertion.caret = 0
  · rw [if_pos start]
    have left := begun.deleteNothing notes
    have same : insertion.deleteFrom insertion.caret insertion.noted.dropLast = insertion.take .backspace := by
      unfold Insertion.take
      rw [start]
    rw [same] at left
    exact ⟨_, _, rfl, left⟩
  · rw [if_neg start, if_neg (begun.mode ▸ nofun)]
    exact ⟨_, _, rfl, begun.deleteFrom notes (Nat.sub_le _ 1)⟩

theorem deleteBack (word : Bool) :
    ∃ (after : Editor) (any : Bool), editor.deleteBack word = after.doneIf any ∧
      after.Performs (insertion.deleteFrom (deletionStart insertion.text word insertion.caret) []) times
        newLine := by
  have begun := performs.begin
  have notes : { (editor.update (·.begin)).typing with typed := [] : Typing }.bare =
      { typed := [], times, newLine } :=
    congrArg (fun typing : Typing => { typing with typed := [] }) begun.typing
  have upTo := deletionStart_le insertion.text word insertion.caret
  unfold Editor.deleteBack Workspace.editAtCarets
  dsimp only
  rw [descending_single begun.alone, List.foldl_cons, List.foldl_nil]
  dsimp only
  rw [begun.offsetAt, show (editor.update (·.begin)).toWorkspace.text = insertion.text from begun.text]
  by_cases deletes : deletionStart insertion.text word insertion.caret < insertion.caret
  · rw [if_pos deletes]
    exact ⟨_, _, rfl, begun.deleteFrom notes upTo⟩
  · rw [if_neg deletes]
    have left := begun.deleteNothing notes
    rw [← Nat.le_antisymm upTo (Nat.not_lt.mp deletes)] at left
    exact ⟨_, _, rfl, left⟩

/-- Each key types its character or deletes. -/
theorem takes (key : InsertingKey) :
    ∃ (after : Editor) (any : Bool), editor.pressTyping key.toKey = after.doneIf any ∧
      after.Performs (insertion.take key) times newLine := by
  have notPrompt : editor.mode ≠ .commandLine := performs.mode ▸ nofun
  have typesText (c : Char) : editor.typeText [c] = (editor.insertText [c]).done := if_neg notPrompt
  unfold pressTyping
  rw [performs.awaits, stopWaiting_of_command performs.awaits]
  cases key with
  | char c =>
    refine ⟨_, true, ?_, performs.insertText [c]⟩
    exact (show _ = editor.typeText [c] from rfl).trans (typesText c)
  | enter =>
    refine ⟨_, true, ?_, performs.insertText ['\n']⟩
    exact (show _ = editor.typeText ['\n'] from rfl).trans (typesText '\n')
  | backspace => exact performs.backspace
  | word => exact performs.deleteBack true
  | line => exact performs.deleteBack false

theorem press (key : InsertingKey) :
    (editor.press key.toKey).1.Performs (insertion.take key) times newLine := by
  have typing : editor.mode.isTyping = true := performs.mode ▸ rfl
  obtain ⟨after, any, taken, performs⟩ := performs.takes key
  have pressed := (pressInMode_typing key.toKey typing).trans taken
  cases any with
  | true =>
    rw [press_of_done pressed]
    exact performs.settle
  | false =>
    rw [press_of_reject pressed]
    exact performs.dropCommand.settle

theorem pressAll (keys : List InsertingKey) :
    (editor.pressAll (keys.map InsertingKey.toKey)).Performs (keys.foldl Insertion.take insertion) times
      newLine := by
  induction keys generalizing editor insertion with
  | nil => exact performs
  | cons key rest ih => exact ih (performs.press key)

/-- When the typing ends, what has been noted is typed again behind what has been inserted. -/
theorem text_press_escape :
    (editor.press .escape).1.text = insertion.text.replace insertion.caret insertion.caret
      (if insertion.noted = [] then [] else
        (List.replicate (times - 1) (if newLine then '\n' :: insertion.noted else insertion.noted)).flatten) := by
  have typing : editor.mode.isTyping = true := performs.mode ▸ rfl
  have count : editor.typing.times = times := congrArg Typing.times performs.typing
  have lines : editor.typing.newLine = newLine := congrArg Typing.newLine performs.typing
  have nothing : insertion.text.replace insertion.caret insertion.caret [] = insertion.text :=
    insertion.text.replace_nothing insertion.caret
  rw [press_escape_typing typing, if_pos performs.awaits, stopWaiting_of_command performs.awaits, text_settle,
    text_finishTyping, count, lines, performs.typed]
  by_cases none : insertion.noted = []
  · rw [if_neg (fun again => again.2 none), if_pos none, nothing]
    exact performs.text
  · rw [if_neg none]
    by_cases again : 1 < times
    · rw [if_pos ⟨again, none⟩]
      have cleared : Performs { editor with typing := {} } { insertion with noted := [] } 0 false :=
        ⟨performs.mode, performs.awaits, performs.alone, performs.text, performs.caret, performs.inside, rfl⟩
      exact (cleared.insertText _).text
    · rw [if_neg (fun both => again both.1), Nat.sub_eq_zero_of_le (Nat.not_lt.mp again), List.replicate_zero,
        List.flatten_nil, nothing]
      exact performs.text

end Performs

section Entering

variable (alone : editor.carets.size = 1) (awaits : editor.pending.awaited = .command)

include alone awaits

/-- The caret moves to the place where text is inserted. -/
theorem performs_startInsert {place : InsertPlace} (times : Nat)
    (inside : place.resolve editor.text editor.window.caret ≤ editor.text.length) :
    ∃ after : Editor, editor.startInsert place times = after.done ∧
      after.Performs { text := editor.text, caret := place.resolve editor.text editor.window.caret } times
        false := by
  have single : editor.carets = .single editor.carets.primary := CaretSet.eq_single alone
  let move (caret : Caret) : Caret := caret.moveTo (place.resolve editor.text caret.offset)
  let moved : Editor := editor.update (·.mapCarets move)
  have carets : moved.carets = .single (move editor.carets.primary) := by
    show editor.carets.map move = _
    rw [single, CaretSet.map_single]
    rfl
  have started : (moved.startTyping .insert times false).Performs
      { text := editor.text, caret := place.resolve editor.text editor.window.caret } times false := by
    refine ⟨rfl, awaits, ?_, rfl, ?_, inside, rfl⟩
    · show moved.carets.size = 1
      rw [carets]
      rfl
    · show moved.carets.primary.offset = _
      rw [carets]
      rfl
  exact ⟨_, rfl, started.begin⟩

/-- A line is opened, and the caret goes to its start. -/
theorem performs_openLine (below : Bool) (times : Nat) :
    let line := editor.text.lineOf editor.window.caret
    let place := if below then editor.text.lineEnd line else editor.text.lineStart line
    ∃ after : Editor, editor.openLine below times = after.done ∧
      after.Performs
        { text := editor.text.replace place place ['\n'], caret := place + if below then 1 else 0 } times
        true := by
  intro line place
  let begun := editor.update (·.begin)
  have aloneBegun : begun.carets.size = 1 := editor.size_begin.trans alone
  have text : begun.text = editor.text := editor.text_begin
  have caret : begun.window.caret = editor.window.caret := congrArg Window.caret editor.window_begin
  have offset : begun.carets.offsetAt 0 = editor.window.caret :=
    (CaretSet.offsetAt_of_get? (get?_single aloneBegun)).trans caret
  have inserted : (begun.insert place ['\n']).carets.size = 1 := (CaretSet.size_map _ _).trans aloneBegun
  let opened : Editor := begun.update fun _ =>
    (begun.insert place ['\n']).moveCaret 0 (place + if below then 1 else 0)
  have opens : editor.openLine below times = (opened.startTyping .insert times true).done := by
    unfold openLine update
    dsimp only
    rw [show editor.begin.carets.descending = [0] from descending_single aloneBegun, List.foldl_cons,
      List.foldl_nil]
    rw [show editor.begin.carets.offsetAt 0 = editor.window.caret from offset,
      show editor.begin.text = editor.text from text]
    cases below <;> rfl
  refine ⟨_, opens, rfl, awaits, (CaretSet.size_modify _ _ _).trans inserted, ?_,
    Workspace.moveCaret_single inserted _, ?_, rfl⟩
  · show begun.text.replace place place ['\n'] = _
    rw [text]
  · have stands : place ≤ editor.text.length := by
      unfold place
      split
      · exact editor.text.lineEnd_le line
      · exact editor.text.lineStart_le line
    have within := editor.text.start_add_length_le_replace place place ['\n'] stands
    refine Nat.le_trans (Nat.add_le_add_left ?_ place) within
    split
    · exact Nat.le_refl 1
    · exact Nat.zero_le 1

end Entering

/-- A key that begins to insert text leads to where it is inserted, to be typed as often as the count says. -/
theorem performs_entry (editor : Editor) (entry : EntryKey) {count? : Option Nat} (normal : editor.mode = .normal)
    (counts : editor.pending = { count? }) (alone : editor.carets.size = 1)
    (inside : editor.window.caret ≤ editor.text.length) :
    (editor.press (.ofChar entry.char)).1.Performs
      (entry.insertion editor.text editor.window.caret) (max (count?.getD 1) 1) entry.opensLine := by
  have awaits : editor.pending.awaited = .command := congrArg Pending.awaited counts
  have count : editor.pending.effectiveCount? = count? := congrArg Pending.effectiveCount? counts
  have within := entry.place_le inside
  have aloneThen : editor.clearPending.carets.size = 1 := alone
  have awaitsThen : editor.clearPending.pending.awaited = .command := rfl
  have pressed := pressInMode_normalKey awaits (.ofChar entry.char) normal
  have takes : ∃ after : Editor, editor.normalKey (.ofChar entry.char) = after.done ∧
      after.Performs (entry.insertion editor.text editor.window.caret)
        (max (editor.pending.effectiveCount?.getD 1) 1) entry.opensLine := by
    cases entry with
    | below =>
      rw [EntryKey.insertion_of_opensLine rfl within]
      exact performs_openLine aloneThen awaitsThen true _
    | above =>
      rw [EntryKey.insertion_of_opensLine rfl within]
      exact performs_openLine aloneThen awaitsThen false _
    | _ =>
      rw [EntryKey.insertion_of_not_opensLine rfl within]
      exact performs_startInsert aloneThen awaitsThen _ within
  obtain ⟨after, begins, performs⟩ := takes
  rw [press_of_done (pressed.trans begins), ← count]
  exact performs.settle

/-- The digits of a count in front of a key that begins to insert text. -/
theorem performs_counted (entry : EntryKey) {digits : List Char} (run : Number.IsRun digits)
    (normal : editor.mode = .normal) (clear : editor.pending = {}) (alone : editor.carets.size = 1)
    (inside : editor.window.caret ≤ editor.text.length) :
    (editor.pressAll (Key.typing (digits ++ [entry.char]))).Performs
      (entry.insertion editor.text editor.window.caret) ((Number.runsCount? [digits]).getD 1) entry.opensLine := by
  have takes : editor.mode.takesMotions = true := normal ▸ rfl
  have awaits : editor.pending.awaited = .command := congrArg Pending.awaited clear
  have fresh : editor.pending.count? = none := congrArg Pending.count? clear
  have counted := takesIn_digits takes awaits run.digit (Or.inl run.nonzero)
  rw [Pending.pushDigits_fresh fresh, clear] at counted
  have begins := performs_entry (editor.withPending { count? := Number.runsCount? [digits] }) entry normal rfl
    alone inside
  rw [Nat.max_eq_left run.one_le] at begins
  have pressed : editor.pressAll (Key.typing digits) = _ := counted.pressAll editor.message?
  rw [pressAll_typing_append, pressed]
  exact begins

/-- Whether keys delete nothing in front of the place where the caret is at first. -/
def StaysBehind (editor : Editor) (keys : List InsertingKey) : Prop :=
  ∀ count ≤ keys.length, editor.window.caret ≤
    (editor.pressAll ((keys.take count).map InsertingKey.toKey)).window.caret

instance (editor : Editor) (keys : List InsertingKey) : Decidable (editor.StaysBehind keys) :=
  inferInstanceAs (Decidable (∀ count ≤ keys.length, _))

/-- When the typing ends, what is typed again is what has been noted, not what has been inserted: the end of it,
from the last deletion of a word or a line on. So the text inserted stands there as often as the count says just if
all of it has been noted, and there is some for each line that the key opens. -/
theorem count_repeats_noted (editor : Editor) (entry : EntryKey) (digits : List Char) (keys : List InsertingKey)
    (normal : editor.mode = .normal) (clear : editor.pending = {}) (alone : editor.carets.size = 1)
    (inside : editor.window.caret ≤ editor.text.length) (run : Number.IsRun digits)
    (behind : (editor.pressAll (Key.typing (digits ++ [entry.char]))).StaysBehind keys) :
    let times := (Number.runsCount? [digits]).getD 1
    let front := entry.front editor.text editor.window.caret
    let back := entry.back editor.text editor.window.caret
    let noted := keys.foldl InsertingKey.note []
    let typed := editor.pressAll (Key.typing (digits ++ [entry.char]) ++ keys.map InsertingKey.toKey)
    let ended := (typed.press .escape).1
    ∃ inserted, typed.text = front ++ inserted ++ back ∧ noted <:+ inserted ∧
      ended.text = front ++ (inserted ++ if noted = [] then [] else entry.copies (times - 1) noted) ++ back ∧
      ((∀ key ∈ keys, key ≠ .word ∧ key ≠ .line) → noted = inserted) ∧
      (ended.text = front ++ (inserted ++ entry.copies (times - 1) inserted) ++ back ↔
        times = 1 ∨ noted = inserted ∧ (entry.opensLine = true → inserted ≠ [])) := by
  intro times front back noted typed ended
  have began := performs_counted entry run normal clear alone inside
  have opened : (entry.insertion editor.text editor.window.caret).Holds front back [] := by
    refine ⟨?_, ?_, List.suffix_rfl⟩
    · rw [List.append_nil]
      rfl
    · rw [List.append_nil]
      rfl
  have behindFront : ∀ count ≤ keys.length, front.length ≤
      ((keys.take count).foldl Insertion.take (entry.insertion editor.text editor.window.caret)).caret := by
    intro count within
    have stays := behind count within
    rw [began.caret, (began.pressAll (keys.take count)).caret] at stays
    exact stays
  obtain ⟨inserted, holds, all⟩ := opened.foldl behindFront
  have types : typed.Performs (keys.foldl Insertion.take (entry.insertion editor.text editor.window.caret)) times
      entry.opensLine := by
    rw [show typed = _ from editor.pressAll_append _ _]
    exact began.pressAll keys
  have notes : (keys.foldl Insertion.take (entry.insertion editor.text editor.window.caret)).noted = noted :=
    Insertion.noted_foldl _ keys
  have ends := holds.noted
  rw [notes] at ends all
  let again := if noted = [] then [] else entry.copies (times - 1) noted
  have text : ended.text = front ++ (inserted ++ again) ++ back := by
    have put := Document.replace_append (front ++ inserted) back 0 again
    rw [← holds.text, Nat.add_zero, ← holds.caret, List.drop_zero, List.append_assoc front] at put
    rw [types.text_press_escape, notes]
    exact put
  have once : times - 1 = 0 ↔ times = 1 := by
    have positive : 1 ≤ times := run.one_le
    omega
  refine ⟨inserted, types.text.trans holds.text, ends, text, fun letters => all letters rfl, ?_⟩
  rw [text, List.append_cancel_right_eq, List.append_cancel_left_eq, List.append_cancel_left_eq,
    EntryKey.copies_eq_iff ends, once]

/-- A word is deleted while text is inserted twice between brackets, and only what is typed behind it is typed
again. -/
theorem count_repeats_noted_word :
    let editor : Editor := { window := { text := "()".toList, carets := .single (.ofOffset 1) } }
    let keys : List InsertingKey := [.char 'a', .char 'b', .char ' ', .char 'c', .char 'd', .word, .char 'x']
    let typed := editor.pressAll (Key.typing ['2', 'i'] ++ keys.map InsertingKey.toKey)
    editor.mode = .normal ∧ editor.pending = {} ∧ editor.carets.size = 1 ∧
      editor.window.caret ≤ editor.text.length ∧ Number.IsRun ['2'] ∧
      (editor.pressAll (Key.typing ['2', 'i'])).StaysBehind keys ∧ typed.text = "(ab x)".toList ∧
      (typed.press .escape).1.text = "(ab xx)".toList := by
  intro editor keys typed
  have inside : editor.window.caret ≤ editor.text.length := by decide
  have run : Number.IsRun ['2'] := by decide
  have behind : (editor.pressAll (Key.typing ['2', 'i'])).StaysBehind keys := by decide +kernel
  have before : typed.text = "(ab x)".toList := by decide +kernel
  obtain ⟨inserted, text, -, ended, -⟩ := count_repeats_noted editor .here ['2'] keys rfl rfl rfl inside run behind
  have same : editor.pressAll (Key.typing (['2'] ++ [EntryKey.here.char]) ++ keys.map InsertingKey.toKey) =
      typed := rfl
  rw [same] at text ended
  have split : ['('] ++ inserted ++ [')'] = ['('] ++ "ab x".toList ++ [')'] := text.symm.trans before
  have whole := List.append_cancel_left (List.append_cancel_right split)
  rw [whole] at ended
  exact ⟨rfl, rfl, rfl, inside, run, behind, before, ended.trans (by decide +kernel)⟩

end Editor

end ModalEdit

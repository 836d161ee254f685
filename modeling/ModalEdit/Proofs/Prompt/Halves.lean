import ModalEdit.Prompt
import Mathlib.Data.List.DropRight

/-!
The prompt, whose edits look for places in its text, against a line in two halves, the text before the cursor
and the text behind it. While they go together, every edit finds its place. They part at a line that is
submitted with the cursor behind its start: the text is taken out, and the cursor stays where it was.
-/

set_option autoImplicit false

namespace ModalEdit

/-! ### Places in a text -/

namespace Text

theorem byteLength_append (front back : List Char) :
    byteLength (front ++ back) = byteLength front + byteLength back := by
  induction front with
  | nil => exact (Nat.zero_add _).symm
  | cons c front ih => rw [List.cons_append, byteLength, byteLength, ih, Nat.add_assoc]

theorem cutAt?_append (front back : List Char) :
    cutAt? (byteLength front) (front ++ back) = some (front, back) := by
  induction front with
  | nil => exact cutAt?.eq_1 back
  | cons c front ih =>
    obtain ⟨place, isPlace⟩ : ∃ place, byteLength (c :: front) = place + 1 :=
      ⟨c.utf8Size - 1 + byteLength front, by have := c.utf8Size_pos; simp [byteLength]; omega⟩
    have reaches : c.utf8Size ≤ place + 1 := by simp [byteLength] at isPlace; omega
    have left : place + 1 - c.utf8Size = byteLength front := by simp [byteLength] at isPlace ⊢; omega
    rw [isPlace, List.cons_append, cutAt?, if_pos reaches, left, ih]
    rfl

theorem insertAt?_append (front added back : List Char) :
    insertAt? (byteLength front) added (front ++ back) = some (front ++ added ++ back) := by
  rw [insertAt?, cutAt?_append]
  rfl

theorem removeAt?_append (front back : List Char) :
    removeAt? (byteLength front) (front ++ back) = back.tail?.map (front ++ ·) := by
  rw [removeAt?, cutAt?_append]
  cases back <;> rfl

theorem removeBetween?_append (front middle back : List Char) :
    removeBetween? (byteLength front) (byteLength (front ++ middle)) (front ++ middle ++ back) =
      some (front ++ back) := by
  have inOrder : byteLength front ≤ byteLength (front ++ middle) := by
    rw [byteLength_append]
    exact Nat.le_add_right _ _
  rw [removeBetween?, cutAt?_append, List.append_assoc, cutAt?_append]
  exact if_pos inOrder

/-- Going back stops at the last character that is not wanted. -/
theorem backOver?_append (wanted : Char → Bool) (before behind : List Char) :
    backOver? wanted (before ++ behind) before.length = some (before.rdropWhile wanted).length := by
  induction before using List.reverseRecOn generalizing behind with
  | nil => rfl
  | append_singleton before c ih =>
    have last : (before ++ [c] ++ behind)[before.length]? = some c := by simp
    rw [List.length_append, List.length_singleton, backOver?, last]
    by_cases isWanted : wanted c
    · rw [List.rdropWhile_concat_pos _ _ _ isWanted, List.append_assoc]
      simpa [isWanted] using ih ([c] ++ behind)
    · rw [List.rdropWhile_concat_neg _ _ _ isWanted]
      simp [isWanted]

/-- Behind the end there is no character to look at. -/
theorem backOver?_of_length_lt (wanted : Char → Bool) {text : List Char} {place : Nat}
    (behind : text.length < place) : backOver? wanted text place = none := by
  obtain ⟨index, rfl⟩ : ∃ index, place = index + 1 := ⟨place - 1, by omega⟩
  rw [backOver?, List.getElem?_eq_none (by omega)]

/-- Whether a character belongs to the run that ends in another one. -/
def continues (last c : Char) : Bool :=
  !isBlank c && isKeyword c == isKeyword last

/-- The text without its last word, and the blanks behind it. -/
def withoutWord (text : List Char) : List Char :=
  let text := text.rdropWhile isBlank
  match text.getLast? with
  | none => []
  | some last => text.rdropWhile (continues last)

theorem withoutWord_of_blank {text : List Char} (blank : text.rdropWhile isBlank = []) :
    withoutWord text = [] := by
  rw [withoutWord, blank]
  rfl

section Word

variable {text kept : List Char} {last : Char} (word : text.rdropWhile isBlank = kept ++ [last])
include word

/-- The last character that is not blank belongs to its own run. -/
theorem continues_self : continues last last = true := by
  have nonempty : text.rdropWhile isBlank ≠ [] := by simp [word]
  have visible : ¬ isBlank last = true := by
    simpa [word] using List.rdropWhile_last_not isBlank text nonempty
  simp [continues, visible]

theorem withoutWord_of_word : withoutWord text = kept.rdropWhile (continues last) := by
  rw [withoutWord, word]
  simp [List.rdropWhile_concat_pos _ _ _ (continues_self word)]

end Word

theorem withoutWord_prefix (text : List Char) : withoutWord text <+: text := by
  unfold withoutWord
  dsimp only
  split
  · exact List.nil_prefix
  · exact (List.rdropWhile_prefix _ _).trans (List.rdropWhile_prefix _ _)

end Text

/-! ### Edits in place and edits of characters -/

namespace Prompt

variable (prompt : Prompt)

theorem before_append_behind : prompt.before ++ prompt.behind = prompt.input :=
  List.take_append_drop _ _

theorem insert?_eq (chars : List Char) : prompt.insert? chars = some (prompt.insert chars) := by
  have put := Text.insertAt?_append prompt.before chars prompt.behind
  rw [before_append_behind] at put
  rw [insert?, placeOf, ← before, put]
  rfl

theorem delete?_eq : prompt.delete? = some prompt.delete := by
  unfold delete? delete
  split_ifs with within
  · have removed := Text.removeAt?_append prompt.before prompt.behind
    obtain ⟨c, rest, isBehind⟩ : ∃ c rest, prompt.behind = c :: rest :=
      List.exists_cons_of_ne_nil fun isNil => by simp [behind] at isNil; omega
    rw [before_append_behind] at removed
    rw [placeOf, ← before, removed, isBehind]
    rfl
  · have isBehind : prompt.behind = [] := List.drop_eq_nil_of_le (Nat.le_of_not_lt within)
    have isBefore : prompt.before = prompt.input := List.take_of_length_le (Nat.le_of_not_lt within)
    simp [isBehind, isBefore]

theorem deleteToStart?_eq : prompt.deleteToStart? = some prompt.deleteToStart := by
  have removed := Text.removeBetween?_append [] prompt.before prompt.behind
  rw [List.nil_append, before_append_behind] at removed
  rw [deleteToStart?, placeOf, ← before]
  exact congrArg (Option.map _) removed

/-! ### What stands before the cursor -/

/-- Without the word, the text before the cursor is its own text without the last word. -/
theorem dropWord_reverse (text : List Char) :
    (dropWord text.reverse).reverse = Text.withoutWord text := by
  have backwards : text.reverse.dropWhile Text.isBlank = (text.rdropWhile Text.isBlank).reverse := by
    simp [List.rdropWhile]
  unfold dropWord
  rw [backwards]
  rcases List.eq_nil_or_concat' (text.rdropWhile Text.isBlank) with blank | ⟨kept, last, word⟩
  · rw [Text.withoutWord_of_blank blank, blank]
    rfl
  · rw [Text.withoutWord_of_word word, word, List.reverse_append]
    rfl

theorem deleteWord_eq (prompt : Prompt) :
    prompt.deleteWord = ⟨Text.withoutWord prompt.before ++ prompt.behind,
      (Text.withoutWord prompt.before).length⟩ := by
  rw [deleteWord, dropWord_reverse]

variable {prompt}

theorem length_before (within : prompt.cursor ≤ prompt.input.length) :
    prompt.before.length = prompt.cursor :=
  List.length_take_of_le within

/-- The place of a character in bytes is the length of what stands in front of it. -/
theorem placeOf_length {front back : List Char} (parts : front ++ back = prompt.input) :
    prompt.placeOf front.length = Text.byteLength front := by
  rw [placeOf, ← parts, List.take_left]

theorem backspace?_eq (within : prompt.cursor ≤ prompt.input.length) :
    prompt.backspace? = some prompt.backspace := by
  have length := length_before within
  rcases List.eq_nil_or_concat' prompt.before with atStart | ⟨kept, last, isBefore⟩
  · have start : prompt.cursor = 0 := by rw [← length, atStart, List.length_nil]
    rw [backspace?, backspace, if_pos start, start]
  · have place : prompt.cursor = kept.length + 1 := by simp [← length, isBefore]
    have parts : kept ++ last :: prompt.behind = prompt.input := by
      simpa [isBefore] using prompt.before_append_behind
    have removed := Text.removeAt?_append kept (last :: prompt.behind)
    rw [parts] at removed
    rw [backspace?, backspace, place, if_neg (Nat.succ_ne_zero _), isBefore]
    dsimp only
    rw [placeOf_length parts, removed, Nat.add_sub_cancel, List.take_left]
    rfl

theorem wordStart?_eq (within : prompt.cursor ≤ prompt.input.length) :
    prompt.wordStart? = some (Text.withoutWord prompt.before).length := by
  have blanks := Text.backOver?_append Text.isBlank prompt.before prompt.behind
  rw [before_append_behind, length_before within] at blanks
  rw [wordStart?, blanks]
  rcases List.eq_nil_or_concat' (prompt.before.rdropWhile Text.isBlank) with blank | ⟨kept, last, word⟩
  · rw [Text.withoutWord_of_blank blank, blank]
    rfl
  · obtain ⟨dropped, isBefore⟩ := List.rdropWhile_prefix Text.isBlank prompt.before
    have parts : kept ++ [last] ++ (dropped ++ prompt.behind) = prompt.input := by
      rw [← word, ← List.append_assoc, isBefore, before_append_behind]
    have found : prompt.input[kept.length]? = some last := by simp [← parts]
    have run := Text.backOver?_append (Text.continues last) (kept ++ [last]) (dropped ++ prompt.behind)
    rw [parts, List.rdropWhile_concat_pos _ _ _ (Text.continues_self word), List.length_append,
      List.length_singleton] at run
    rw [Text.withoutWord_of_word word, word, List.length_append, List.length_singleton]
    dsimp only
    rw [found]
    exact run

theorem deleteWord?_eq (within : prompt.cursor ≤ prompt.input.length) :
    prompt.deleteWord? = some prompt.deleteWord := by
  obtain ⟨middle, isBefore⟩ := Text.withoutWord_prefix prompt.before
  have parts := prompt.before_append_behind
  have removed := Text.removeBetween?_append (Text.withoutWord prompt.before) middle prompt.behind
  rw [isBefore, parts] at removed
  have cursorPlace : prompt.placeOf prompt.cursor = Text.byteLength prompt.before := rfl
  have cut : Text.withoutWord prompt.before ++ (middle ++ prompt.behind) = prompt.input := by
    rw [← List.append_assoc, isBefore, parts]
  rw [deleteWord?, wordStart?_eq within, deleteWord_eq]
  simp [cursorPlace, placeOf_length cut, removed]

/-! ### A cursor behind the end -/

/-- Whether a key looks at the characters before the cursor. -/
def LooksBack (prompt : Prompt) (key : Key) : Prop :=
  key.isCtrl 'w' = true ∨ (key.isCtrl 'h' = true ∨ key.code = .backspace) ∧ prompt.input ≠ []

instance (prompt : Prompt) (key : Key) : Decidable (prompt.LooksBack key) :=
  inferInstanceAs (Decidable (_ ∨ _))

theorem backspace?_of_length_lt (beyond : prompt.input.length < prompt.cursor) :
    prompt.backspace? = none := by
  obtain ⟨cursor, isCursor⟩ : ∃ cursor, prompt.cursor = cursor + 1 := ⟨prompt.cursor - 1, by omega⟩
  have place : prompt.placeOf cursor = Text.byteLength prompt.input := by
    rw [placeOf, List.take_of_length_le (by omega)]
  have removed := Text.removeAt?_append prompt.input []
  rw [List.append_nil] at removed
  rw [backspace?, isCursor]
  dsimp only
  rw [place, removed]
  rfl

theorem deleteWord?_of_length_lt (beyond : prompt.input.length < prompt.cursor) :
    prompt.deleteWord? = none := by
  rw [deleteWord?, wordStart?, Text.backOver?_of_length_lt Text.isBlank beyond]

theorem pressNamed?_eq (prompt : Prompt) (code : KeyCode) :
    prompt.pressNamed? code =
      if prompt.input.length < prompt.cursor ∧ code = .backspace ∧ prompt.input ≠ [] then none
      else some (prompt.pressNamed code) := by
  cases code with
  | backspace =>
    unfold pressNamed? pressNamed
    by_cases empty : prompt.input = []
    · simp [empty]
    · by_cases beyond : prompt.input.length < prompt.cursor
      · simp [empty, beyond, backspace?_of_length_lt beyond]
      · simp [empty, beyond, backspace?_eq (Nat.le_of_not_lt beyond)]
  | delete => simp [pressNamed?, pressNamed, delete?_eq]
  | tab => simp [pressNamed?, pressNamed, insert?_eq]
  | _ => simp [pressNamed?]

/-- A key has no result just if it looks back from a cursor behind the end. Otherwise its edits in place are
those of the characters before and behind the cursor. -/
theorem press?_eq (prompt : Prompt) (key : Key) :
    prompt.press? key =
      if prompt.input.length < prompt.cursor ∧ prompt.LooksBack key then none
      else some (prompt.press key) := by
  have notNamed {c : Char} (ctrl : key.isCtrl c = true) : key.code ≠ .backspace := by
    intro named
    simp [Key.isCtrl, named] at ctrl
  unfold press? press LooksBack
  by_cases toStart : key.isCtrl 'u' = true
  · have noWord : key.isCtrl 'w' = false := Key.isCtrl_of_ne toStart (by decide)
    have noBack : key.isCtrl 'h' = false := Key.isCtrl_of_ne toStart (by decide)
    simp [toStart, noWord, noBack, notNamed toStart, deleteToStart?_eq]
  by_cases word : key.isCtrl 'w' = true
  · by_cases beyond : prompt.input.length < prompt.cursor
    · simp [toStart, word, beyond, deleteWord?_of_length_lt beyond]
    · simp [toStart, word, beyond, deleteWord?_eq (Nat.le_of_not_lt beyond)]
  by_cases cancel : key.isCtrl 'c' = true
  · have noBack : key.isCtrl 'h' = false := Key.isCtrl_of_ne cancel (by decide)
    simp [toStart, word, cancel, noBack, notNamed cancel]
  by_cases back : key.isCtrl 'h' = true
  · simp [toStart, word, cancel, back, pressNamed?_eq]
  · cases printed : key.printable? with
    | none => simp [toStart, word, cancel, back, pressNamed?_eq]
    | some c =>
      have notNamed : key.code ≠ .backspace := by
        intro named
        simp [Key.printable?, named] at printed
      simp [toStart, word, cancel, back, notNamed, insert?_eq]

/-- Only a key that looks back from a cursor behind the end stops a run of calls. -/
theorem call?_eq_none_iff {call : PromptCall} :
    prompt.call? call = none ↔
      prompt.input.length < prompt.cursor ∧ ∃ key, call = .press key ∧ prompt.LooksBack key := by
  cases call with
  | press key =>
    rw [call?, press?_eq]
    split_ifs with stuck
    · exact ⟨fun _ => ⟨stuck.1, key, rfl, stuck.2⟩, fun _ => rfl⟩
    · simpa using stuck
  | insert chars => simp [call?, insert?_eq]

theorem callAll?_append (prompt : Prompt) (first rest : List PromptCall) :
    prompt.callAll? (first ++ rest) =
      (prompt.callAll? first).bind fun (prompt, events) =>
        (prompt.callAll? rest).map fun (prompt, more) => (prompt, events ++ more) := by
  induction first generalizing prompt with
  | nil => simp [callAll?]
  | cons call first ih =>
    rw [List.cons_append, callAll?, callAll?]
    cases prompt.call? call with
    | none => rfl
    | some answer => simp [ih, Option.map_bind, Option.bind_map, Function.comp_def]

theorem callAll?_append_one (first : List PromptCall) (call : PromptCall) :
    prompt.callAll? (first ++ [call]) =
      (prompt.callAll? first).bind fun (prompt, events) =>
        (prompt.call? call).map fun (prompt, more) => (prompt, events ++ more) := by
  rw [callAll?_append]
  refine congrArg (Option.bind _) (funext fun (reached, events) => ?_)
  cases answer : reached.call? call <;> simp [callAll?, answer]

/-- What stops a run of calls, at the first of them that has no result. -/
theorem callAll?_eq_none_iff {calls : List PromptCall} :
    prompt.callAll? calls = none ↔
      ∃ before key reached events, before ++ [.press key] <+: calls ∧
        prompt.callAll? before = some (reached, events) ∧
        reached.input.length < reached.cursor ∧ reached.LooksBack key := by
  constructor
  · induction calls using List.reverseRecOn with
    | nil => simp [callAll?]
    | append_singleton calls call ih =>
      intro stops
      rw [callAll?_append_one, Option.bind_eq_none_iff] at stops
      cases ran : prompt.callAll? calls with
      | none =>
        obtain ⟨before, key, reached, events, along, rest⟩ := ih ran
        exact ⟨before, key, reached, events, along.trans (List.prefix_append _ _), rest⟩
      | some answer =>
        have stuck := Option.map_eq_none_iff.mp (stops answer ran)
        obtain ⟨beyond, key, rfl, looks⟩ := call?_eq_none_iff.mp stuck
        exact ⟨calls, key, answer.1, answer.2, List.prefix_refl _, ran, beyond, looks⟩
  · rintro ⟨before, key, reached, events, ⟨rest, rfl⟩, ran, beyond, looks⟩
    have stuck : reached.call? (.press key) = none := call?_eq_none_iff.mpr ⟨beyond, key, rfl, looks⟩
    rw [callAll?_append, callAll?_append_one, ran, Option.bind_some]
    dsimp only
    rw [stuck]
    rfl

end Prompt

/-! ### A line in two halves -/

/-- A line being typed: the text before the cursor, and the text behind it. -/
structure Halves where
  before : List Char
  behind : List Char := []
deriving DecidableEq

namespace Halves

variable (halves : Halves)

def line : List Char :=
  halves.before ++ halves.behind

def insert (chars : List Char) : Halves :=
  { halves with before := halves.before ++ chars }

def backspace : Halves :=
  { halves with before := halves.before.dropLast }

def delete : Halves :=
  { halves with behind := halves.behind.tail }

def deleteToStart : Halves :=
  { halves with before := [] }

def deleteWord : Halves :=
  { halves with before := Text.withoutWord halves.before }

/-- Takes the cursor over the character before it. -/
def left : Halves :=
  match halves.before.getLast? with
  | none => halves
  | some c => ⟨halves.before.dropLast, c :: halves.behind⟩

/-- Takes the cursor over the character behind it. -/
def right : Halves :=
  match halves.behind with
  | [] => halves
  | c :: behind => ⟨halves.before ++ [c], behind⟩

/-- What a key that types nothing does. A line that is submitted leaves an empty one. -/
def pressNamed : KeyCode → Halves × PromptEvent
  | .enter => (⟨[], []⟩, .submitted halves.line)
  | .escape => (halves, .cancelled)
  | .backspace => if halves.line = [] then (halves, .cancelled) else (halves.backspace, .edited)
  | .delete => (halves.delete, .edited)
  | .left => (halves.left, .edited)
  | .right => (halves.right, .edited)
  | .home => (⟨[], halves.line⟩, .edited)
  | .end => (⟨halves.line, []⟩, .edited)
  | .tab => (halves.insert ['\t'], .edited)
  | _ => (halves, .ignored)

def press (key : Key) : Halves × PromptEvent :=
  if key.isCtrl 'u' then (halves.deleteToStart, .edited)
  else if key.isCtrl 'w' then (halves.deleteWord, .edited)
  else if key.isCtrl 'c' then (halves, .cancelled)
  else if key.isCtrl 'h' then halves.pressNamed .backspace
  else
    match key.printable? with
    | some c => (halves.insert [c], .edited)
    | none => halves.pressNamed key.code

def call : PromptCall → Halves × List PromptEvent
  | .press key => ((halves.press key).1, [(halves.press key).2])
  | .insert chars => (halves.insert chars, [])

/-- What calls do, one after the other, and the events of their keys. -/
def callAll (calls : List PromptCall) : Halves × List PromptEvent :=
  calls.foldl (fun (halves, events) call =>
    ((halves.call call).1, events ++ (halves.call call).2)) (halves, [])

/-- The prompt that shows the line. -/
def toPrompt : Prompt :=
  ⟨halves.line, halves.before.length⟩

@[simp]
theorem before_toPrompt : halves.toPrompt.before = halves.before :=
  List.take_left

@[simp]
theorem behind_toPrompt : halves.toPrompt.behind = halves.behind :=
  List.drop_left

theorem cursor_le_length_toPrompt : halves.toPrompt.cursor ≤ halves.toPrompt.input.length := by
  simp [toPrompt, line]

/-! ### The same edits on both sides -/

theorem insert_toPrompt (chars : List Char) :
    halves.toPrompt.insert chars = (halves.insert chars).toPrompt := by
  rw [Prompt.insert, before_toPrompt, behind_toPrompt]
  simp [toPrompt, line, insert]

theorem backspace_toPrompt : halves.toPrompt.backspace = halves.backspace.toPrompt := by
  unfold Prompt.backspace backspace
  split_ifs with start
  · have empty : halves.before = [] := List.length_eq_zero_iff.mp start
    simp [toPrompt, line, empty]
  · simp [toPrompt, line, Prompt.behind, Prompt.before, List.dropLast_eq_take]

theorem delete_toPrompt : halves.toPrompt.delete = halves.delete.toPrompt := by
  rw [Prompt.delete, before_toPrompt, behind_toPrompt, List.drop_one]
  rfl

theorem deleteToStart_toPrompt :
    halves.toPrompt.deleteToStart = halves.deleteToStart.toPrompt := by
  rw [Prompt.deleteToStart, behind_toPrompt]
  rfl

theorem deleteWord_toPrompt : halves.toPrompt.deleteWord = halves.deleteWord.toPrompt := by
  rw [Prompt.deleteWord_eq, before_toPrompt, behind_toPrompt]
  rfl

theorem toPrompt_left : halves.left.toPrompt =
    { halves.toPrompt with cursor := halves.toPrompt.cursor - 1 } := by
  obtain ⟨before, behind⟩ := halves
  cases before using List.reverseRecOn with
  | nil => rfl
  | append_singleton before c => simp [left, toPrompt, line]

theorem toPrompt_right : halves.right.toPrompt =
    if halves.toPrompt.cursor < halves.toPrompt.input.length then
      { halves.toPrompt with cursor := halves.toPrompt.cursor + 1 }
    else halves.toPrompt := by
  obtain ⟨before, behind⟩ := halves
  cases behind with
  | nil => simp [right, toPrompt, line]
  | cons c behind => simp [right, toPrompt, line]

/-- A key that types nothing goes the same way on both sides, unless it submits from behind the start. -/
theorem pressNamed_toPrompt {code : KeyCode} (fresh : code = .enter → halves.before = []) :
    halves.toPrompt.pressNamed code =
      ((halves.pressNamed code).1.toPrompt, (halves.pressNamed code).2) := by
  cases code with
  | enter => simp [Prompt.pressNamed, pressNamed, toPrompt, line, fresh rfl]
  | backspace =>
    unfold Prompt.pressNamed pressNamed
    by_cases empty : halves.line = []
    · simp [toPrompt, empty]
    · simp [backspace_toPrompt, empty, show halves.toPrompt.input = halves.line from rfl]
  | delete => simp [Prompt.pressNamed, pressNamed, delete_toPrompt]
  | left => simp [Prompt.pressNamed, pressNamed, toPrompt_left]
  | right => simp [Prompt.pressNamed, pressNamed, toPrompt_right]
  | home => rfl
  | «end» => simp [Prompt.pressNamed, pressNamed, toPrompt, line]
  | tab => simp [Prompt.pressNamed, pressNamed, insert_toPrompt]
  | _ => rfl

theorem press_toPrompt {key : Key} (fresh : key.code = .enter → halves.before = []) :
    halves.toPrompt.press key = ((halves.press key).1.toPrompt, (halves.press key).2) := by
  unfold Prompt.press press
  split_ifs
  · rw [deleteToStart_toPrompt]
  · rw [deleteWord_toPrompt]
  · rfl
  · exact halves.pressNamed_toPrompt nofun
  · cases key.printable? with
    | none => exact halves.pressNamed_toPrompt fresh
    | some c => simp only [insert_toPrompt]

/-! ### Calls, one after the other -/

theorem callAll_append_one (calls : List PromptCall) (call : PromptCall) :
    halves.callAll (calls ++ [call]) =
      (((halves.callAll calls).1.call call).1,
        (halves.callAll calls).2 ++ ((halves.callAll calls).1.call call).2) := by
  simp [callAll]

/-- One call: while the cursor is within the text, every key has its result. -/
theorem call?_toPrompt {call : PromptCall}
    (fresh : ∀ key, call = .press key → key.code = .enter → halves.before = []) :
    halves.toPrompt.call? call = some ((halves.call call).1.toPrompt, (halves.call call).2) := by
  cases call with
  | press key =>
    have within : ¬ (halves.toPrompt.input.length < halves.toPrompt.cursor ∧
        halves.toPrompt.LooksBack key) :=
      fun stuck => Nat.not_lt.mpr halves.cursor_le_length_toPrompt stuck.1
    rw [Prompt.call?, Prompt.press?_eq, if_neg within, halves.press_toPrompt (fresh key rfl)]
    rfl
  | insert chars =>
    rw [Prompt.call?, Prompt.insert?_eq, insert_toPrompt]
    rfl

/-- What is submitted is taken out, and the cursor is not. -/
theorem call?_enter_toPrompt {key : Key} (enter : key.code = .enter) :
    halves.toPrompt.call? (.press key) =
      some (⟨[], halves.before.length⟩, [.submitted halves.line]) := by
  have looksNot : ¬ halves.toPrompt.LooksBack key := by
    simp [Prompt.LooksBack, Key.isCtrl, enter]
  rw [Prompt.call?, Prompt.press?_eq, if_neg (fun stuck => looksNot stuck.2)]
  simp [Prompt.press, Prompt.pressNamed, Key.isCtrl, Key.printable?, enter, toPrompt]

theorem call_enter {key : Key} (enter : key.code = .enter) :
    halves.call (.press key) = (⟨[], []⟩, [.submitted halves.line]) := by
  simp [call, press, pressNamed, Key.isCtrl, Key.printable?, enter]

end Halves

namespace Prompt

/-- The prompt has gone along with the line in two halves: every call had its result, the cursor is within
the text, and text, cursor and events are those of the halves. -/
def GoesAlong (text : List Char) (calls : List PromptCall) : Prop :=
  let (halves, events) := (Halves.mk text []).callAll calls
  ∃ prompt, (ofChars text).callAll? calls = some (prompt, events) ∧
    prompt.cursor ≤ prompt.input.length ∧
    prompt.input = halves.before ++ halves.behind ∧ prompt.cursor = halves.before.length

theorem goesAlong_iff {text : List Char} {calls : List PromptCall} :
    GoesAlong text calls ↔
      (ofChars text).callAll? calls =
        some (((Halves.mk text []).callAll calls).1.toPrompt, ((Halves.mk text []).callAll calls).2) := by
  constructor
  · rintro ⟨⟨input, cursor⟩, ran, -, rfl, rfl⟩
    exact ran
  · intro ran
    exact ⟨_, ran, Halves.cursor_le_length_toPrompt _, rfl, rfl⟩

theorem goesAlong_nil (text : List Char) : GoesAlong text [] := by
  refine goesAlong_iff.mpr ?_
  simp [callAll?, Halves.callAll, Halves.toPrompt, Halves.line, ofChars]

/-- One more call goes along, unless it submits a line with the cursor behind its start. -/
theorem goesAlong_append_one_iff {text : List Char} {calls : List PromptCall} {call : PromptCall}
    (along : GoesAlong text calls) :
    GoesAlong text (calls ++ [call]) ↔
      ∀ key, call = .press key → key.code = .enter → ((Halves.mk text []).callAll calls).1.before = [] := by
  rw [goesAlong_iff] at along ⊢
  rw [callAll?_append_one, along, Option.bind_some, Halves.callAll_append_one]
  generalize (Halves.mk text []).callAll calls = reached
  obtain ⟨halves, events⟩ := reached
  dsimp only
  constructor
  · rintro together key rfl enter
    rw [halves.call?_enter_toPrompt enter, halves.call_enter enter] at together
    have same : halves.before.length = 0 :=
      congrArg (fun answer => answer.1.cursor) (Option.some.inj together)
    exact List.length_eq_zero_iff.mp same
  · intro fresh
    rw [halves.call?_toPrompt fresh]
    rfl

/-- From a text with the cursor at its end, and so from an empty prompt too: the prompt goes along with the
line in two halves all the time, just if no line is submitted with the cursor behind its start. The first
such line leaves a cursor behind the end of an empty text. -/
theorem goesAlong_throughout_iff (text : List Char) (calls : List PromptCall) :
    (∀ before, before <+: calls → GoesAlong text before) ↔
      ∀ before key, before ++ [.press key] <+: calls → key.code = .enter →
        ((Halves.mk text []).callAll before).1.before = [] := by
  constructor
  · intro along before key isPrefix enter
    have earlier : before <+: calls := (List.prefix_append _ _).trans isPrefix
    exact (goesAlong_append_one_iff (along before earlier)).mp (along _ isPrefix) key rfl enter
  · intro fresh before
    induction before using List.reverseRecOn with
    | nil => exact fun _ => goesAlong_nil text
    | append_singleton before call ih =>
      intro isPrefix
      have earlier : before <+: calls := (List.prefix_append _ _).trans isPrefix
      refine (goesAlong_append_one_iff (ih earlier)).mpr ?_
      rintro key rfl enter
      exact fresh before key isPrefix enter

/-- A submitted line leaves the cursor behind an empty text, where no word is found to delete. -/
example :
    let typed := [.press (.ofChar 'a'), .press (.ofChar 'b'), .press (.named .enter)]
    (ofChars []).callAll? typed = some (⟨[], 2⟩, [.edited, .edited, .submitted ['a', 'b']]) ∧
      (ofChars []).callAll? (typed ++ [.press (.ctrl 'w')]) = none := by
  decide

end Prompt

end ModalEdit

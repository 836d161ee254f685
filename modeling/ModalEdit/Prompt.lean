import ModalEdit.Document.Word
import ModalEdit.Key

/-!
The command line being typed: a text with a cursor.
-/

set_option autoImplicit false

namespace ModalEdit

/-- The text of the prompt without its colon, and the number of characters before the cursor. -/
structure Prompt where
  input : List Char := []
  cursor : Nat := 0
deriving DecidableEq, Inhabited

/-- What a key did to the prompt. -/
inductive PromptEvent where
  | edited
  | submitted (line : List Char)
  | cancelled
  /-- The key means nothing to the prompt. -/
  | ignored
deriving DecidableEq, Inhabited

namespace Prompt

/-- A prompt that is filled in already, with the cursor at the end. -/
def ofChars (input : List Char) : Prompt :=
  ⟨input, input.length⟩

/-- The text before the cursor. -/
def before (prompt : Prompt) : List Char :=
  prompt.input.take prompt.cursor

/-- The text behind the cursor. -/
def behind (prompt : Prompt) : List Char :=
  prompt.input.drop prompt.cursor

/-- Types text at the cursor. -/
def insert (prompt : Prompt) (chars : List Char) : Prompt :=
  ⟨prompt.before ++ chars ++ prompt.behind, prompt.cursor + chars.length⟩

/-- Deletes the character before the cursor. -/
def backspace (prompt : Prompt) : Prompt :=
  if prompt.cursor = 0 then prompt
  else ⟨prompt.before.take (prompt.cursor - 1) ++ prompt.behind, prompt.cursor - 1⟩

/-- Deletes the character behind the cursor. -/
def delete (prompt : Prompt) : Prompt :=
  { prompt with input := prompt.before ++ prompt.behind.drop 1 }

/-- Deletes all before the cursor. -/
def deleteToStart (prompt : Prompt) : Prompt :=
  ⟨prompt.behind, 0⟩

/-- Text, last character first, without the blanks it starts with and the run of keyword or other
characters behind them. -/
def dropWord (chars : List Char) : List Char :=
  match chars.dropWhile Text.isBlank with
  | [] => []
  | c :: rest => rest.dropWhile fun d => !Text.isBlank d && isKeyword d == isKeyword c

/-- Deletes the word before the cursor, and the blanks behind it. -/
def deleteWord (prompt : Prompt) : Prompt :=
  let kept := (dropWord prompt.before.reverse).reverse
  ⟨kept ++ prompt.behind, kept.length⟩

/-- What a key that types nothing does. -/
def pressNamed (prompt : Prompt) : KeyCode → Prompt × PromptEvent
  | .enter => ({ prompt with input := [] }, .submitted prompt.input)
  | .escape => (prompt, .cancelled)
  | .backspace =>
    if prompt.input = [] then (prompt, .cancelled) else (prompt.backspace, .edited)
  | .delete => (prompt.delete, .edited)
  | .left => ({ prompt with cursor := prompt.cursor - 1 }, .edited)
  | .right =>
    (if prompt.cursor < prompt.input.length then { prompt with cursor := prompt.cursor + 1 }
      else prompt, .edited)
  | .home => ({ prompt with cursor := 0 }, .edited)
  | .end => ({ prompt with cursor := prompt.input.length }, .edited)
  | .tab => (prompt.insert ['\t'], .edited)
  | _ => (prompt, .ignored)

/-- What a key does to the prompt. -/
def press (prompt : Prompt) (key : Key) : Prompt × PromptEvent :=
  if key.isCtrl 'u' then (prompt.deleteToStart, .edited)
  else if key.isCtrl 'w' then (prompt.deleteWord, .edited)
  else if key.isCtrl 'c' then (prompt, .cancelled)
  else if key.isCtrl 'h' then prompt.pressNamed .backspace
  else
    match key.printable? with
    | some c => (prompt.insert [c], .edited)
    | none => prompt.pressNamed key.code

end Prompt

/-! ### Editing in place

The text is kept in UTF-8, where places are counted in bytes, while the cursor counts characters. What reaches
behind the end of the text, or between the bytes of a character, has no result. -/

namespace Text

/-- The number of bytes that a text takes in UTF-8. -/
def byteLength : List Char → Nat
  | [] => 0
  | c :: rest => c.utf8Size + byteLength rest

/-- Cuts a text at a place counted in bytes. Behind its end and inside a character there is no cut. -/
def cutAt? : Nat → List Char → Option (List Char × List Char)
  | 0, text => some ([], text)
  | _ + 1, [] => none
  | place + 1, c :: rest =>
    if c.utf8Size ≤ place + 1 then
      (cutAt? (place + 1 - c.utf8Size) rest).map fun (front, back) => (c :: front, back)
    else none

/-- The text with more put in at a place. -/
def insertAt? (place : Nat) (added text : List Char) : Option (List Char) :=
  (cutAt? place text).map fun (front, back) => front ++ added ++ back

/-- The text without the character at a place. There has to be one. -/
def removeAt? (place : Nat) (text : List Char) : Option (List Char) :=
  match cutAt? place text with
  | some (front, _ :: back) => some (front ++ back)
  | _ => none

/-- The text without the part between two places, which have to be in order. -/
def removeBetween? (start stop : Nat) (text : List Char) : Option (List Char) :=
  match cutAt? start text, cutAt? stop text with
  | some (front, _), some (_, back) => if start ≤ stop then some (front ++ back) else none
  | _, _ => none

/-- Goes back from a character over those before it that are as wanted, and looks at each of them. -/
def backOver? (wanted : Char → Bool) (text : List Char) : Nat → Option Nat
  | 0 => some 0
  | index + 1 =>
    match text[index]? with
    | none => none
    | some c => if wanted c then backOver? wanted text index else some (index + 1)

end Text

/-- What is asked of a prompt. -/
inductive PromptCall where
  | press (key : Key)
  /-- Text from a register, or a character that several keys make up. -/
  | insert (chars : List Char)
deriving DecidableEq

namespace Prompt

/-- The place in bytes of a character, or of the end where there is none. -/
def placeOf (prompt : Prompt) (index : Nat) : Nat :=
  Text.byteLength (prompt.input.take index)

/-- Types text at the cursor. -/
def insert? (prompt : Prompt) (chars : List Char) : Option Prompt :=
  (Text.insertAt? (prompt.placeOf prompt.cursor) chars prompt.input).map
    (⟨·, prompt.cursor + chars.length⟩)

/-- Deletes the character before the cursor. -/
def backspace? (prompt : Prompt) : Option Prompt :=
  match prompt.cursor with
  | 0 => some prompt
  | cursor + 1 => (Text.removeAt? (prompt.placeOf cursor) prompt.input).map (⟨·, cursor⟩)

/-- Deletes the character behind the cursor. -/
def delete? (prompt : Prompt) : Option Prompt :=
  if prompt.cursor < prompt.input.length then
    (Text.removeAt? (prompt.placeOf prompt.cursor) prompt.input).map (⟨·, prompt.cursor⟩)
  else some prompt

/-- Deletes all before the cursor. -/
def deleteToStart? (prompt : Prompt) : Option Prompt :=
  (Text.removeBetween? 0 (prompt.placeOf prompt.cursor) prompt.input).map (⟨·, 0⟩)

/-- Where the word before the cursor starts: behind blanks, a run of keyword or of other characters. -/
def wordStart? (prompt : Prompt) : Option Nat :=
  match Text.backOver? Text.isBlank prompt.input prompt.cursor with
  | none => none
  | some 0 => some 0
  | some (index + 1) =>
    match prompt.input[index]? with
    | none => none
    | some last =>
      Text.backOver? (fun c => !Text.isBlank c && isKeyword c == isKeyword last) prompt.input (index + 1)

/-- Deletes the word before the cursor, and the blanks behind it. -/
def deleteWord? (prompt : Prompt) : Option Prompt :=
  match prompt.wordStart? with
  | none => none
  | some start =>
    (Text.removeBetween? (prompt.placeOf start) (prompt.placeOf prompt.cursor) prompt.input).map (⟨·, start⟩)

/-- What a key that types nothing does. Only those that edit look for a place in the text. -/
def pressNamed? (prompt : Prompt) (code : KeyCode) : Option (Prompt × PromptEvent) :=
  match code with
  | .backspace =>
    if prompt.input = [] then some (prompt, .cancelled) else prompt.backspace?.map (·, .edited)
  | .delete => prompt.delete?.map (·, .edited)
  | .tab => (prompt.insert? ['\t']).map (·, .edited)
  | code => some (prompt.pressNamed code)

/-- What a key does to the prompt. -/
def press? (prompt : Prompt) (key : Key) : Option (Prompt × PromptEvent) :=
  if key.isCtrl 'u' then prompt.deleteToStart?.map (·, .edited)
  else if key.isCtrl 'w' then prompt.deleteWord?.map (·, .edited)
  else if key.isCtrl 'c' then some (prompt, .cancelled)
  else if key.isCtrl 'h' then prompt.pressNamed? .backspace
  else
    match key.printable? with
    | some c => (prompt.insert? [c]).map (·, .edited)
    | none => prompt.pressNamed? key.code

/-- Answers a call. Text that is put in has no event of its own. -/
def call? (prompt : Prompt) : PromptCall → Option (Prompt × List PromptEvent)
  | .press key => (prompt.press? key).map fun (prompt, event) => (prompt, [event])
  | .insert chars => (prompt.insert? chars).map (·, [])

/-- Answers calls, one after the other, and collects the events of the keys. -/
def callAll? (prompt : Prompt) : List PromptCall → Option (Prompt × List PromptEvent)
  | [] => some (prompt, [])
  | call :: rest =>
    match prompt.call? call with
    | none => none
    | some (prompt, events) =>
      (callAll? prompt rest).map fun (prompt, more) => (prompt, events ++ more)

end Prompt

end ModalEdit

import ModalEdit.Key
import ModalEdit.Number.Counting

/-!
Keys written as text: characters stand for themselves, and named or modified keys are written
between angle brackets. An angle bracket that opens no key stands for itself.
-/

set_option autoImplicit false

namespace ModalEdit

namespace Key

/-- The names that brackets accept, in lower case. -/
def names : List (String × KeyCode) := [
  ("esc", .escape), ("cr", .enter), ("enter", .enter), ("return", .enter), ("nl", .enter),
  ("tab", .tab), ("bs", .backspace), ("backspace", .backspace), ("del", .delete),
  ("delete", .delete), ("insert", .insert), ("ins", .insert), ("up", .up), ("down", .down),
  ("left", .left), ("right", .right), ("home", .home), ("end", .end), ("pageup", .pageUp),
  ("pagedown", .pageDown), ("space", .char ' '), ("lt", .char '<'), ("bar", .char '|'),
  ("bslash", .char '\\')]

/-- The modifier that a letter stands for. -/
def modifierOf? (c : Char) : Option Modifiers :=
  match c.toLower with
  | 'c' => some { ctrl := true }
  | 's' => some { shift := true }
  | 'a' => some { alt := true }
  | 'm' => some { metaKey := true }
  | _ => none

/-- Reads the modifiers in front of a name. A dash at the very end is the minus key. -/
def splitModifiers? : List Char → Option (Modifiers × List Char)
  | c :: '-' :: next :: rest => do
    let held ← modifierOf? c
    let (others, name) ← splitModifiers? (next :: rest)
    return (held.union others, name)
  | name => some (.none, name)

/-- The number of a function key, written with any zeros in front and at most one plus. -/
def functionNumber? (digits : List Char) : Option Nat :=
  let digits := match digits with
    | '+' :: rest => rest
    | _ => digits
  let number := Number.countOfDigits digits
  if !digits.isEmpty && digits.all Char.isDigit && 1 ≤ number && number ≤ 35 then some number
  else none

/-- A key code with a name of its own: a listed name or a function key. -/
def namedCode? (name : List Char) : Option KeyCode :=
  let lower := name.map Char.toLower
  match names.lookup (String.ofList lower) with
  | some code => some code
  | none =>
    match lower with
    | 'f' :: digits => (functionNumber? digits).map .function
    | _ => none

/-- The key that the text between two brackets names. -/
def ofBracketed? (inner : List Char) : Option Key := do
  let (modifiers, name) ← splitModifiers? inner
  match namedCode? name with
  | some code => return ⟨code, modifiers⟩
  | none =>
    match name with
    | [c] =>
      if modifiers = .none then none
      else if modifiers.ctrl then return ⟨.char c.toLower, modifiers⟩
      else return ⟨.char c, modifiers⟩
    | _ => none

/-- Reads a bracketed key, given what follows the opening bracket. -/
def readBracketed? (text : List Char) : Option (Key × List Char) :=
  match text.dropWhile (· != '>') with
  | _ :: rest => (ofBracketed? (text.takeWhile (· != '>'))).map (·, rest)
  | [] => none

theorem length_readBracketed? {text rest : List Char} {key : Key}
    (h : readBracketed? text = some (key, rest)) : rest.length < text.length := by
  have hdrop := (List.dropWhile_suffix (l := text) (· != '>')).length_le
  unfold readBracketed? at h
  split at h
  · rename_i c tail heq
    simp only [Option.map_eq_some_iff] at h
    obtain ⟨_, _, hpair⟩ := h
    rw [heq] at hdrop
    simp only [Prod.mk.injEq] at hpair
    simp only [List.length_cons] at hdrop
    rw [← hpair.2]
    omega
  · simp at h

/-- Reads the first key of a text that starts with `c`. -/
def readOne (c : Char) (text : List Char) : Key × List Char :=
  if c = '<' then (readBracketed? text).getD (ofChar c, text) else (ofChar c, text)

theorem length_readOne (c : Char) (text : List Char) :
    (readOne c text).2.length ≤ text.length := by
  unfold readOne
  split
  · cases h : readBracketed? text with
    | none => simp
    | some pair => simpa using Nat.le_of_lt (@length_readBracketed? text pair.2 pair.1 h)
  · simp

/-- Reads a text as keys. -/
def readAll : List Char → List Key
  | [] => []
  | c :: text => (readOne c text).1 :: readAll (readOne c text).2
termination_by text => text.length
decreasing_by exact Nat.lt_succ_of_le (length_readOne c text)

/-- The modifiers as they are written in front of a name. -/
def modifierText (modifiers : Modifiers) : String :=
  (if modifiers.ctrl then "C-" else "") ++ (if modifiers.shift then "S-" else "")
    ++ (if modifiers.alt then "A-" else "") ++ (if modifiers.metaKey then "M-" else "")

/-- The written name of a key code, and whether it needs brackets even without modifiers. -/
def codeText : KeyCode → String × Bool
  | .char ' ' => ("Space", true)
  | .char '<' => ("lt", true)
  | .char '|' => ("Bar", true)
  | .char c => (c.toString, false)
  | .enter => ("CR", true)
  | .tab => ("Tab", true)
  | .backspace => ("BS", true)
  | .escape => ("Esc", true)
  | .delete => ("Del", true)
  | .insert => ("Insert", true)
  | .up => ("Up", true)
  | .down => ("Down", true)
  | .left => ("Left", true)
  | .right => ("Right", true)
  | .home => ("Home", true)
  | .end => ("End", true)
  | .pageUp => ("PageUp", true)
  | .pageDown => ("PageDown", true)
  | .function number => (s!"F{number}", true)

/-- The written form of a key. -/
def spell (key : Key) : String :=
  let (name, bracketed) := codeText key.code
  if bracketed || key.modifiers != .none then
    "<" ++ modifierText key.modifiers ++ name ++ ">"
  else name

/-- The written form of keys, one after the other. -/
def spellAll (keys : List Key) : String :=
  String.join (keys.map spell)

/-- Reads a string as keys. -/
def ofString (text : String) : List Key :=
  readAll text.toList

end Key

end ModalEdit

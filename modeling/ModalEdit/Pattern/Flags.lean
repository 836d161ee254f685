import ModalEdit.Pattern.Regex
import ModalEdit.Pattern.Symbol

/-!
The switches of a pattern, which decide what its symbols match.
-/

set_option autoImplicit false

namespace ModalEdit.Pattern

/-- The switches in force. -/
structure Flags where
  ignoreCase : Bool := false
  multiLine : Bool := false
  dotMatchesBreak : Bool := false
  swapGreed : Bool := false
  unicode : Bool := true
  carriageReturn : Bool := false
  verbose : Bool := false
deriving DecidableEq, Inhabited

namespace Flags

/-- The switches with one of them set or cleared. -/
def set (flags : Flags) (letter : Char) (on : Bool) : Option Flags :=
  match letter with
  | 'i' => some { flags with ignoreCase := on }
  | 'm' => some { flags with multiLine := on }
  | 's' => some { flags with dotMatchesBreak := on }
  | 'U' => some { flags with swapGreed := on }
  | 'u' => some { flags with unicode := on }
  | 'R' => some { flags with carriageReturn := on }
  | 'x' => some { flags with verbose := on }
  | _ => none

/-- The set with the other cases of its characters, if case is ignored. -/
def fold (flags : Flags) (set : CharSet) : CharSet :=
  if !flags.ignoreCase then set
  else if flags.unicode then set.fold
  else set.foldAscii

/-- What is not in the set. Without Unicode there is no such set. -/
def complement (flags : Flags) (negated : Bool) (set : CharSet) : Option CharSet :=
  if !negated then some set
  else if flags.unicode then some set.compl
  else none

/-- A character on its own, with its other cases if case is ignored. -/
def literal (flags : Flags) (c : Char) : Regex :=
  if !flags.ignoreCase then .char c
  else if flags.unicode then .ofSet (.ofChars (c :: Text.foldVariants c))
  else .ofSet (CharSet.single c).foldAscii

/-- The class that a shorthand symbol names. -/
def shorthand? (flags : Flags) : Symbol → Option (Option CharSet)
  | .digit negated =>
    some (flags.complement negated (if flags.unicode then .digit else .range '0' '9'))
  | .blank negated =>
    some (flags.complement negated
      (if flags.unicode then .blank else .ofCharRanges [('\t', '\r'), (' ', ' ')]))
  | .word negated =>
    some (flags.complement negated
      (if flags.unicode then .word
        else .ofCharRanges [('0', '9'), ('A', 'Z'), ('_', '_'), ('a', 'z')]))
  | _ => none

/-- What a point matches: any character, or any but those that break lines. -/
def dot? (flags : Flags) : Option CharSet :=
  if !flags.unicode then none
  else if flags.dotMatchesBreak then some CharSet.none.compl
  else if flags.carriageReturn then some (CharSet.ofChars ['\r', '\n']).compl
  else some (CharSet.single '\n').compl

/-- The start of a line or of the text. -/
def lineStart (flags : Flags) : Look :=
  if !flags.multiLine then .textStart
  else if flags.carriageReturn then .returnLineStart
  else .lineStart

/-- The end of a line or of the text. -/
def lineEnd (flags : Flags) : Look :=
  if !flags.multiLine then .textEnd
  else if flags.carriageReturn then .returnLineEnd
  else .lineEnd

end Flags

/-- Fewer symbols than there were. -/
abbrev Fewer (symbols : List Symbol) :=
  { rest : List Symbol // rest.length < symbols.length }

/-- No more symbols than there were. -/
abbrev NoMore (symbols : List Symbol) :=
  { rest : List Symbol // rest.length ≤ symbols.length }

/-- All the symbols there were. -/
def NoMore.all (symbols : List Symbol) : NoMore symbols :=
  ⟨symbols, Nat.le_refl _⟩

/-- What is left of what is left. -/
def NoMore.trans {symbols : List Symbol} (outer : NoMore symbols) (inner : NoMore outer.1) :
    NoMore symbols :=
  ⟨inner.1, Nat.le_trans inner.2 outer.2⟩

/-- Fewer symbols are no more. -/
def Fewer.noMore {symbols : List Symbol} (rest : Fewer symbols) : NoMore symbols :=
  ⟨rest.1, Nat.le_of_lt rest.2⟩

/-- Less than all of what is left. -/
def NoMore.fewer {symbols : List Symbol} (outer : NoMore symbols) (inner : Fewer outer.1) :
    Fewer symbols :=
  ⟨inner.1, Nat.lt_of_lt_of_le inner.2 outer.2⟩

/-- The symbols behind a comment, which ends with its line. -/
def afterComment : (symbols : List Symbol) → NoMore symbols
  | [] => ⟨[], Nat.le_refl _⟩
  | symbol :: rest =>
    if symbol = .bare '\n' then ⟨rest, Nat.le_succ _⟩
    else ⟨(afterComment rest).1, Nat.le_succ_of_le (afterComment rest).2⟩

/-- Leaves out the blanks and comments that a verbose pattern may hold. -/
def skipBlanks (flags : Flags) (symbols : List Symbol) : NoMore symbols :=
  match symbols with
  | [] => ⟨[], Nat.le_refl _⟩
  | .bare c :: rest =>
    if flags.verbose && Text.isBlank c then
      let ⟨after, h⟩ := skipBlanks flags rest
      ⟨after, Nat.le_succ_of_le h⟩
    else if flags.verbose && c = '#' then
      let ⟨comment, hcomment⟩ := afterComment rest
      let ⟨after, h⟩ := skipBlanks flags comment
      ⟨after, by simp only [List.length_cons]; omega⟩
    else ⟨.bare c :: rest, Nat.le_refl _⟩
  | symbol :: rest => ⟨symbol :: rest, Nat.le_refl _⟩
termination_by symbols.length
decreasing_by
  · simp
  · simp only [List.length_cons]; omega

/-- Takes a character that is special where it stands. -/
def takeBare? (c : Char) (symbols : List Symbol) : Option (Fewer symbols) :=
  match symbols with
  | symbol :: rest => if symbol = .bare c then some ⟨rest, Nat.lt_succ_self _⟩ else none
  | [] => none

/-- Takes the characters of a text, all of them special. -/
def takeText? (text : List Char) (symbols : List Symbol) : Option (NoMore symbols) :=
  match text with
  | [] => some ⟨symbols, Nat.le_refl _⟩
  | c :: more =>
    match takeBare? c symbols with
    | none => none
    | some ⟨rest, h⟩ =>
      match takeText? more rest with
      | none => none
      | some ⟨after, hafter⟩ => some ⟨after, Nat.le_of_lt (Nat.lt_of_le_of_lt hafter h)⟩

end ModalEdit.Pattern

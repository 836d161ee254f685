import ModalEdit.Pattern.CharSet
import ModalEdit.Text.PatternClass

/-!
Regular expressions with an order of preference, and the ways to put them together. Sequences lean
to the right and hold no empty parts, alternatives of single characters become a set, and what all
alternatives start with comes in front of them. Parts of them can be conditions on the place between
two characters: the ends of the text, of its lines and of its words.
-/

set_option autoImplicit false

namespace ModalEdit.Pattern

/-- A condition on the place between two characters. -/
inductive Look where
  | textStart
  | textEnd
  | lineStart
  | lineEnd
  /-- As `lineStart`, where a carriage return may be part of the line break. -/
  | returnLineStart
  | returnLineEnd
  /-- Between a word character and another; `ascii` counts ASCII word characters only. -/
  | boundary (ascii : Bool)
  /-- Before a word character, and with `half` only that. -/
  | wordStart (ascii half : Bool)
  | wordEnd (ascii half : Bool)
deriving DecidableEq, Inhabited

/-- Whether there is a word character at a place that may lie outside the text. -/
def isWordAt (ascii : Bool) (c? : Option Char) : Bool :=
  c?.any fun c => if ascii then c.isAlphanum || c == '_' else Text.isWordChar c

/-- The character before a place. -/
def before? (text : Array Char) (place : Nat) : Option Char :=
  if place = 0 then none else text[place - 1]?

/-- Whether the condition holds at a place of the text. -/
def Look.holds (text : Array Char) (place : Nat) : Look → Bool
  | textStart => place = 0
  | textEnd => place = text.size
  | lineStart => (before? text place).all (· == '\n')
  | lineEnd => (text[place]?).all (· == '\n')
  | returnLineStart =>
    match before? text place with
    | none => true
    | some c => c == '\n' || (c == '\r' && text[place]? != some '\n')
  | returnLineEnd =>
    match text[place]? with
    | none => true
    | some c => c == '\r' || (c == '\n' && before? text place != some '\r')
  | boundary ascii => isWordAt ascii (before? text place) != isWordAt ascii text[place]?
  | wordStart ascii half =>
    !isWordAt ascii (before? text place) && (half || isWordAt ascii text[place]?)
  | wordEnd ascii half =>
    (half || isWordAt ascii (before? text place)) && !isWordAt ascii text[place]?

/-- A regular expression. Of two alternatives the first is preferred. -/
inductive Regex where
  | empty
  | char (c : Char)
  | set (chars : CharSet)
  | look (condition : Look)
  | seq (a b : Regex)
  | alt (a b : Regex)
  /-- From `lowest` to `highest?` times, as often as possible or as seldom as possible. -/
  | times (greedy : Bool) (lowest : Nat) (highest? : Option Nat) (r : Regex)
  /-- What stands in parentheses that are counted. -/
  | group (r : Regex)
deriving DecidableEq, Inhabited

namespace Regex

/-- A character of a set. -/
def ofSet (chars : CharSet) : Regex :=
  match chars.only? with
  | some c => char c
  | none => set chars

/-- Whether the expression matches the empty text at most. -/
def takesNothing : Regex → Bool
  | empty | look _ => true
  | char _ | set _ => false
  | seq a b => a.takesNothing && b.takesNothing
  | alt a b => a.takesNothing && b.takesNothing
  | times _ _ highest? r => highest?.isSome && r.takesNothing
  | group r => r.takesNothing

/-- A lower bound on the number of characters in a match, and `none` if a part cannot match. -/
def leastLength? : Regex → Option Nat
  | empty | look _ => some 0
  | char _ => some 1
  | set chars => if chars = .none then none else some 1
  | seq a b =>
    match a.leastLength?, b.leastLength? with
    | some m, some n => some (m + n)
    | _, _ => none
  | alt a b =>
    match a.leastLength?, b.leastLength? with
    | some m, some n => some (min m n)
    | _, _ => none
  | times _ lowest _ r => r.leastLength?.map (lowest * ·)
  | group r => r.leastLength?

/-- Whether every match takes a character. -/
def takesSome (r : Regex) : Bool :=
  r.leastLength?.any (0 < ·)

/-- Whether there are counted parentheses in the expression. -/
def hasGroup : Regex → Bool
  | empty | char _ | set _ | look _ => false
  | seq a b | alt a b => a.hasGroup || b.hasGroup
  | times _ _ _ r => r.hasGroup
  | group _ => true

/-- The parts of a sequence. -/
def items : Regex → List Regex
  | empty => []
  | seq a b => a.items ++ b.items
  | r => [r]

/-- The sequence of the parts. -/
def ofItems : List Regex → Regex
  | [] => empty
  | [r] => r
  | r :: rest => seq r (ofItems rest)

/-- One expression after the other. -/
def sequence (parts : List Regex) : Regex :=
  ofItems (parts.flatMap items)

/-- The alternatives of a choice. -/
def branches : Regex → List Regex
  | alt a b => a.branches ++ b.branches
  | r => [r]

/-- The choice between the alternatives. -/
def ofBranches : List Regex → Regex
  | [] => set .none
  | [r] => r
  | r :: rest => alt r (ofBranches rest)

/-- The characters of an expression that always matches just one. -/
def charSet? : Regex → Option CharSet
  | char c => some (.single c)
  | set chars => some chars
  | _ => none

/-- The choice between alternatives; single characters make up a set. -/
def choice (alternatives : List Regex) : Regex :=
  match alternatives with
  | [r] => r
  | alternatives =>
    match alternatives.mapM charSet? with
    | some sets => ofSet (.unions sets)
    | none => ofBranches alternatives

/-- The parts of a sequence, where characters in a row count as one part. -/
def runs : List Regex → List (List Regex)
  | [] => []
  | char c :: rest =>
    match runs rest with
    | (char d :: more) :: others => (char c :: char d :: more) :: others
    | others => [char c] :: others
  | r :: rest => [r] :: runs rest

/-- What two lists of runs start with. Counted parentheses are all different. -/
def sharedRuns : List (List Regex) → List (List Regex) → List (List Regex)
  | a :: as, b :: bs => if a = b && !a.any hasGroup then a :: sharedRuns as bs else []
  | _, _ => []

/-- What all alternatives start with, if each of them is a sequence of several runs. -/
def sharedStart (alternatives : List Regex) : List (List Regex) :=
  match alternatives.map fun r => runs r.items with
  | [] => []
  | first :: rest =>
    if (first :: rest).any (·.length < 2) then [] else rest.foldl sharedRuns first

/-- The first of the expressions that matches is preferred. -/
def oneOf (expressions : List Regex) : Regex :=
  let alternatives := expressions.flatMap branches
  let start := sharedStart alternatives
  if alternatives.length < 2 || start.isEmpty then choice alternatives
  else
    let rests := alternatives.map fun r => ofItems ((runs r.items).drop start.length).flatten
    sequence (start.flatten ++ [choice (rests.flatMap branches)])

/-- A repetition. What takes nothing is not repeated. -/
def repeated (greedy : Bool) (lowest : Nat) (highest? : Option Nat) (r : Regex) : Regex :=
  let (lowest, highest?) :=
    if r.takesNothing then (min lowest 1, some (min (highest?.getD 1) 1)) else (lowest, highest?)
  match lowest, highest? with
  | 0, some 0 => empty
  | 1, some 1 => r
  | lowest, highest? => times greedy lowest highest? r

end Regex

end ModalEdit.Pattern

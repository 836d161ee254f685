import ModalEdit.Pattern.ByteRange
import ModalEdit.Pattern.Regex

/-!
The memory that the automaton of an expression takes. It works on bytes, and there is one automaton
for each direction of reading: a state takes 32 bytes, each alternative of a state 4 bytes more, and
each range of a state with several ranges 8 bytes more.
-/

set_option autoImplicit false

namespace ModalEdit.Pattern

namespace Cost

/-- A state. -/
def state : Nat := 32

/-- A state with alternatives. -/
def union (alternatives : Nat) : Nat := state + 4 * alternatives

/-- A state with ranges of bytes. -/
def branching (ranges : Nat) : Nat := state + 8 * ranges

/-- A state with ranges of bytes, where a single range takes no more than the state. -/
def step (ranges : Nat) : Nat := if ranges = 1 then state else branching ranges

/-- Several costs together. -/
def total (costs : List Nat) : Nat := costs.foldl (· + ·) 0

/-- What can follow the first range of sequences in order, which starts new for each other range. -/
def successors (sequences : List (List ByteRange)) : List (List (List ByteRange)) :=
  ((sequences.filter (!·.isEmpty)).splitBy fun a b => a.head? == b.head?).map fun block =>
    block.map List.tail

/-- The states behind those of a list, each given by the sequences that lead on from it. -/
def statesFrom : (depth : Nat) → List (List (List ByteRange)) → List (List (List ByteRange))
  | 0, _ => []
  | depth + 1, states =>
    let unfinished := states.filter fun sequences => sequences.any (!·.isEmpty)
    unfinished ++ statesFrom depth (unfinished.flatMap successors).eraseDups

/-- The length of what two sequences start with. -/
def sharedLength : List ByteRange → List ByteRange → Nat
  | a :: as, b :: bs => if a = b then sharedLength as bs + 1 else 0
  | _, _ => 0

/-- The ranges of sequences in order that are not shared with the sequence before. -/
def newRanges (last : List ByteRange) : List (List ByteRange) → Nat
  | [] => 0
  | first :: rest => first.length - sharedLength last first + newRanges first rest

/-- A set of characters. Forward, states with the same continuation are one; backward, sequences
share what they start with. -/
def ofSet (backward : Bool) (chars : CharSet) : Nat :=
  if chars.ranges.all (·.2 < 0x80) then state + step chars.ranges.length
  else
    let sequences := chars.sequences
    if backward then
      union sequences.length + state + state * newRanges [] sequences
    else
      let states := (statesFrom 4 [sequences]).eraseDups
      state + total (states.map fun next => branching (successors next).length)

/-- Cuts texts into those before, between and behind the empty ones. -/
def chunks (texts : List (List Nat)) : List (List (List Nat)) :=
  texts.foldr (fun text later =>
    match text, later with
    | [], later => [] :: later
    | text, chunk :: later => (text :: chunk) :: later
    | text, [] => [[text]]) [[]]

/-- What can follow each first byte of the texts. -/
def rests (texts : List (List Nat)) : List (List (List Nat)) :=
  (texts.filterMap List.head?).eraseDups.map fun byte =>
    texts.filterMap fun text => if text.head? = some byte then some text.tail else none

/-- Alternative texts that share what they start with. An empty text ends what later ones may share.
-/
def ofTexts : (depth : Nat) → List (List Nat) → Nat
  | 0, _ => 0
  | depth + 1, texts =>
    let chunks := chunks texts
    let steps := chunks.filter (!·.isEmpty)
    let inner := (chunks.flatMap rests).filter fun texts => texts.any (!·.isEmpty)
    union (steps.length + chunks.length - 1)
      + total (steps.map fun chunk => step (rests chunk).length)
      + total (inner.map (ofTexts depth))

end Cost

namespace Regex

/-- The bytes of a text that an expression spells out. -/
def spelled? : Regex → Option (List Nat)
  | char c => some (ByteRange.bytesOf c.toNat)
  | seq a b =>
    match a.spelled?, b.spelled? with
    | some first, some second => some (first ++ second)
    | _, _ => none
  | _ => none

/-- The memory for a choice between texts, if all alternatives are texts. -/
def textChoiceCost? (backward : Bool) (alternatives : List Regex) : Option Nat :=
  (alternatives.mapM spelled?).map fun texts =>
    let texts := if backward then texts.map List.reverse else texts
    Cost.state + Cost.ofTexts ((texts.map List.length).foldl max 0 + 1) texts

/-- The memory for the way to an alternative; a further choice is part of the same state. -/
def edgeCost : Regex → Nat
  | alt _ _ => 0
  | _ => 4

/-- The memory for an expression in one direction of reading; `inChoice` is for a choice that is
part of another one. -/
def cost (backward inChoice : Bool) : Regex → Nat
  | empty | look _ => Cost.state
  | char c => Cost.state * (ByteRange.bytesOf c.toNat).length
  | set chars => Cost.ofSet backward chars
  | seq a b => a.cost backward false + b.cost backward false
  | alt a b =>
    let ways := a.edgeCost + a.cost backward true + b.edgeCost + b.cost backward true
    if inChoice then ways
    else
      match textChoiceCost? backward (alt a b).branches with
      | some total => total
      | none => ways + Cost.union 0 + Cost.state
  | times _ lowest highest? r =>
    let once := r.cost backward false
    match lowest, highest? with
    | 0, none =>
      if r.takesSome then once + Cost.union 2 else once + 2 * Cost.union 2 + Cost.state
    | lowest, none => lowest * once + Cost.union 2
    | 0, some 1 => once + Cost.union 2 + Cost.state
    | lowest, some highest =>
      if lowest = highest then lowest * once
      else
        (if lowest = 0 then Cost.state else lowest * once) + Cost.state
          + (highest - lowest) * (once + Cost.union 2)
  | group r => r.cost backward false + if backward then 0 else 2 * Cost.state

/-- The memory that an automaton may take. -/
def maxCost : Nat := 10485760

/-- Whether both automata of an expression, each with a loop in front that looks for the start of
the match, stay within the limit. -/
def isAffordable (r : Regex) : Bool :=
  let loop := Cost.union 2 + Cost.state + Cost.step 1
  loop + r.cost true false + Cost.state ≤ maxCost
    && loop + (group r).cost false false + Cost.state ≤ maxCost

end Regex

end ModalEdit.Pattern

import ModalEdit.Text.CaseFold
import ModalEdit.Text.PatternClass

/-!
Sets of characters that patterns describe: single characters and ranges, the classes with a name,
and what is built from them.
-/

set_option autoImplicit false

namespace ModalEdit.Pattern

/-- A set of characters as ranges of code points, both ends included, in ascending order and with
gaps between them. -/
structure CharSet where
  ranges : List (Nat × Nat)
deriving DecidableEq, Inhabited

namespace CharSet

/-- Whether a character is in the set. -/
def contains (set : CharSet) (c : Char) : Bool :=
  Text.inRanges set.ranges c

/-- A range and those that start no earlier, with ranges that overlap or touch joined. -/
def joinRanges (first last : Nat) : List (Nat × Nat) → List (Nat × Nat)
  | [] => [(first, last)]
  | (next, stop) :: rest =>
    if next ≤ last + 1 then joinRanges first (max last stop) rest
    else (first, last) :: joinRanges next stop rest

/-- The characters of any of the ranges. -/
def ofRanges (ranges : List (Nat × Nat)) : CharSet :=
  match ranges.mergeSort fun a b => a.1 ≤ b.1 with
  | [] => ⟨[]⟩
  | (first, last) :: rest => ⟨joinRanges first last rest⟩

/-- No character. -/
def none : CharSet := ⟨[]⟩

/-- One character. -/
def single (c : Char) : CharSet := ⟨[(c.toNat, c.toNat)]⟩

/-- The characters from one to another. -/
def range (first last : Char) : CharSet := ⟨[(first.toNat, last.toNat)]⟩

/-- The characters of a list. -/
def ofChars (chars : List Char) : CharSet :=
  ofRanges (chars.map fun c => (c.toNat, c.toNat))

/-- The largest code point. -/
def lastCode : Nat := 0x10FFFF

/-- What lies between ranges and behind them, from a code point on. -/
def gapsFrom (start : Nat) : List (Nat × Nat) → List (Nat × Nat)
  | [] => if start ≤ lastCode then [(start, lastCode)] else []
  | (first, last) :: rest =>
    if start < first then (start, first - 1) :: gapsFrom (last + 1) rest
    else gapsFrom (last + 1) rest

/-- The characters that are not in the set. -/
def compl (set : CharSet) : CharSet :=
  ⟨gapsFrom 0 set.ranges⟩

/-- The characters of any of the sets. -/
def unions (sets : List CharSet) : CharSet :=
  ofRanges (sets.flatMap ranges)

/-- The characters of either set. -/
def union (a b : CharSet) : CharSet :=
  unions [a, b]

/-- The characters of both sets. -/
def inter (a b : CharSet) : CharSet :=
  (a.compl.union b.compl).compl

/-- The characters of the first set that are not in the second. -/
def diff (a b : CharSet) : CharSet :=
  a.inter b.compl

/-- The characters of exactly one of the sets. -/
def symmDiff (a b : CharSet) : CharSet :=
  (a.diff b).union (b.diff a)

/-- The only character of a set that has just one. -/
def only? (set : CharSet) : Option Char :=
  match set.ranges with
  | [(first, last)] => if first = last then Text.charOfCode? first else Option.none
  | _ => Option.none

/-- The code points that a pair of characters adds to a set with one of them. -/
def addedByPair (set : CharSet) (code image : Nat) : List (Nat × Nat) :=
  let has (code : Nat) : Bool := set.ranges.any fun (first, last) => first ≤ code && code ≤ last
  if has code then [(image, image)] else if has image then [(code, code)] else []

/-- The code points that a class of characters adds to a set with any of them. -/
def addedByClass (set : CharSet) (members : List Nat) : List (Nat × Nat) :=
  if members.any fun code => set.ranges.any fun (first, last) => first ≤ code && code ≤ last then
    members.map fun code => (code, code)
  else []

/-- The set together with the other cases of its characters. -/
def fold (set : CharSet) : CharSet :=
  ofRanges (set.ranges
    ++ Text.foldPairs.flatMap (fun run =>
      run.codes.flatMap fun code => set.addedByPair code (Int.toNat (code + run.delta)))
    ++ Text.foldClasses.flatMap set.addedByClass)

/-- As `fold`, for the letters of ASCII alone. -/
def foldAscii (set : CharSet) : CharSet :=
  ofRanges (set.ranges
    ++ (List.range 26).flatMap fun i => set.addedByPair ('A'.toNat + i) ('a'.toNat + i))

/-- The decimal digits of all scripts. -/
def digit : CharSet := ofRanges Text.digitRanges

/-- The white space of all scripts. -/
def blank : CharSet := ofRanges Text.blankRanges

/-- The word characters of all scripts. -/
def word : CharSet :=
  unions [diff (ofRanges Text.alphabeticRanges) (ofRanges Text.laterLetterRanges),
    ofRanges Text.markRanges, ofRanges Text.digitRanges, ofRanges Text.connectorRanges]

/-- The ASCII classes that are named between colons. -/
def namedClasses : List (String × List (Char × Char)) := [
  ("alnum", [('0', '9'), ('A', 'Z'), ('a', 'z')]),
  ("alpha", [('A', 'Z'), ('a', 'z')]),
  ("ascii", [('\x00', '\x7f')]),
  ("blank", [('\t', '\t'), (' ', ' ')]),
  ("cntrl", [('\x00', '\x1f'), ('\x7f', '\x7f')]),
  ("digit", [('0', '9')]),
  ("graph", [('!', '~')]),
  ("lower", [('a', 'z')]),
  ("print", [(' ', '~')]),
  ("punct", [('!', '/'), (':', '@'), ('[', '\x60'), ('\x7b', '~')]),
  ("space", [('\t', '\r'), (' ', ' ')]),
  ("upper", [('A', 'Z')]),
  ("word", [('0', '9'), ('A', 'Z'), ('_', '_'), ('a', 'z')]),
  ("xdigit", [('0', '9'), ('A', 'F'), ('a', 'f')])]

/-- The characters of any of the ranges, given by characters. -/
def ofCharRanges (ranges : List (Char × Char)) : CharSet :=
  ofRanges (ranges.map fun (first, last) => (first.toNat, last.toNat))

/-- The ASCII class of a name. -/
def named? (name : String) : Option CharSet :=
  (namedClasses.lookup name).map ofCharRanges

theorem contains_none (c : Char) : none.contains c = false := rfl

theorem contains_single (c other : Char) : (single other).contains c = (c == other) := by
  have h : other.toNat ≤ c.toNat ∧ c.toNat ≤ other.toNat ↔ c = other := by
    constructor
    · intro hle
      exact Char.toNat_inj.1 (Nat.le_antisymm hle.2 hle.1)
    · rintro rfl
      exact ⟨Nat.le_refl _, Nat.le_refl _⟩
  simp only [contains, single, Text.inRanges, List.any_cons, List.any_nil, Bool.or_false]
  rw [Bool.eq_iff_iff]
  simpa using h

theorem contains_range (c first last : Char) :
    (range first last).contains c = (first.toNat ≤ c.toNat && c.toNat ≤ last.toNat) := by
  simp [contains, range, Text.inRanges]

end CharSet

end ModalEdit.Pattern

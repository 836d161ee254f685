import ModalEdit.Document
import ModalEdit.Text.Alphanumeric
import ModalEdit.Text.Blank

/-!
Words of a text, and the places before and behind them. A word is a run of letters, digits and
underscores, or a run of other characters that are not blank; a big word is any run of characters
that are not blank. An empty line is a word of its own where words are looked for by their start.
-/

set_option autoImplicit false

namespace ModalEdit

/-- Which runs count as one word. -/
inductive WordKind where
  | small
  | big
deriving DecidableEq, Inhabited

/-- What a character is to words. -/
inductive WordClass where
  | keyword
  | punctuation
  | blank
  | newline
deriving DecidableEq, Inhabited

/-- Letters, digits and the underscore. -/
def isKeyword (c : Char) : Bool :=
  Text.isAlphanumeric c || c == '_'

/-- The class of a character. Big words make no difference between keywords and the rest. -/
def WordKind.classOf (kind : WordKind) (c : Char) : WordClass :=
  if c = '\n' then .newline
  else if Text.isBlank c then .blank
  else if kind = .big ∨ isKeyword c then .keyword
  else .punctuation

/-- Whether a class makes up words. -/
def WordClass.isText : WordClass → Bool
  | keyword | punctuation => true
  | blank | newline => false

namespace WordKind

/-- How many characters to skip to the next word start, when the word before is behind. -/
def gapToWord (kind : WordKind) : List Char → Nat
  | [] => 0
  | c :: rest =>
    match kind.classOf c with
    | .keyword | .punctuation => 0
    | .blank => 1 + kind.gapToWord rest
    | .newline => if rest.head? = some '\n' then 1 else 1 + kind.gapToWord rest

/-- How many characters of the word that the text starts with. -/
def runLength (kind : WordKind) : List Char → Nat
  | [] => 0
  | c :: rest =>
    if (kind.classOf c).isText then
      1 + (rest.takeWhile (kind.classOf · = kind.classOf c)).length
    else 0

/-- The start of the next word, or the end of the text. -/
def nextStart (kind : WordKind) (text : Document) (offset : Nat) : Nat :=
  if text.length ≤ offset then text.length
  else
    let rest := text.drop offset
    let run := kind.runLength rest
    offset + run + kind.gapToWord (rest.drop run)

/-- The start of the word that the characters before a place end with, or of the empty line; they
are given nearest first. -/
def startBack (kind : WordKind) : List Char → Nat
  | [] => 0
  | c :: before =>
    match kind.classOf c with
    | .blank => kind.startBack before
    | .newline =>
      if before.head?.all (Document.endsLine · (some '\n')) then before.length
      else kind.startBack before
    | .keyword => (before.dropWhile (kind.classOf · = .keyword)).length
    | .punctuation => (before.dropWhile (kind.classOf · = .punctuation)).length

/-- The start of the word before an offset, or the start of the text. -/
def prevStart (kind : WordKind) (text : Document) (offset : Nat) : Nat :=
  kind.startBack (text.take offset).reverse

/-- The last character of the word that ends next behind an offset; the offset itself where there
is none. -/
def nextEnd (kind : WordKind) (text : Document) (offset : Nat) : Nat :=
  let ahead := text.drop (offset + 1)
  let isGap := fun c => !(kind.classOf c).isText
  match ahead.dropWhile isGap with
  | [] => offset
  | c :: rest =>
    offset + 1 + (ahead.takeWhile isGap).length
      + (rest.takeWhile (kind.classOf · = kind.classOf c)).length

/-- The last character of the run that an offset is in; a line feed is left alone. -/
def currentEnd (kind : WordKind) (text : Document) (offset : Nat) : Nat :=
  match text.drop offset with
  | [] => offset
  | c :: rest =>
    if kind.classOf c = .newline then offset
    else offset + (rest.takeWhile (kind.classOf · = kind.classOf c)).length

/-! How far words are looked for: the next start lies behind the offset and within the text, and the start
before lies before the offset. -/

variable {kind : WordKind} {text : Document} {offset : Nat}

theorem gapToWord_le (kind : WordKind) (text : List Char) : kind.gapToWord text ≤ text.length := by
  induction text with
  | nil => exact Nat.le_refl 0
  | cons c rest ih =>
    unfold gapToWord
    rw [List.length_cons]
    split
    · exact Nat.zero_le _
    · exact Nat.zero_le _
    · omega
    · split <;> omega

theorem runLength_cons (kind : WordKind) (c : Char) (rest : List Char) :
    kind.runLength (c :: rest) =
      if (kind.classOf c).isText then 1 + (rest.takeWhile (kind.classOf · = kind.classOf c)).length
      else 0 := rfl

theorem runLength_le (kind : WordKind) (text : List Char) : kind.runLength text ≤ text.length := by
  cases text with
  | nil => exact Nat.le_refl 0
  | cons c rest =>
    have word := (rest.takeWhile_prefix (kind.classOf · = kind.classOf c)).length_le
    rw [runLength_cons, List.length_cons]
    split <;> omega

/-- A text that is not empty begins with a word, or there is something to skip. -/
theorem runLength_add_gapToWord_pos (kind : WordKind) (c : Char) (rest : List Char) :
    0 < kind.runLength (c :: rest) + kind.gapToWord ((c :: rest).drop (kind.runLength (c :: rest))) := by
  by_cases isText : (kind.classOf c).isText = true
  · rw [runLength_cons, if_pos isText]
    omega
  · have none : kind.runLength (c :: rest) = 0 := if_neg isText
    rw [none, List.drop_zero, Nat.zero_add]
    unfold gapToWord
    cases isClass : kind.classOf c with
    | keyword | punctuation => exact absurd (congrArg WordClass.isText isClass) isText
    | blank => exact Nat.pos_of_neZero _
    | newline =>
      dsimp only
      split <;> omega

theorem nextStart_of_le (kind : WordKind) (behind : text.length ≤ offset) :
    kind.nextStart text offset = text.length :=
  if_pos behind

theorem nextStart_le (kind : WordKind) (text : Document) (offset : Nat) :
    kind.nextStart text offset ≤ text.length := by
  unfold nextStart
  dsimp only
  split
  · exact Nat.le_refl _
  · have run := kind.runLength_le (text.drop offset)
    have gap := kind.gapToWord_le ((text.drop offset).drop (kind.runLength (text.drop offset)))
    rw [List.length_drop] at run gap
    rw [List.length_drop] at gap
    omega

theorem lt_nextStart (kind : WordKind) (inside : offset < text.length) :
    offset < kind.nextStart text offset := by
  have moves := kind.runLength_add_gapToWord_pos text[offset] (text.drop (offset + 1))
  rw [← List.drop_eq_getElem_cons inside] at moves
  unfold nextStart
  rw [if_neg (Nat.not_le.mpr inside)]
  dsimp only
  omega

theorem lt_nextStart_of_lt (inside : kind.nextStart text offset < text.length) :
    offset < kind.nextStart text offset := by
  refine kind.lt_nextStart (Nat.not_le.mp fun behind => ?_)
  rw [kind.nextStart_of_le behind] at inside
  exact Nat.lt_irrefl _ inside

theorem startBack_le (kind : WordKind) (before : List Char) : kind.startBack before ≤ before.length := by
  induction before with
  | nil => exact Nat.le_refl 0
  | cons c before ih =>
    have keywords := (before.dropWhile_suffix (kind.classOf · = .keyword)).length_le
    have others := (before.dropWhile_suffix (kind.classOf · = .punctuation)).length_le
    unfold startBack
    rw [List.length_cons]
    split
    · omega
    · split <;> omega
    · omega
    · omega

theorem prevStart_le (kind : WordKind) (text : Document) (offset : Nat) :
    kind.prevStart text offset ≤ offset := by
  have back := kind.startBack_le (text.take offset).reverse
  rw [List.length_reverse, List.length_take] at back
  exact Nat.le_trans back (Nat.min_le_left _ _)

end WordKind

/-- Start and end of the keyword that an offset is in, or of the first one behind it on its
line. -/
def Document.keywordAt? (text : Document) (offset : Nat) : Option (Nat × Nat) :=
  let line := lineOf text offset
  let ahead := slice text offset (lineEnd text line)
  let skipped := (ahead.takeWhile (!isKeyword ·)).length
  match ahead.drop skipped with
  | [] => none
  | found =>
    let here := offset + skipped
    let back := (slice text (lineStart text line) here).reverse.takeWhile isKeyword
    some (here - back.length, here + (found.takeWhile isKeyword).length)

end ModalEdit

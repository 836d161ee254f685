import ModalEdit.Text.CodePoint

/-!
White space of any script, cutting text at it, and text filled up with blanks to a width in characters.
-/

set_option autoImplicit false

namespace ModalEdit.Text

/-- Code points with the property White_Space. -/
def blankRanges : List (Nat × Nat) := [
  (9, 13), (32, 32), (133, 133), (160, 160), (5760, 5760), (8192, 8202), (8232, 8233), (8239, 8239),
  (8287, 8287), (12288, 12288)]

/-- White space, line breaks and the wide space included. -/
def isBlank (c : Char) : Bool :=
  inRanges blankRanges c

/-- The text from its first character that is not blank. -/
def trimStart (text : List Char) : List Char :=
  text.dropWhile isBlank

/-- The text up to its last character that is not blank. -/
def trimEnd (text : List Char) : List Char :=
  (text.reverse.dropWhile isBlank).reverse

/-- The text without the blanks around it. -/
def trim (text : List Char) : List Char :=
  trimEnd (trimStart text)

/-- The first word: the blanks before it are dropped. -/
def firstWord (text : List Char) : List Char :=
  (trimStart text).takeWhile (!isBlank ·)

/-- What follows the first word. -/
def afterFirstWord (text : List Char) : List Char :=
  (trimStart text).dropWhile (!isBlank ·)

theorem length_afterFirstWord_lt {text : List Char} (h : firstWord text ≠ []) :
    (afterFirstWord text).length < text.length := by
  have hcut := congrArg List.length
    (List.takeWhile_append_dropWhile (p := (!isBlank ·)) (l := trimStart text))
  have htrim : (trimStart text).length ≤ text.length := (List.dropWhile_suffix _).length_le
  have hpos : 0 < (firstWord text).length := List.length_pos_iff.2 h
  simp only [List.length_append] at hcut
  simp only [firstWord, afterFirstWord] at *
  omega

/-- The maximal runs of characters that are not blank, in order. -/
def words (text : List Char) : List (List Char) :=
  if _h : firstWord text = [] then []
  else firstWord text :: words (afterFirstWord text)
termination_by text.length
decreasing_by exact length_afterFirstWord_lt _h

/-! ### Letters and digits are no blanks -/

variable {c : Char} {rest text : List Char}

theorem isBlank_of_visible (low : 33 ≤ c.toNat) (high : c.toNat ≤ 126) : isBlank c = false := by
  have outside : ∀ range ∈ blankRanges, range.2 < 33 ∨ 126 < range.1 := by decide
  unfold isBlank inRanges
  rw [List.any_eq_false]
  intro range member between
  have apart := outside range member
  simp only [Bool.and_eq_true, decide_eq_true_eq] at between
  omega

theorem toNat_of_isDigit (digit : c.isDigit = true) : 48 ≤ c.toNat ∧ c.toNat ≤ 57 := by
  simp only [Char.isDigit, Bool.and_eq_true, decide_eq_true_eq, UInt32.le_iff_toNat_le] at digit
  exact digit

theorem toNat_of_isAlpha (letter : c.isAlpha = true) :
    65 ≤ c.toNat ∧ c.toNat ≤ 90 ∨ 97 ≤ c.toNat ∧ c.toNat ≤ 122 := by
  unfold Char.isAlpha Char.isUpper Char.isLower at letter
  simp only [Bool.or_eq_true, Bool.and_eq_true, decide_eq_true_eq, ge_iff_le,
    UInt32.le_iff_toNat_le] at letter
  exact letter

theorem isBlank_of_isDigit (digit : c.isDigit = true) : isBlank c = false := by
  have range := toNat_of_isDigit digit
  exact isBlank_of_visible (by omega) (by omega)

theorem isBlank_of_isAlpha (letter : c.isAlpha = true) : isBlank c = false := by
  have range := toNat_of_isAlpha letter
  exact isBlank_of_visible (by omega) (by omega)

theorem isDigit_of_isAlpha (letter : c.isAlpha = true) : c.isDigit = false := by
  refine Bool.eq_false_iff.mpr fun digit => ?_
  have letterRange := toNat_of_isAlpha letter
  have digitRange := toNat_of_isDigit digit
  omega

theorem trimStart_cons (visible : isBlank c = false) : trimStart (c :: rest) = c :: rest :=
  List.dropWhile_cons_of_neg (Bool.eq_false_iff.mp visible)

theorem trimEnd_of_visible (visible : ∀ c ∈ text.getLast?, isBlank c = false) :
    trimEnd text = text := by
  have kept : text.reverse.dropWhile isBlank = text.reverse := by
    cases reversed : text.reverse with
    | nil => rfl
    | cons c rest =>
      have last : text.getLast? = some c := by
        rw [← List.head?_reverse, reversed]
        rfl
      exact List.dropWhile_cons_of_neg (Bool.eq_false_iff.mp (visible c last))
  unfold trimEnd
  rw [kept, List.reverse_reverse]

/-- Blanks. -/
def blanks (count : Nat) : String :=
  String.ofList (List.replicate count ' ')

/-- The text with blanks behind it, up to the width. -/
def padRight (width : Nat) (text : String) : String :=
  text ++ blanks (width - text.length)

/-- The text with blanks before it, up to the width. -/
def padLeft (width : Nat) (text : String) : String :=
  blanks (width - text.length) ++ text

end ModalEdit.Text

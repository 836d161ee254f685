import ModalEdit.Text.CaseTable

/-!
Upper and lower case of text, with the mappings that change its length and the two lower-case
sigmas.
-/

set_option autoImplicit false

namespace ModalEdit.Text

/-- A character of a mapping table's entry. -/
def mapCase (specials : List (Nat × List Nat)) (runs : List CaseRun) (c : Char) : List Char :=
  match specials.lookup c.toNat with
  | some image => image.map Char.ofNat
  | none =>
    match runs.findSome? (·.imageOf? c.toNat) with
    | some code => [Char.ofNat code]
    | none => [c]

/-- The upper case of one character. -/
def upperOf (c : Char) : List Char :=
  if c.val < 128 then [c.toUpper] else mapCase upperSpecials upperRuns c

/-- The lower case of one character on its own. -/
def lowerOf (c : Char) : List Char :=
  if c.val < 128 then [c.toLower]
  else if c.val = 304 then ['i', Char.ofNat 775]
  else mapCase [] lowerRuns c

/-- A lower-case character. -/
def isLowercase (c : Char) : Bool :=
  if c.val < 128 then c.isLower else inSteppedRanges lowercaseRanges c

/-- Whether the nearest character that case conditions do not look through has a case. -/
def seesCased (text : List Char) : Bool :=
  match text.dropWhile (inRanges caseIgnorableRanges) with
  | c :: _ => inRanges casedRanges c
  | [] => false

/-- Lower case of `text`, where `before` is what precedes it, last character first. A capital
sigma at the end of a word becomes the final form. -/
def lowerAfter (before : List Char) : List Char → List Char
  | [] => []
  | c :: rest =>
    let image :=
      if c = 'Σ' then
        if seesCased before && !seesCased rest then ['ς'] else ['σ']
      else lowerOf c
    image ++ lowerAfter (c :: before) rest

/-- The lower case of a text. -/
def toLower (text : List Char) : List Char :=
  lowerAfter [] text

/-- The upper case of a text. -/
def toUpper (text : List Char) : List Char :=
  text.flatMap upperOf

end ModalEdit.Text

/-!
Cutting text at a separating character.
-/

set_option autoImplicit false

namespace ModalEdit.Text

/-- The pieces between the separators, empty ones included; there is always at least one. -/
def splitOn (separator : Char) : List Char → List (List Char)
  | [] => [[]]
  | c :: rest =>
    if c = separator then [] :: splitOn separator rest
    else
      match splitOn separator rest with
      | first :: more => (c :: first) :: more
      | [] => [[c]]

/-- The text before and after the first separator. -/
def splitFirst? (separator : Char) (text : List Char) : Option (List Char × List Char) :=
  match text.dropWhile (· != separator) with
  | _ :: rest => some (text.takeWhile (· != separator), rest)
  | [] => none

/-- The rest of a text that starts with `start`. -/
def strip? (start text : List Char) : Option (List Char) :=
  if start.isPrefixOf text then some (text.drop start.length) else none

/-- The text without its last character, if that is `last`. -/
def stripLast? (last : Char) (text : List Char) : Option (List Char) :=
  if text.getLast? = some last then some text.dropLast else none

/-- The text without the first place where `part` occurs. Nothing is taken out where `part` is
empty. -/
def removeFirst (part : List Char) : List Char → List Char
  | [] => []
  | c :: rest =>
    if part.isPrefixOf (c :: rest) then (c :: rest).drop part.length
    else c :: removeFirst part rest

theorem splitOn_ne_nil (separator : Char) (text : List Char) : splitOn separator text ≠ [] := by
  cases text with
  | nil => simp [splitOn]
  | cons c rest =>
    simp only [splitOn]
    split
    · simp
    · split <;> simp

/-- Text is cut as lists are. -/
theorem splitOn_eq (separator : Char) (text : List Char) :
    splitOn separator text = text.splitOn separator := by
  induction text with
  | nil => rfl
  | cons c rest ih =>
    rw [List.splitOn_cons_eq_if_modifyHead, splitOn, ih]
    by_cases cut : c = separator
    · simp only [cut, if_true, beq_self_eq_true]
    · simp only [cut, if_false, beq_eq_false_iff_ne.mpr cut, Bool.false_eq_true]
      cases pieces : rest.splitOn separator with
      | nil => exact absurd pieces (List.splitOn_ne_nil separator rest)
      | cons first more => rfl

/-- No piece holds the character that the text was cut at. -/
theorem notMem_of_mem_splitOn {separator : Char} {text piece : List Char}
    (member : piece ∈ splitOn separator text) : separator ∉ piece := by
  induction text generalizing piece with
  | nil =>
    rw [List.mem_singleton.mp member]
    exact List.not_mem_nil
  | cons c rest ih =>
    unfold splitOn at member
    split at member
    · rcases List.mem_cons.mp member with rfl | later
      · exact List.not_mem_nil
      · exact ih later
    · rename_i other
      split at member
      · rename_i first more pieces
        rcases List.mem_cons.mp member with rfl | later
        · have free : separator ∉ first := ih (pieces ▸ List.mem_cons_self)
          simp only [List.mem_cons, not_or]
          exact ⟨Ne.symm other, free⟩
        · exact ih (pieces ▸ List.mem_cons_of_mem first later)
      · rename_i absent
        exact absurd absent (splitOn_ne_nil separator rest)

end ModalEdit.Text

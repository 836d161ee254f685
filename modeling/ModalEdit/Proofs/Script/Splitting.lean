import ModalEdit.Proofs.Pattern.Searching
import ModalEdit.Script.Function

/-!
Splitting at a text and joining with it: the pieces between the occurrences of a text make up the
whole again, and none of them holds the text.
-/

set_option autoImplicit false

namespace ModalEdit.Pattern

/-- The pieces of a text around all occurrences of a separator. -/
structure IsSplit (separator whole : List Char) (pieces : List (List Char)) : Prop where
  joined : separator.intercalate pieces = whole
  free : ∀ piece ∈ pieces, ¬ separator <:+: piece

namespace IsSplit

variable {separator whole piece : List Char} {pieces : List (List Char)}

theorem single (free : ¬ separator <:+: whole) : IsSplit separator whole [whole] := by
  constructor
  · exact List.intercalate_singleton
  · intro piece isPiece
    rw [List.mem_singleton.mp isPiece]
    exact free

theorem cons (free : ¬ separator <:+: piece) (nonempty : pieces ≠ [])
    (isSplit : IsSplit separator whole pieces) :
    IsSplit separator (piece ++ separator ++ whole) (piece :: pieces) := by
  constructor
  · rw [List.intercalate_cons_of_ne_nil nonempty, isSplit.joined]
  · intro other isPiece
    rcases List.mem_cons.mp isPiece with same | isLater
    · rw [same]
      exact free
    · exact isSplit.free other isLater

end IsSplit

namespace Program

theorem piecesBetween_ne_nil (text : List Char) (start : Nat) (found : List (Nat × Nat)) :
    piecesBetween text start found ≠ [] := by
  cases found with
  | nil => exact List.cons_ne_nil _ _
  | cons place rest => exact List.cons_ne_nil _ _

end Program

variable {program : Program} {text : List Char} {subject : Array Char}

/-- In front of the leftmost occurrence of a text there is none. -/
theorem not_isInfix_before {place first : Nat} (nonempty : text ≠ [])
    (isLeast : ∀ other, place ≤ other → other < first → ¬ OccursAt text subject other) :
    ¬ text <:+: (subject.toList.drop place).take (first - place) := by
  have positive := List.length_pos_iff.mpr nonempty
  intro isInfix
  rw [← List.drop_take] at isInfix
  obtain ⟨other, notBefore, occurs⟩ :=
    (isInfix_drop_iff text (subject.toList.take first).toArray place).mp isInfix
  have fits := occurs.le_size nonempty
  rw [List.size_toArray, List.length_take] at fits
  apply isLeast other notBefore (by omega)
  rw [occursAt_iff] at occurs ⊢
  rw [List.drop_take] at occurs
  exact occurs.trans (List.take_prefix _ _)

/-- What lies behind a place is what comes before an occurrence, the text, and what comes behind. -/
theorem OccursAt.parts {place first : Nat} (notBefore : place ≤ first)
    (occurs : OccursAt text subject first) :
    (subject.toList.drop place).take (first - place) ++ text ++
      subject.toList.drop (first + text.length) = subject.toList.drop place := by
  rw [occursAt_iff, List.prefix_iff_eq_append, List.drop_drop] at occurs
  have isRest : subject.toList.drop first =
      (subject.toList.drop place).drop (first - place) := by
    rw [List.drop_drop, Nat.add_sub_cancel' notBefore]
  rw [List.append_assoc, occurs, isRest, List.take_append_drop]

/-- Behind any place, the matches of a text's program part the subject at the text. -/
theorem Program.SpellsOut.piecesBetween (spells : program.SpellsOut text) (nonempty : text ≠ [])
    {place : Nat} (inside : place ≤ subject.size) (behindMatch : Bool) :
    IsSplit text (subject.toList.drop place)
      (Program.piecesBetween subject.toList place
        (program.matchesFrom subject place behindMatch)) := by
  have positive := List.length_pos_iff.mpr nonempty
  generalize toGo : subject.size - place = count
  induction count using Nat.strongRecOn generalizing place behindMatch with
  | _ count ih =>
    have isLeftmost := spells.search inside
    rw [Program.matchesFrom.eq_def, dif_neg (by omega)]
    cases found : program.search subject place with
    | none =>
      rw [found] at isLeftmost
      apply IsSplit.single
      rw [isInfix_drop_iff]
      intro occurs
      obtain ⟨first, notBefore, occurs⟩ := occurs
      exact isLeftmost first notBefore occurs
    | some occurrence =>
      obtain ⟨first, last⟩ := occurrence
      rw [found] at isLeftmost
      obtain ⟨notBefore, isLast, occurs, isLeast⟩ := isLeftmost
      have fits := occurs.le_size nonempty
      have goesOn : max last (place + 1) = last := by omega
      simp only [show first < last by omega, if_true, goesOn]
      rw [← occurs.parts notBefore, ← isLast]
      apply IsSplit.cons (not_isInfix_before nonempty isLeast) (Program.piecesBetween_ne_nil _ _ _)
      exact ih _ (by omega) (by omega) true rfl

/-- Splitting a text with the program of another one. -/
theorem Program.SpellsOut.split (spells : program.SpellsOut text) (nonempty : text ≠ [])
    (subject : List Char) : IsSplit text subject (program.split subject) := by
  show IsSplit text (subject.toArray.toList.drop 0) _
  exact spells.piecesBetween nonempty (Nat.zero_le _) false

end ModalEdit.Pattern

namespace ModalEdit.Script.Builtin

open Pattern

end ModalEdit.Script.Builtin

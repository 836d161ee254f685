import ModalEdit.Editor.KeyTable
import ModalEdit.Motion.Resolve
import ModalEdit.Proofs.Document.Lines

/-!
Motions that take their target in: to the end of a word, and forward to a character of the line. They
land behind the caret, on a character that is no line feed.
-/

set_option autoImplicit false

namespace ModalEdit

theorem WordClass.ne_newline_of_isText {kind : WordKind} {c : Char}
    (text : (kind.classOf c).isText = true) : c ≠ '\n' := by
  rintro rfl
  cases text

/-- The last character that a list starts with, from its first on. -/
theorem getElem?_length_takeWhile {head : Char} {rest : List Char} {belongs : Char → Bool}
    (first : belongs head = true) :
    ∃ c, (head :: rest)[(rest.takeWhile belongs).length]? = some c ∧ belongs c = true := by
  induction rest generalizing head with
  | nil => exact ⟨head, rfl, first⟩
  | cons next rest ih =>
    by_cases more : belongs next = true
    · rw [List.takeWhile_cons_of_pos more, List.length_cons, List.getElem?_cons_succ]
      exact ih more
    · rw [List.takeWhile_cons_of_neg more]
      exact ⟨head, rfl, first⟩

namespace WordKind

/-- The end of the next word is a character behind, unless there is none. -/
theorem nextEnd_spec (kind : WordKind) (text : Document) (offset : Nat) :
    kind.nextEnd text offset = offset ∨
      offset < kind.nextEnd text offset ∧
        ∃ c, text[kind.nextEnd text offset]? = some c ∧ c ≠ '\n' := by
  unfold nextEnd
  dsimp only
  split
  · exact Or.inl rfl
  · rename_i c rest word
    generalize gapEq : (fun c => !(kind.classOf c).isText) = isGap at word ⊢
    have isWord : (kind.classOf c).isText = true := by
      have first := List.head?_dropWhile_not isGap (text.drop (offset + 1))
      rw [word, ← gapEq] at first
      exact Bool.not_inj first
    have itself : decide (kind.classOf c = kind.classOf c) = true := decide_eq_true rfl
    obtain ⟨last, found, same⟩ := @getElem?_length_takeWhile c rest
      (fun other => decide (kind.classOf other = kind.classOf c)) itself
    have split : text.drop (offset + 1) =
        (text.drop (offset + 1)).takeWhile isGap ++ c :: rest := by
      rw [← word, List.takeWhile_append_dropWhile]
    refine Or.inr ⟨by omega, last, ?_, ?_⟩
    · rw [Nat.add_assoc, ← List.getElem?_drop]
      refine (congrArg (·[_]?) split).trans ?_
      rw [List.getElem?_append_right (Nat.le_add_right _ _), Nat.add_sub_cancel_left]
      exact found
    · have lastWord : (kind.classOf last).isText = true := by
        rw [of_decide_eq_true same]
        exact isWord
      exact WordClass.ne_newline_of_isText lastWord

/-- By induction on the number of words. -/
theorem repeated_nextEnd (kind : WordKind) (text : Document) (count offset : Nat) :
    Number.repeated (kind.nextEnd text) count offset = offset ∨
      offset < Number.repeated (kind.nextEnd text) count offset ∧
        ∃ c, text[Number.repeated (kind.nextEnd text) count offset]? = some c ∧ c ≠ '\n' := by
  induction count generalizing offset with
  | zero => exact Or.inl rfl
  | succ count ih =>
    rw [Number.repeated_succ]
    rcases ih (kind.nextEnd text offset) with stays | ⟨further, found⟩
    · rw [stays]
      exact kind.nextEnd_spec text offset
    · rcases kind.nextEnd_spec text offset with same | ⟨behind, _⟩
      · rw [same] at further found ⊢
        exact Or.inr ⟨further, found⟩
      · exact Or.inr ⟨Nat.lt_trans behind further, found⟩

end WordKind

theorem nthPlace?_lt {c : Char} {count place : Nat} {text : List Char}
    (found : nthPlace? c count text = some place) : place < text.length := by
  induction text generalizing count place with
  | nil => cases found
  | cons d rest ih =>
    unfold nthPlace? at found
    split at found
    · split at found
      · cases found
        exact Nat.succ_pos _
      · obtain ⟨next, inRest, rfl⟩ := Option.map_eq_some_iff.mp found
        exact Nat.succ_lt_succ (ih inRest)
    · obtain ⟨next, inRest, rfl⟩ := Option.map_eq_some_iff.mp found
      exact Nat.succ_lt_succ (ih inRest)

/-- A search forward stays on its line. -/
theorem Find.landing?_forward {find : Find} {text : Document} {offset count : Nat} {again : Bool}
    {landing : Landing} (forward : find.forward = true)
    (lands : find.landing? text offset count again = some landing) :
    landing.wise = .inclusive ∧ offset < landing.offset ∧
      landing.offset < text.lineEnd (text.lineOf offset) := by
  unfold landing? at lands
  dsimp only at lands
  rw [if_pos forward] at lands
  obtain ⟨place, found, landed⟩ := Option.bind_eq_some_iff.mp lands
  have inside := nthPlace?_lt found
  rw [Document.length_slice] at inside
  generalize (if (again && find.till) = true then 1 else 0) = skip at inside landed
  by_cases till : find.till = true
  · simp only [till, ↓reduceIte, Bool.not_true, Bool.false_eq_true, or_false] at landed
    split at landed
    · rename_i behind
      cases landed
      exact ⟨rfl, behind, by dsimp only; omega⟩
    · cases landed
  · rw [Bool.not_eq_true] at till
    simp only [till, Bool.false_eq_true, ↓reduceIte, Bool.not_false, or_true] at landed
    cases landed
    exact ⟨rfl, by dsimp only; omega, by dsimp only; omega⟩

/-- A search back stays on its line, too. -/
theorem Find.landing?_back {find : Find} {text : Document} {offset count : Nat} {again : Bool}
    {landing : Landing} (back : find.forward = false)
    (lands : find.landing? text offset count again = some landing) :
    text.lineStart (text.lineOf offset) ≤ landing.offset ∧ landing.offset < offset := by
  unfold landing? at lands
  dsimp only at lands
  rw [back, if_neg Bool.false_ne_true] at lands
  generalize (if (again && find.till) = true then 1 else 0) = skip at lands
  split at lands
  · cases lands
  · obtain ⟨place, found, landed⟩ := Option.bind_eq_some_iff.mp lands
    have inside := nthPlace?_lt found
    rw [List.length_reverse, Document.length_slice] at inside
    generalize isTarget : (if find.till = true then _ else _) = target at landed
    have starts : text.lineStart (text.lineOf offset) ≤ target := by
      rw [← isTarget]
      split <;> omega
    by_cases before : target < offset
    · rw [if_pos before] at landed
      cases landed
      exact ⟨starts, before⟩
    · rw [if_neg before] at landed
      cases landed

/-- The keys of the motions that take their target in: to the end of a word, and forward to a
character or up to it. -/
inductive InclusiveKeys : List Key → Motion → Prop where
  | wordEnd : InclusiveKeys [.ofChar 'e'] (.wordEnd .small)
  | bigWordEnd : InclusiveKeys [.ofChar 'E'] (.wordEnd .big)
  | find {key : Key} {c : Char} (typed : key.target? = some c) :
      InclusiveKeys [.ofChar 'f', key] (.find ⟨c, true, false⟩)
  | till {key : Key} {c : Char} (typed : key.target? = some c) :
      InclusiveKeys [.ofChar 't', key] (.find ⟨c, true, true⟩)

/-- Where a motion that takes its target in can lead: behind the caret, onto a character of a line. -/
theorem InclusiveKeys.lands {keys : List Key} {motion : Motion} {window : Window} {caret : Caret}
    {count? : Option Nat} {context : MotionContext} {landing : Landing}
    (inclusive : InclusiveKeys keys motion)
    (lands : motion.resolve window caret count? context = some landing) :
    landing.wise = .inclusive ∧ min caret.offset window.text.length < landing.offset ∧
      landing.offset < window.text.lineEnd (window.text.lineOf landing.offset) := by
  have words (kind : WordKind)
      (lands : Motion.resolve window caret (.wordEnd kind) count? context = some landing) :
      landing.wise = .inclusive ∧ min caret.offset window.text.length < landing.offset ∧
        landing.offset < window.text.lineEnd (window.text.lineOf landing.offset) := by
    unfold Motion.resolve at lands
    dsimp only at lands
    split at lands
    · cases lands
    · rename_i moves
      cases lands
      rcases kind.repeated_nextEnd window.text (max (count?.getD 1) 1)
        (min caret.offset window.text.length) with stays | ⟨behind, c, found, other⟩
      · exact absurd stays moves
      · exact ⟨rfl, behind, Document.lt_lineEnd_lineOf found other⟩
  have finds (find : Find) (forward : find.forward = true)
      (lands : Motion.resolve window caret (.find find) count? context = some landing) :
      landing.wise = .inclusive ∧ min caret.offset window.text.length < landing.offset ∧
        landing.offset < window.text.lineEnd (window.text.lineOf landing.offset) := by
    obtain ⟨wise, behind, before⟩ := Find.landing?_forward forward lands
    rw [Document.lineOf_eq_of_lt_lineEnd (Nat.le_of_lt behind) before]
    exact ⟨wise, behind, before⟩
  cases inclusive with
  | wordEnd => exact words .small lands
  | bigWordEnd => exact words .big lands
  | find typed => exact finds _ rfl lands
  | till typed => exact finds _ rfl lands

end ModalEdit

import ModalEdit.Proofs.Caret.Size
import ModalEdit.Proofs.Editor.Typing

/-!
Typing at several carets. The carets are taken in falling order, so what is typed at one of them moves only
those at which the text has been typed already. In the end it has been typed once for each caret, where that
caret stood in the old text.
-/

set_option autoImplicit false

namespace ModalEdit

namespace Document

variable {text : Document} {chars : List Char} {copies : Nat → Nat}

/-- A text with so many copies of other text put in at each of its places. -/
def insertEach (text : Document) (chars : List Char) (copies : Nat → Nat) : Document :=
  match text with
  | [] => (List.replicate (copies 0) chars).flatten
  | c :: rest =>
    (List.replicate (copies 0) chars).flatten ++ c :: insertEach rest chars fun place => copies (place + 1)

theorem insertEach_none (text : Document) (chars : List Char) : text.insertEach chars (fun _ => 0) = text := by
  induction text with
  | nil => rfl
  | cons c rest ih => exact congrArg (c :: ·) ih

theorem length_copies (count : Nat) (chars : List Char) :
    (List.replicate count chars).flatten.length = count * chars.length := by
  rw [List.length_flatten, List.map_replicate, List.sum_replicate_nat]

/-- One more copy behind those at a place. -/
theorem replace_copies (count : Nat) (chars : List Char) (back : Document) :
    replace ((List.replicate count chars).flatten ++ back) (count * chars.length) (count * chars.length) chars =
      (List.replicate (count + 1) chars).flatten ++ back := by
  have behind := replace_append (List.replicate count chars).flatten back 0 chars
  rw [Nat.add_zero, List.drop_zero, length_copies] at behind
  rw [behind, List.replicate_succ', List.flatten_concat]

/-- Behind the copies at a place one more can be put in, if there are none before that place. -/
theorem replace_insertEach {place : Nat} (inside : place ≤ text.length)
    (first : ∀ earlier < place, copies earlier = 0) :
    replace (text.insertEach chars copies) (place + copies place * chars.length)
        (place + copies place * chars.length) chars =
      text.insertEach chars fun other => copies other + if place = other then 1 else 0 := by
  induction text generalizing place copies with
  | nil =>
    cases Nat.le_zero.mp inside
    have typed := replace_copies (copies 0) chars []
    rw [List.append_nil, List.append_nil] at typed
    rwa [Nat.zero_add]
  | cons c rest ih =>
    cases place with
    | zero =>
      rw [Nat.zero_add]
      exact replace_copies (copies 0) chars _
    | succ place =>
      -- There is nothing before the first character, so the place is found from the rest of the text alone.
      have none : copies 0 = 0 := first 0 (Nat.succ_pos place)
      have others := ih (Nat.le_of_succ_le_succ inside)
        fun earlier before => first (earlier + 1) (Nat.succ_lt_succ before)
      simp only [insertEach, none, List.replicate_zero, List.flatten_nil, List.nil_append, replace_cons,
        Nat.add_right_comm place 1, Nat.succ_ne_zero, ↓reduceIte, Nat.add_zero,
        Nat.add_right_cancel_iff, others]

/-- At ascending places the copies are put in one after the other, the last one first. -/
theorem insertEach_eq_foldr {places : List Nat} (ascending : places.Pairwise (· < ·))
    (inside : ∀ place ∈ places, place ≤ text.length) (chars : List Char) :
    text.insertEach chars (fun place => places.count place) =
      places.foldr (fun place text => text.replace place place chars) text := by
  induction places with
  | nil => exact text.insertEach_none chars
  | cons place behind ih =>
    obtain ⟨first, restAscending⟩ := List.pairwise_cons.mp ascending
    have others := ih restAscending fun other member => inside other (List.mem_cons_of_mem place member)
    have none (earlier : Nat) (upTo : earlier ≤ place) : behind.count earlier = 0 :=
      List.count_eq_zero.mpr fun member => Nat.not_lt.mpr upTo (first earlier member)
    have here : behind.count place = 0 := none place (Nat.le_refl place)
    have put : replace (text.insertEach chars fun other => behind.count other)
        (place + behind.count place * chars.length) (place + behind.count place * chars.length) chars = _ :=
      replace_insertEach (inside place List.mem_cons_self) fun earlier before => none earlier (Nat.le_of_lt before)
    rw [here, Nat.zero_mul, Nat.add_zero] at put
    rw [List.foldr_cons, ← others, put]
    simp only [List.count_cons, beq_iff_eq]

end Document

namespace Editor

variable {editor after : Editor} {chars : List Char} {places : List Nat}

/-- The editor after text has been typed at some of the carets, at places of the old text. -/
structure TypedAt (editor after : Editor) (chars : List Char) (places : List Nat) : Prop where
  mode : after.mode = editor.mode
  text : after.text = editor.text.insertEach chars fun place => places.count place
  size : after.carets.size = editor.carets.size
  carets : ∀ index caret, editor.carets.get? index = some caret →
    ∃ moved, after.carets.get? index = some moved ∧
      moved.offset = caret.offset + places.countP (· ≤ caret.offset) * chars.length

/-- A place in front of the others, or at the first of them, moves by what has been typed there alone. -/
theorem countP_of_first {place : Nat} (first : ∀ other ∈ places, place ≤ other) :
    places.countP (· ≤ place) = places.count place := by
  refine List.countP_congr fun other member => ?_
  have further := first other member
  simp only [decide_eq_true_eq, beq_iff_eq]
  omega

/-- What is typed at such a place moves the offsets from there on. -/
theorem moved_cons {place : Nat} (first : ∀ other ∈ places, place ≤ other) (offset length : Nat) :
    (if place + places.count place * length ≤ offset + places.countP (· ≤ offset) * length then
        offset + places.countP (· ≤ offset) * length + length
      else offset + places.countP (· ≤ offset) * length) =
      offset + (place :: places).countP (· ≤ offset) * length := by
  rw [List.countP_cons]
  by_cases behind : place ≤ offset
  · have further : places.count place ≤ places.countP (· ≤ offset) := by
      rw [← countP_of_first first]
      refine List.countP_mono_left fun other _ before => ?_
      exact decide_eq_true (Nat.le_trans (of_decide_eq_true before) behind)
    have moves := Nat.add_le_add behind (Nat.mul_le_mul_right length further)
    rw [if_pos moves, if_pos (decide_eq_true behind), Nat.succ_mul, Nat.add_assoc]
  · have none : places.countP (· ≤ offset) = 0 := List.countP_eq_zero.mpr fun other member before =>
      behind (Nat.le_trans (first other member) (of_decide_eq_true before))
    rw [none, if_neg (by omega), if_neg (by simpa using behind)]

theorem typedAt_nil (window : after.window = editor.window) (mode : after.mode = editor.mode)
    (chars : List Char) : editor.TypedAt after chars [] := by
  have carets : after.carets = editor.carets := congrArg Window.carets window
  have text : after.text = editor.text := congrArg Window.text window
  refine ⟨mode, ?_, congrArg CaretSet.size carets, fun index caret stands => ?_⟩
  · rw [text]
    exact (editor.text.insertEach_none chars).symm
  · refine ⟨caret, carets ▸ stands, ?_⟩
    rw [List.countP_nil, Nat.zero_mul, Nat.add_zero]

/-- One caret more. It stands in front of all those at which the text has been typed, or where one of them
stood. -/
theorem TypedAt.typeAt (typed : editor.TypedAt after chars places) {index : Nat} {caret : Caret}
    (stands : editor.carets.get? index = some caret) (inside : caret.offset ≤ editor.text.length)
    (inserts : editor.mode ≠ .replace) (first : ∀ place ∈ places, caret.offset ≤ place) :
    editor.TypedAt (Editor.typeAt chars after index) chars (caret.offset :: places) := by
  have insertsAfter : after.mode ≠ .replace := typed.mode ▸ inserts
  obtain ⟨moved, there, offset⟩ := typed.carets index caret stands
  have place : after.carets.offsetAt index = caret.offset + places.count caret.offset * chars.length :=
    (CaretSet.offsetAt_of_get? there).trans (countP_of_first first ▸ offset)
  refine ⟨(edits_typeAt chars after index).mode.trans typed.mode, ?_, ?_, fun other old stood => ?_⟩
  · have none : ∀ earlier < caret.offset, places.count earlier = 0 := fun earlier before =>
      List.count_eq_zero.mpr fun member => Nat.not_le.mpr before (first earlier member)
    rw [text_typeAt chars index insertsAfter, place, typed.text, Document.replace_insertEach inside none]
    simp only [List.count_cons, beq_iff_eq]
  · rw [typeAt_insert chars index insertsAfter]
    exact ((CaretSet.size_modify _ _ _).trans (CaretSet.size_map _ _)).trans typed.size
  · obtain ⟨movedOther, thereOther, offsetOther⟩ := typed.carets other old stood
    obtain ⟨last, lastThere, lastOffset⟩ := get?_typeAt chars index insertsAfter thereOther
    refine ⟨last, lastThere, ?_⟩
    rw [lastOffset, place, offsetOther, moved_cons first]

/-- The carets one after the other, none of them behind one at which the text has been typed. -/
theorem TypedAt.foldl {indices : List Nat} (typed : editor.TypedAt after chars places)
    (inserts : editor.mode ≠ .replace) (inText : editor.InText)
    (stand : ∀ index ∈ indices, ∃ caret, editor.carets.get? index = some caret)
    (falling : indices.Pairwise fun first second =>
      editor.carets.offsetAt second ≤ editor.carets.offsetAt first)
    (front : ∀ index ∈ indices, ∀ place ∈ places, editor.carets.offsetAt index ≤ place) :
    editor.TypedAt (indices.foldl (Editor.typeAt chars) after) chars
      ((indices.map editor.carets.offsetAt).reverse ++ places) := by
  induction indices generalizing after places with
  | nil => exact typed
  | cons index rest ih =>
    obtain ⟨caret, stands⟩ := stand index List.mem_cons_self
    obtain ⟨indexFirst, restFalling⟩ := List.pairwise_cons.mp falling
    have offset := CaretSet.offsetAt_of_get? stands
    have inside := inText.offsetAt_le index
    have frontHere := front index List.mem_cons_self
    rw [offset] at inside frontHere
    have next := ih (typed.typeAt stands inside inserts frontHere)
      (fun other member => stand other (List.mem_cons_of_mem index member)) restFalling ?_
    · rwa [List.map_cons, List.reverse_cons, List.append_assoc, offset]
    · -- Those still to come are in front of this caret as well as of those before it.
      intro other member place placed
      rcases List.mem_cons.mp placed with isHere | before
      · exact isHere ▸ offset ▸ indexFirst other member
      · exact front other (List.mem_cons_of_mem index member) place before

theorem TypedAt.perm {others : List Nat} (typed : editor.TypedAt after chars places)
    (same : places.Perm others) : editor.TypedAt after chars others := by
  refine ⟨typed.mode, ?_, typed.size, fun index caret stands => ?_⟩
  · rw [typed.text]
    exact congrArg (editor.text.insertEach chars) (funext fun place => same.count_eq place)
  · rw [← same.countP_eq]
    exact typed.carets index caret stands

theorem TypedAt.retype (typed : editor.TypedAt after chars places) (typing : Typing) :
    editor.TypedAt { after with typing } chars places :=
  ⟨typed.mode, typed.text, typed.size, typed.carets⟩

/-- With the carets in falling order none is passed over, and none comes before those behind it. -/
theorem typedAt_descending (inserts : editor.mode ≠ .replace) (inText : editor.InText)
    (window : after.window = editor.window) (mode : after.mode = editor.mode) (chars : List Char) :
    editor.TypedAt (after.carets.descending.foldl (Editor.typeAt chars) after) chars
      (editor.carets.toList.map Caret.offset) := by
  have carets : after.carets = editor.carets := congrArg Window.carets window
  have typed := (typedAt_nil window mode chars).foldl inserts inText
    (fun _ => CaretSet.mem_descending_iff.mp) editor.carets.pairwise_descending fun _ _ _ => nofun
  rw [carets]
  refine typed.perm ?_
  rw [List.append_nil, ← CaretSet.map_offsetAt_range]
  exact (List.reverse_perm _).trans (editor.carets.perm_descending.map _)

theorem typedAt_insertText (chars : List Char) (inserts : editor.mode ≠ .replace) (inText : editor.InText) :
    editor.TypedAt (editor.insertText chars) chars (editor.carets.toList.map Caret.offset) := by
  unfold insertText
  dsimp only
  refine .retype (typedAt_descending inserts inText ?_ ?_ chars) _
  · exact editor.window_begin
  · rfl

/-- Text that is typed in insert mode is put in at each caret, and nothing else of the text changes. Each caret
moves by what is typed at it and in front of it: in a set in ascending order, the first by the text, the second
by twice the text, and so on. -/
theorem insertText_inserts_each (editor : Editor) (chars : List Char) (insert : editor.mode = .insert)
    (inText : editor.InText) :
    let typed := editor.insertText chars
    let offsets := editor.carets.toList.map Caret.offset
    typed.text = editor.text.insertEach chars (fun place => offsets.count place) ∧
      typed.carets.size = editor.carets.size ∧
      (∀ index caret, editor.carets.get? index = some caret →
        typed.carets.offsetAt index = caret.offset + offsets.countP (· ≤ caret.offset) * chars.length) ∧
      (editor.carets.Ascending → ∀ index caret, editor.carets.get? index = some caret →
        typed.carets.offsetAt index = caret.offset + (index + 1) * chars.length) := by
  have inserts : editor.mode ≠ .replace := insert ▸ nofun
  have typed := typedAt_insertText chars inserts inText
  have moves : ∀ index caret, editor.carets.get? index = some caret →
      (editor.insertText chars).carets.offsetAt index = caret.offset +
        (editor.carets.toList.map Caret.offset).countP (· ≤ caret.offset) * chars.length := by
    intro index caret stands
    obtain ⟨moved, there, offset⟩ := typed.carets index caret stands
    exact (CaretSet.offsetAt_of_get? there).trans offset
  refine ⟨typed.text, typed.size, moves, fun ascending index caret stands => ?_⟩
  rw [moves index caret stands, ascending.countP_offset stands]

/-- Two letters and a line break typed at three carets of a short text. -/
theorem insertText_inserts_each_three :
    let editor : Editor :=
      { window := { text := "one\ntwo".toList, carets := ⟨[.ofOffset 0], .ofOffset 3, [.ofOffset 7]⟩ }
        mode := .insert }
    let typed := editor.insertText "ab\n".toList
    editor.mode = .insert ∧ editor.InText ∧ editor.carets.Ascending ∧
      typed.text = "ab\noneab\n\ntwoab\n".toList ∧ typed.carets.offsetAt 0 = 3 ∧
      typed.carets.offsetAt 1 = 9 ∧ typed.carets.offsetAt 2 = 16 := by
  intro editor typed
  have inText : ∀ caret ∈ editor.carets.toList, caret.offset ≤ editor.text.length := by decide
  have ascending : editor.carets.toList.Pairwise fun first second => first.offset < second.offset := by decide
  obtain ⟨text, _, _, moves⟩ := insertText_inserts_each editor "ab\n".toList rfl inText
  refine ⟨rfl, inText, ascending, text.trans (by decide), ?_, ?_, ?_⟩
  · exact moves ascending 0 (.ofOffset 0) rfl
  · exact moves ascending 1 (.ofOffset 3) rfl
  · exact moves ascending 2 (.ofOffset 7) rfl

end Editor

end ModalEdit

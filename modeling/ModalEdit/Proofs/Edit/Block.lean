import Mathlib.Data.List.Basic
import ModalEdit.Edit.Operator
import ModalEdit.Proofs.Edit.Shifting

/-!
A block is made of the characters that take up a cell of its columns. They stand side by side on each line, and
deleting a block removes them and nothing else.
-/

set_option autoImplicit false

namespace ModalEdit

namespace Ruler

/-- The characters of a line, each with the column it is drawn at. -/
def placed (ruler : Ruler) : (column : Nat) → List Char → List (Nat × Char)
  | _, [] => []
  | column, c :: rest => (column, c) :: ruler.placed (ruler.advance column c) rest

/-- Whether a character takes up a cell from `left` on and before `right?`. -/
def Meets (ruler : Ruler) (left : Nat) (right? : Option Nat) (entry : Nat × Char) : Prop :=
  ∃ cell < ruler.advance entry.1 entry.2, entry.1 ≤ cell ∧ left ≤ cell ∧ ∀ right ∈ right?, cell < right

instance (ruler : Ruler) (left : Nat) (right? : Option Nat) (entry : Nat × Char) :
    Decidable (ruler.Meets left right? entry) :=
  inferInstanceAs (Decidable (∃ cell < _, _ ∧ _ ∧ ∀ right ∈ right?, cell < right))

/-- The characters of a line that a block takes in. -/
def inside (ruler : Ruler) (left : Nat) (right? : Option Nat) (line : List Char) : List Char :=
  ((ruler.placed 0 line).filter fun entry => ruler.Meets left right? entry).map Prod.snd

/-- The characters of a line that a block leaves out. -/
def outside (ruler : Ruler) (left : Nat) (right? : Option Nat) (line : List Char) : List Char :=
  ((ruler.placed 0 line).filter fun entry => ¬ ruler.Meets left right? entry).map Prod.snd

/-- Whether a character takes up a cell. -/
def Shows (ruler : Ruler) (c : Char) : Prop :=
  c = '\t' ∨ 0 < ruler.width c

instance (ruler : Ruler) (c : Char) : Decidable (ruler.Shows c) :=
  inferInstanceAs (Decidable (_ ∨ _))

/-- How many characters of a line begin before the right edge of a block. -/
def countUpTo (ruler : Ruler) (right? : Option Nat) (line : List Char) : Nat :=
  (right?.map fun right => ruler.countBelow right 0 line).getD line.length

variable {ruler : Ruler} {column left right : Nat} {right? : Option Nat} {chars : List Char} {entry : Nat × Char}

theorem countUpTo_le (ruler : Ruler) (right? : Option Nat) (line : List Char) :
    ruler.countUpTo right? line ≤ line.length := by
  cases right? with
  | none => exact Nat.le_refl _
  | some right => exact ruler.countBelow_le right 0 line

theorem Shows.lt_advance {c : Char} (seen : ruler.Shows c) (some : 0 < ruler.tab) (column : Nat) :
    column < ruler.advance column c := by
  have rest := Nat.mod_lt column some
  unfold advance widthAt
  rcases seen with tab | wide
  · rw [if_pos tab]
    omega
  · split <;> omega

@[simp]
theorem map_snd_placed (ruler : Ruler) (column : Nat) (chars : List Char) :
    (ruler.placed column chars).map Prod.snd = chars := by
  induction chars generalizing column with
  | nil => rfl
  | cons c rest ih => rw [placed, List.map_cons, ih]

theorem mem_of_mem_placed (member : entry ∈ ruler.placed column chars) : entry.2 ∈ chars := by
  rw [← ruler.map_snd_placed column chars]
  exact List.mem_map_of_mem member

theorem le_of_mem_placed (member : entry ∈ ruler.placed column chars) : column ≤ entry.1 := by
  induction chars generalizing column with
  | nil => cases member
  | cons c rest ih =>
    rcases List.mem_cons.mp member with rfl | behind
    · exact Nat.le_refl column
    · exact Nat.le_trans (ruler.le_advance column c) (ih behind)

theorem outside_subset (ruler : Ruler) (left : Nat) (right? : Option Nat) (line : List Char) :
    ruler.outside left right? line ⊆ line := by
  intro c member
  obtain ⟨entry, kept, rfl⟩ := List.mem_map.mp member
  exact mem_of_mem_placed (List.mem_of_mem_filter kept)

section Edges

/-- What stands before the left edge ends before it. -/
theorem advance_le_of_mem_take
    (member : entry ∈ (ruler.placed column chars).take (ruler.countBefore left column chars)) :
    ruler.advance entry.1 entry.2 ≤ left := by
  induction chars generalizing column with
  | nil => cases member
  | cons c rest ih =>
    rw [placed, countBefore] at member
    split at member
    · cases member
    · rename_i before
      rw [Nat.add_comm, List.take_succ_cons] at member
      rcases List.mem_cons.mp member with rfl | behind
      · exact Nat.not_lt.mp before
      · exact ih behind

theorem lt_advance_of_mem_drop
    (member : entry ∈ (ruler.placed column chars).drop (ruler.countBefore left column chars)) :
    left < ruler.advance entry.1 entry.2 := by
  induction chars generalizing column with
  | nil => cases member
  | cons c rest ih =>
    rw [placed, countBefore] at member
    split at member
    · rename_i reaches
      rcases List.mem_cons.mp member with rfl | behind
      · exact reaches
      · have starts := le_of_mem_placed behind
        have ends := ruler.le_advance entry.1 entry.2
        omega
    · rw [Nat.add_comm, List.drop_succ_cons] at member
      exact ih member

theorem lt_of_mem_take (member : entry ∈ (ruler.placed column chars).take (ruler.countBelow right column chars)) :
    entry.1 < right := by
  induction chars generalizing column with
  | nil => cases member
  | cons c rest ih =>
    rw [placed, countBelow] at member
    split at member
    · cases member
    · rename_i before
      rw [Nat.add_comm, List.take_succ_cons] at member
      rcases List.mem_cons.mp member with rfl | behind
      · exact Nat.not_le.mp before
      · exact ih behind

theorem le_of_mem_drop (member : entry ∈ (ruler.placed column chars).drop (ruler.countBelow right column chars)) :
    right ≤ entry.1 := by
  induction chars generalizing column with
  | nil => cases member
  | cons c rest ih =>
    rw [placed, countBelow] at member
    split at member
    · rename_i reached
      have inLine : entry ∈ ruler.placed column (c :: rest) := member
      exact Nat.le_trans reached (le_of_mem_placed inLine)
    · rw [Nat.add_comm, List.drop_succ_cons] at member
      exact ih member

theorem begins_before_right (member : entry ∈ (ruler.placed 0 chars).take (ruler.countUpTo right? chars)) :
    ∀ right ∈ right?, entry.1 < right := by
  rintro right rfl
  exact lt_of_mem_take member

theorem begins_behind_right (member : entry ∈ (ruler.placed 0 chars).drop (ruler.countUpTo right? chars)) :
    ∃ right ∈ right?, right ≤ entry.1 := by
  cases right? with
  | none =>
    have length := congrArg List.length (ruler.map_snd_placed 0 chars)
    rw [List.length_map] at length
    rw [countUpTo, Option.map_none, Option.getD_none, ← length, List.drop_length] at member
    cases member
  | some right => exact ⟨right, rfl, le_of_mem_drop member⟩

end Edges

theorem countBefore_le_countBelow (left column : Nat) (seen : ∀ c ∈ chars, ruler.Shows c) (some : 0 < ruler.tab) :
    ruler.countBefore left column chars ≤ ruler.countBelow left column chars := by
  induction chars generalizing column with
  | nil => exact Nat.le_refl 0
  | cons c rest ih =>
    have wide := (seen c List.mem_cons_self).lt_advance some column
    have behind := ih (ruler.advance column c) fun other member => seen other (List.mem_cons_of_mem c member)
    rw [countBefore, countBelow]
    split
    · exact Nat.zero_le _
    · rw [if_neg (by omega)]
      omega

section Parts

variable (ordered : ∀ right ∈ right?, left < right)

include ordered

theorem countBefore_le_countUpTo (ruler : Ruler) (chars : List Char) :
    ruler.countBefore left 0 chars ≤ ruler.countUpTo right? chars := by
  refine Nat.not_lt.mp fun further => ?_
  have within : ruler.countUpTo right? chars < (ruler.placed 0 chars).length := by
    have upTo := ruler.countBefore_le left 0 chars
    have length := congrArg List.length (ruler.map_snd_placed 0 chars)
    rw [List.length_map] at length
    omega
  -- The first character behind the right edge would stand before the left one.
  let entry := (ruler.placed 0 chars)[ruler.countUpTo right? chars]
  have isBehind : entry ∈ (ruler.placed 0 chars).drop (ruler.countUpTo right? chars) :=
    List.mem_drop_iff_getElem.mpr ⟨0, (Nat.zero_add _).symm ▸ within, by simp only [Nat.add_zero, entry]⟩
  have isBefore : entry ∈ (ruler.placed 0 chars).take (ruler.countBefore left 0 chars) :=
    List.mem_take_iff_getElem.mpr ⟨_, Nat.lt_min.mpr ⟨further, within⟩, rfl⟩
  obtain ⟨right, isRight, begins⟩ := begins_behind_right isBehind
  have ends := Nat.le_trans (ruler.le_advance entry.1 entry.2) (advance_le_of_mem_take isBefore)
  exact absurd (ordered right isRight) (Nat.not_lt.mpr (Nat.le_trans begins ends))

theorem placed_parts :
    ruler.placed 0 chars =
      (ruler.placed 0 chars).take (ruler.countBefore left 0 chars) ++
        (((ruler.placed 0 chars).take (ruler.countUpTo right? chars)).drop (ruler.countBefore left 0 chars) ++
          (ruler.placed 0 chars).drop (ruler.countUpTo right? chars)) := by
  have upTo := countBefore_le_countUpTo ordered ruler chars
  have front := List.take_append_drop (ruler.countBefore left 0 chars)
    ((ruler.placed 0 chars).take (ruler.countUpTo right? chars))
  rw [List.take_take, Nat.min_eq_left upTo] at front
  rw [← List.append_assoc, front, List.take_append_drop]

variable (seen : ∀ c ∈ chars, ruler.Shows c) (some : 0 < ruler.tab)

include seen some

/-- The characters between the edges meet the block, and those before and behind do not. -/
theorem meets_iff_mem (member : entry ∈ ruler.placed 0 chars) :
    ruler.Meets left right? entry ↔
      left < ruler.advance entry.1 entry.2 ∧ ∀ right ∈ right?, entry.1 < right := by
  have wide := (seen entry.2 (mem_of_mem_placed member)).lt_advance some entry.1
  constructor
  · rintro ⟨cell, within, behind, fromLeft, upToRight⟩
    exact ⟨Nat.lt_of_le_of_lt fromLeft within,
      fun right isRight => Nat.lt_of_le_of_lt behind (upToRight right isRight)⟩
  · rintro ⟨reaches, begins⟩
    refine ⟨max entry.1 left, Nat.max_lt.mpr ⟨wide, reaches⟩, Nat.le_max_left _ _, Nat.le_max_right _ _, ?_⟩
    intro right isRight
    exact Nat.max_lt.mpr ⟨begins right isRight, ordered right isRight⟩

theorem meets_parts :
    (∀ entry ∈ (ruler.placed 0 chars).take (ruler.countBefore left 0 chars), ¬ ruler.Meets left right? entry) ∧
      (∀ entry ∈
          ((ruler.placed 0 chars).take (ruler.countUpTo right? chars)).drop (ruler.countBefore left 0 chars),
        ruler.Meets left right? entry) ∧
      ∀ entry ∈ (ruler.placed 0 chars).drop (ruler.countUpTo right? chars), ¬ ruler.Meets left right? entry := by
  refine ⟨fun entry member meets => ?_, fun entry member => ?_, fun entry member meets => ?_⟩
  · have reaches := ((meets_iff_mem ordered seen some (List.mem_of_mem_take member)).mp meets).1
    exact absurd (advance_le_of_mem_take member) (Nat.not_le.mpr reaches)
  · have inFront := List.mem_of_mem_drop member
    rw [List.drop_take] at member
    exact (meets_iff_mem ordered seen some (List.mem_of_mem_take inFront)).mpr
      ⟨lt_advance_of_mem_drop (List.mem_of_mem_take member), begins_before_right inFront⟩
  · obtain ⟨right, isRight, behind⟩ := begins_behind_right member
    have begins := ((meets_iff_mem ordered seen some (List.mem_of_mem_drop member)).mp meets).2 right isRight
    exact absurd behind (Nat.not_le.mpr begins)

/-- On a line a block is the part between the character that covers its left edge and the first one behind its
right edge. -/
theorem inside_eq :
    ruler.inside left right? chars =
      (chars.take (ruler.countUpTo right? chars)).drop (ruler.countBefore left 0 chars) := by
  obtain ⟨front, between, back⟩ := meets_parts ordered seen some
  rw [inside, placed_parts ordered, List.filter_append, List.filter_append,
    List.filter_eq_nil_iff.mpr (by simpa using front), List.filter_eq_self.mpr (by simpa using between),
    List.filter_eq_nil_iff.mpr (by simpa using back), List.nil_append, List.append_nil, List.map_drop,
    List.map_take, map_snd_placed]

theorem outside_eq :
    ruler.outside left right? chars =
      chars.take (ruler.countBefore left 0 chars) ++ chars.drop (ruler.countUpTo right? chars) := by
  obtain ⟨front, between, back⟩ := meets_parts ordered seen some
  rw [outside, placed_parts ordered, List.filter_append, List.filter_append,
    List.filter_eq_self.mpr (by simpa using front), List.filter_eq_nil_iff.mpr (by simpa using between),
    List.filter_eq_self.mpr (by simpa using back), List.nil_append, List.map_append, List.map_take, List.map_drop,
    map_snd_placed]

/-- A line that has a place at the left edge of a block has one without the block, too. -/
theorem le_columnAfter_outside {count : Nat} (inside : count ≤ chars.length)
    (edge : ruler.columnAfter 0 (chars.take count) = left) :
    left ≤ ruler.columnAfter 0 (ruler.outside left right? chars) := by
  have before := le_countBefore inside (Nat.le_of_eq edge)
  have front := ruler.columnAfter_take_le 0 count (chars.take (ruler.countBefore left 0 chars))
  rw [List.take_take, Nat.min_eq_left before, edge] at front
  rw [outside_eq ordered seen some, columnAfter_append]
  exact Nat.le_trans front (ruler.le_columnAfter _ _)

end Parts

end Ruler

namespace Window

open Document

/-- Whether every character of the lines takes up a cell. -/
def AllShow (window : Window) : Prop :=
  ∀ line ∈ window.text.lines, ∀ c ∈ line, window.ruler.Shows c

theorem allShow_of_text {window : Window} (seen : ∀ c ∈ window.text, c = '\n' ∨ window.ruler.Shows c) :
    window.AllShow := by
  intro line member c inLine
  obtain ⟨inText, noFeed⟩ := mem_of_mem_lines member inLine
  exact (seen c inText).resolve_left noFeed

variable {window : Window} {first last row left : Nat} {right? : Option Nat}
  (ordered : ∀ right ∈ right?, left < right)

include ordered

theorem blockSegment_eq :
    window.blockSegment row left right? =
      (window.text.lineStart row + window.ruler.countBefore left 0 (lineText window.text row),
        window.text.lineStart row + window.ruler.countUpTo right? (lineText window.text row)) := by
  have upTo := Ruler.countBefore_le_countUpTo ordered window.ruler (lineText window.text row)
  rw [← Nat.min_eq_left upTo]
  rfl

end Window

namespace Workspace

open Document

variable {space : Workspace} {first last left : Nat} {right? : Option Nat}

theorem text_removePieces (space : Workspace) (pieces : List (Nat × Nat)) :
    (space.removePieces pieces).text =
      pieces.foldr (fun piece text => text.replace piece.1 piece.2 []) space.text := by
  induction pieces with
  | nil => rfl
  | cons piece rest ih => rw [List.foldr_cons, ← ih]; rfl

section Plain

variable (plain : Plain space.text) (ordered : ∀ right ∈ right?, left < right)

include plain ordered

/-- Removing a block takes its part out of each of its lines. -/
theorem text_removeBlock :
    (space.removePieces (space.window.blockSegments first last left right?)).text =
      space.text.mapLines fun row line =>
        if first ≤ row ∧ row ≤ last then
          line.take (space.window.ruler.countBefore left 0 line) ++
            line.drop (space.window.ruler.countUpTo right? line)
        else line := by
  have isLine (row : Nat) (member : row ∈ space.text.linesWithin first last) : row ≤ space.text.lastLine :=
    (mem_linesWithin.mp member).2.2
  have within (row : Nat) (member : row ∈ space.text.linesWithin first last) :
      ∃ line, space.text.lines[row]? = some line ∧
        space.window.ruler.countBefore left 0 (lineText space.text row) ≤
          space.window.ruler.countUpTo right? (lineText space.text row) ∧
        space.window.ruler.countUpTo right? (lineText space.text row) ≤ line.length :=
    ⟨_, plain.getElem?_lines (isLine row member), Ruler.countBefore_le_countUpTo ordered _ _,
      Ruler.countUpTo_le _ _ _⟩
  have pieces := foldr_replace_ofLines (fun _ => []) (space.text.pairwise_linesWithin first last) within
  rw [ofLines_lines] at pieces
  rw [text_removePieces, Window.blockSegments, List.foldr_map]
  refine (List.foldr_ext _ _ _ fun row member text => ?_).trans (pieces.trans ?_)
  · rw [Window.blockSegment_eq ordered, ← plain.lineStart_eq (isLine row member)]
    rfl
  · apply plain.mapLines_congr
    intro row isLine
    simp only [mem_linesWithin, isLine, and_true, List.append_nil]

/-- Where each character takes up a cell, the part that goes is the block. -/
theorem text_removeBlock_outside (seen : space.window.AllShow) :
    (space.removePieces (space.window.blockSegments first last left right?)).text =
      space.text.mapLines fun row line =>
        if first ≤ row ∧ row ≤ last then space.window.ruler.outside left right? line else line := by
  rw [text_removeBlock plain ordered]
  apply plain.mapLines_congr
  intro row isLine
  have lineSeen := seen _ (List.mem_of_getElem? (plain.getElem?_lines isLine))
  rw [← Ruler.outside_eq ordered lineSeen space.window.ruler_tab_pos]

end Plain

/-- The parts of a block are those of its lines. -/
theorem blockParts_eq (space : Workspace) (first last : Nat) (ordered : ∀ right ∈ right?, left < right) :
    ((space.window.blockSegments first last left right?).map fun part => space.window.text.slice part.1 part.2) =
      (space.text.linesWithin first last).map fun row =>
        ((lineText space.text row).take (space.window.ruler.countUpTo right? (lineText space.text row))).drop
          (space.window.ruler.countBefore left 0 (lineText space.text row)) := by
  rw [Window.blockSegments, List.map_map]
  apply List.map_congr_left
  intro row _
  rw [Function.comp_apply, Window.blockSegment_eq ordered]
  exact slice_lineStart_add _ (Ruler.countUpTo_le _ _ _)

theorem registers_removePieces (space : Workspace) (pieces : List (Nat × Nat)) :
    (space.removePieces pieces).registers = space.registers := by
  induction pieces with
  | nil => rfl
  | cons piece rest ih => exact ih

/-- Deleting a block takes the characters that have a cell in its columns out of its lines, changes nothing else,
and records what it takes, one line below the other. -/
theorem delete_removes_block (space : Workspace) (first last left steps : Nat) (right? : Option Nat)
    (name? : Option Char) (plain : Plain space.text)
    (seen : ∀ c ∈ space.text, c = '\n' ∨ space.window.ruler.Shows c) (ordered : ∀ right ∈ right?, left < right) :
    let deleted := (space.applyOperator .delete (.block first last left right?) name? steps).1
    let ruler := space.window.ruler
    deleted.text = space.text.mapLines (fun row line =>
      if first ≤ row ∧ row ≤ last then ruler.outside left right? line else line) ∧
    deleted.registers = space.registers.record name?
      ⟨['\n'].intercalate (((space.text.lines.take (last + 1)).drop first).map (ruler.inside left right?)), .char⟩
      .delete := by
  intro deleted ruler
  have allShow : space.window.AllShow := Window.allShow_of_text seen
  constructor
  · have text : deleted.text = (space.removePieces (space.window.blockSegments first last left right?)).text :=
      (text_removePieces _ _).trans (text_removePieces space _).symm
    exact text.trans (text_removeBlock_outside plain ordered allShow)
  · have registers : deleted.registers =
        space.registers.record name? ((Span.block first last left right?).register space.window) .delete :=
      registers_removePieces _ _
    rw [registers, plain.lines_within, List.map_map, Span.register, blockParts_eq space first last ordered]
    congr 3
    apply List.map_congr_left
    intro row member
    have lineSeen := allShow _ (List.mem_of_getElem? (plain.getElem?_lines (mem_linesWithin.mp member).2.2))
    exact (Ruler.inside_eq ordered lineSeen space.window.ruler_tab_pos).symm

theorem delete_removes_block_straddled :
    let space : Workspace := { window := { text := "a\tb\nx\n漢字de".toList, tabWidth := 4 } }
    let deleted := (space.applyOperator .delete (.block 0 2 2 (some 4)) none 1).1
    Document.Plain space.text ∧ (∀ c ∈ space.text, c = '\n' ∨ space.window.ruler.Shows c) ∧
      (∀ right ∈ some 4, 2 < right) ∧ deleted.text = "ab\nx\n漢de".toList ∧
      (deleted.registers.read .unnamed).content = "\t\n\n字".toList := by
  intro space deleted
  have plain : Document.Plain space.text := by decide
  have each : (space.text.all fun c => c = '\n' ∨ space.window.ruler.Shows c) = true := by decide +kernel
  have seen : ∀ c ∈ space.text, c = '\n' ∨ space.window.ruler.Shows c :=
    fun c member => of_decide_eq_true (List.all_eq_true.mp each c member)
  have ordered : ∀ right ∈ some 4, 2 < right := by decide
  obtain ⟨text, registers⟩ := delete_removes_block space 0 2 2 1 (some 4) none plain seen ordered
  refine ⟨plain, seen, ordered, text.trans (by decide +kernel), ?_⟩
  rw [registers]
  decide +kernel

end Workspace

end ModalEdit

import Mathlib.Data.List.DropRight
import ModalEdit.Edit.Shift
import ModalEdit.Proofs.Document.LineList
import ModalEdit.Proofs.Edit.Settings
import ModalEdit.Proofs.Window.Columns

/-!
Shifting lines: an indent that is made for a width measures that width again, so that each line of the span
moves by the columns asked for, and nothing else of the text changes. The screen columns of a line are those of
its characters alone, in a text in which only line feeds end a line.
-/

set_option autoImplicit false

namespace ModalEdit

/-! ### The columns of a line -/

/-- Whether a character belongs to the blanks that a line begins with. -/
def isIndent (c : Char) : Bool :=
  c == ' ' || c == '\t'

namespace Document

theorem firstNonBlank_eq (text : Document) (line : Nat) :
    firstNonBlank text line = lineStart text line + ((lineText text line).takeWhile isIndent).length := rfl

/-- The lines of a span, cut out of all lines. -/
theorem Plain.lines_within {text : Document} (plain : Plain text) (first last : Nat) :
    (text.lines.take (last + 1)).drop first = (text.linesWithin first last).map (lineText text) := by
  apply List.ext_getElem?
  intro place
  rw [List.getElem?_drop, List.getElem?_take, List.getElem?_map, linesWithin]
  by_cases isLine : first + place ≤ min last (lastLine text)
  · have inSpan : first + place < last + 1 := by omega
    have inRange : place < min last (lastLine text) + 1 - first := by omega
    rw [if_pos inSpan, plain.getElem?_lines (by omega), List.getElem?_range' inRange, Option.map_some, Nat.one_mul]
  · have noRange : (List.range' first (min last (lastLine text) + 1 - first)).length ≤ place := by
      rw [List.length_range']
      omega
    rw [List.getElem?_eq_none noRange, Option.map_none]
    split
    · apply List.getElem?_eq_none
      rw [plain.length_lines]
      omega
    · rfl

end Document

namespace Window

open Document

variable {window : Window} {line : Nat}

section Plain

variable (plain : Plain window.text) (isLine : line ≤ window.text.lastLine)

include plain isLine

theorem indentWidth_eq :
    window.indentWidth line = window.ruler.columnAfter 0 ((window.text.lineText line).takeWhile isIndent) := by
  have indent := List.takeWhile_prefix isIndent (l := window.text.lineText line)
  rw [indentWidth, firstNonBlank_eq, displayColumn_lineStart_add plain isLine indent.length_le,
    ← List.prefix_iff_eq_take.mp indent]

end Plain

end Window

/-! ### Indents -/

namespace Ruler

variable (ruler : Ruler)

theorem columnAfter_spaces (narrow : ruler.width ' ' = 1) (column count : Nat) :
    ruler.columnAfter column (List.replicate count ' ') = column + count := by
  induction count generalizing column with
  | zero => rfl
  | succ count ih =>
    have next : ruler.advance column ' ' = column + 1 := by
      simp [advance, widthAt, narrow]
    rw [List.replicate_succ, columnAfter_cons, next, ih]
    omega

theorem columnAfter_tabs (stops count : Nat) :
    ruler.columnAfter (stops * ruler.tab) (List.replicate count '\t') = (stops + count) * ruler.tab := by
  induction count generalizing stops with
  | zero => rfl
  | succ count ih =>
    have next : ruler.advance (stops * ruler.tab) '\t' = (stops + 1) * ruler.tab := by
      simp [advance, widthAt, Nat.succ_mul]
    rw [List.replicate_succ, columnAfter_cons, next, ih]
    congr 1
    omega

/-- An indent is as wide as it was asked to be, where the tabs of the text are those of the screen. -/
theorem columnAfter_indentText (narrow : ruler.width ' ' = 1) (width : Nat) (expand : Bool) :
    ruler.columnAfter 0 (indentText width ruler.tab expand) = width := by
  by_cases spacesOnly : expand = true ∨ ruler.tab = 0
  · rw [indentText, if_pos spacesOnly, ruler.columnAfter_spaces narrow, Nat.zero_add]
  · have tabs := ruler.columnAfter_tabs 0 (width / ruler.tab)
    rw [Nat.zero_mul, Nat.zero_add] at tabs
    rw [indentText, if_neg spacesOnly, columnAfter_append, tabs, ruler.columnAfter_spaces narrow]
    exact Nat.div_add_mod' width ruler.tab

end Ruler

theorem isIndent_of_mem_indentText {width tabStop : Nat} {expand : Bool} {c : Char}
    (member : c ∈ indentText width tabStop expand) : isIndent c = true := by
  unfold indentText at member
  split at member
  · rw [List.eq_of_mem_replicate member]
    decide
  · rcases List.mem_append.mp member with tab | space
    · rw [List.eq_of_mem_replicate tab]
      decide
    · rw [List.eq_of_mem_replicate space]
      decide

namespace Workspace

open Document

/-- The width of an indent once it has been shifted. -/
def shiftedWidth (right : Bool) (columns width : Nat) : Nat :=
  if right then Number.wrapAdd width columns else width - columns

/-- The indent of a line, as wide as the window shows it. -/
def indentColumns (space : Workspace) (line : List Char) : Nat :=
  space.window.ruler.columnAfter 0 (line.takeWhile isIndent)

theorem indentWidth_eq {space : Workspace} {line : Nat} (plain : Plain space.text)
    (isLine : line ≤ space.text.lastLine) :
    space.window.displayColumn (space.text.firstNonBlank line) = space.indentColumns (lineText space.text line) :=
  @Window.indentWidth_eq space.window line plain isLine

/-- A line with its indent made anew, as wide as shifting makes it. A line that is not moved stays as it is. -/
def shiftedLine (space : Workspace) (right : Bool) (columns : Nat) (line : List Char) : List Char :=
  let shifted := shiftedWidth right columns (space.indentColumns line)
  if right ∧ line = [] ∨ shifted = space.indentColumns line then line
  else indentText shifted space.tabStop (space.options.flag "expandtab") ++ line.dropWhile isIndent

variable {space : Workspace} {right : Bool} {columns : Nat}

theorem indentColumns_congr {other : Workspace} (same : other.settings = space.settings) (line : List Char) :
    other.indentColumns line = space.indentColumns line := by
  have tabs : other.window.tabWidth = space.window.tabWidth := congrArg (·.2.1) same
  simp only [indentColumns, Window.ruler, tabs]

theorem shiftedLine_congr {other : Workspace} (same : other.settings = space.settings) (line : List Char) :
    other.shiftedLine right columns line = space.shiftedLine right columns line := by
  have options : other.options = space.options := congrArg Prod.fst same
  simp only [shiftedLine, tabStop, indentColumns_congr same, options]

/-- An empty line gets no indent, and has none to lose. -/
theorem shiftedLine_nil : space.shiftedLine right columns [] = [] := by
  have none : space.indentColumns [] = 0 := rfl
  have stays : right = true ∧ ([] : List Char) = [] ∨
      shiftedWidth right columns (space.indentColumns []) = space.indentColumns [] := by
    cases right with
    | true => exact Or.inl ⟨rfl, rfl⟩
    | false => exact Or.inr (by simp [none, shiftedWidth])
  rw [shiftedLine, if_pos stays]

theorem unbroken_shiftedLine {line : List Char} (unbroken : Unbroken line) :
    Unbroken (space.shiftedLine right columns line) := by
  unfold shiftedLine
  dsimp only
  split
  · exact unbroken
  · intro c member
    rcases List.mem_append.mp member with inIndent | behind
    · have blank := isIndent_of_mem_indentText inIndent
      rw [isIndent, Bool.or_eq_true, beq_iff_eq, beq_iff_eq] at blank
      rcases blank with rfl | rfl <;> decide
    · exact unbroken c ((List.dropWhile_suffix isIndent).subset behind)

/-- Whichever lines are shifted, no line is broken. -/
theorem unbroken_ite_shiftedLine {line : List Char} (shifts : Prop) [Decidable shifts] (unbroken : Unbroken line) :
    Unbroken (if shifts then space.shiftedLine right columns line else line) := by
  split
  · exact unbroken_shiftedLine unbroken
  · exact unbroken

/-- What stands behind the indent is not changed. -/
theorem dropWhile_shiftedLine (line : List Char) :
    (space.shiftedLine right columns line).dropWhile isIndent = line.dropWhile isIndent := by
  unfold shiftedLine
  dsimp only
  split
  · rfl
  · rw [List.dropWhile_append_of_pos fun _ => isIndent_of_mem_indentText, List.dropWhile_idempotent]

theorem indentColumns_shiftedLine (sameTabs : space.window.tabWidth = space.tabStop) {line : List Char}
    (some : line ≠ []) :
    space.indentColumns (space.shiftedLine right columns line) =
      shiftedWidth right columns (space.indentColumns line) := by
  unfold shiftedLine
  dsimp only
  by_cases stays : right = true ∧ line = [] ∨
      shiftedWidth right columns (space.indentColumns line) = space.indentColumns line
  · rw [if_pos stays, stays.resolve_left fun empty => some empty.2]
  · have tabs : space.tabStop = space.window.ruler.tab := by
      rw [Window.ruler, sameTabs]
      exact (Nat.max_eq_left (Nat.le_max_right _ 1)).symm
    have bare : (line.dropWhile isIndent).takeWhile isIndent = [] := by
      have parts := List.takeWhile_append_dropWhile (p := isIndent) (l := line.dropWhile isIndent)
      rwa [List.dropWhile_idempotent, List.append_left_eq_self] at parts
    have narrow : space.window.ruler.width ' ' = 1 := by
      show (Text.cellWidth? ' ').getD 0 = 1
      decide
    rw [if_neg stays, tabs, indentColumns, List.takeWhile_append_of_pos fun _ => isIndent_of_mem_indentText, bare,
      List.append_nil, space.window.ruler.columnAfter_indentText narrow]

section Shift

variable (plain : Plain space.text)

include plain

/-- Shifting a line changes that line alone. -/
theorem text_shiftLine (right : Bool) (columns : Nat) {row : Nat} (isLine : row ≤ space.text.lastLine) :
    (space.shiftLine right columns row).text =
      space.text.mapLines fun other line =>
        if other = row then space.shiftedLine right columns line else line := by
  rw [← plain.ofLines_set isLine]
  have found := plain.getElem?_lines isLine
  have start := plain.lineStart_eq isLine
  have width : space.window.indentWidth row = space.indentColumns (lineText space.text row) :=
    indentWidth_eq plain isLine
  have empty : space.text.lineLength row = 0 ↔ lineText space.text row = [] := by
    rw [← List.length_eq_zero_iff, length_lineText]
    rfl
  have lines : space.text = ofLines space.text.lines := (ofLines_lines space.text).symm
  generalize content : lineText space.text row = line at found width empty
  have goesOn : (right = true ∧ space.text.lineLength row = 0 ∨
      shiftedWidth right columns (space.window.indentWidth row) = space.window.indentWidth row) ↔
      (right = true ∧ line = [] ∨
        shiftedWidth right columns (space.indentColumns line) = space.indentColumns line) := by
    rw [empty, width]
  by_cases stays : right = true ∧ line = [] ∨
      shiftedWidth right columns (space.indentColumns line) = space.indentColumns line
  · have same : space.text.lines.set row line = space.text.lines := by
      obtain ⟨within, rfl⟩ := List.getElem?_eq_some_iff.mp found
      exact List.set_getElem_self within
    rw [shiftLine, shiftedLine, if_pos stays, same, ← lines]
    exact congrArg text (if_pos (goesOn.mpr stays))
  · have indent := List.takeWhile_prefix isIndent (l := line)
    have moved : space.shiftLine right columns row =
        space.setIndent row (shiftedWidth right columns (space.window.indentWidth row)) :=
      if_neg (mt goesOn.mp stays)
    have behind : line.drop (line.takeWhile isIndent).length = line.dropWhile isIndent := by
      have rest : (line.takeWhile isIndent ++ line.dropWhile isIndent).drop (line.takeWhile isIndent).length =
          line.dropWhile isIndent := List.drop_left
      rwa [List.takeWhile_append_dropWhile] at rest
    have replaced := replace_ofLines found (Nat.zero_le _) indent.length_le
      (indentText (shiftedWidth right columns (space.indentColumns line)) space.tabStop
        (space.options.flag "expandtab"))
    rw [List.take_zero, List.nil_append, ← lines, Nat.add_zero, behind] at replaced
    rw [moved, setIndent, text_replace, shiftedLine, if_neg stays, width, firstNonBlank_eq, content, start,
      ← replaced]

/-- Lines are shifted one after the other, and each is still as it was when its turn comes. -/
theorem text_foldl_shiftLine {changed : List Nat} (once : changed.Nodup)
    (within : ∀ row ∈ changed, row ≤ space.text.lastLine) :
    (changed.foldl (fun space row => space.shiftLine right columns row) space).text =
      space.text.mapLines fun row line =>
        if row ∈ changed then space.shiftedLine right columns line else line := by
  induction changed generalizing space with
  | nil => simp
  | cons row rest ih =>
    obtain ⟨notAgain, restOnce⟩ := List.nodup_cons.mp once
    have shifted := text_shiftLine plain right columns (within row List.mem_cons_self)
    have alike : (space.shiftLine right columns row).settings = space.settings := settings_shiftLine _ _ _
    have keeps (other : Nat) (line : List Char) (unbroken : Unbroken line) :
        Unbroken (if other = row then space.shiftedLine right columns line else line) :=
      unbroken_ite_shiftedLine _ unbroken
    have nextPlain := plain.plain_mapLines keeps
    have sameLast := plain.lastLine_mapLines keeps
    have others := plain.mapLines_mapLines keeps
    rw [← shifted] at nextPlain sameLast others
    rw [List.foldl_cons, ih nextPlain restOnce, others]
    · congr 1
      funext other line
      by_cases here : other = row
      · simp only [here, notAgain, ↓reduceIte, List.mem_cons, true_or]
      · simp only [here, ↓reduceIte, shiftedLine_congr alike, List.mem_cons, false_or]
    · intro other member
      rw [sameLast]
      exact within other (List.mem_cons_of_mem row member)

/-- Shifting changes the lines of the span, each by itself. -/
theorem text_shiftLines (first last times : Nat) :
    (space.shiftLines first last right times).text =
      space.text.mapLines fun row line =>
        if first ≤ row ∧ row ≤ last then
          space.shiftedLine right (Number.wrapMul space.shiftWidth times) line
        else line := by
  have once : (space.text.linesWithin first last).Nodup :=
    (space.text.pairwise_linesWithin first last).imp Nat.ne_of_lt
  have within (row : Nat) (member : row ∈ space.text.linesWithin first last) : row ≤ space.text.lastLine :=
    (mem_linesWithin.mp member).2.2
  rw [shiftLines, text_foldl_shiftLine plain once within]
  apply plain.mapLines_congr
  intro row isLine
  simp only [mem_linesWithin, isLine, and_true]

theorem plain_shiftLines (first last times : Nat) : Plain (space.shiftLines first last right times).text := by
  rw [text_shiftLines plain]
  exact plain.plain_mapLines fun _ _ => unbroken_ite_shiftedLine _

theorem lastLine_shiftLines (first last times : Nat) :
    (space.shiftLines first last right times).text.lastLine = space.text.lastLine := by
  rw [text_shiftLines plain]
  exact plain.lastLine_mapLines fun _ _ => unbroken_ite_shiftedLine _

theorem lineText_shiftLines (first last times : Nat) {row : Nat} (isLine : row ≤ space.text.lastLine) :
    lineText (space.shiftLines first last right times).text row =
      if first ≤ row ∧ row ≤ last then
        space.shiftedLine right (Number.wrapMul space.shiftWidth times) (lineText space.text row)
      else lineText space.text row := by
  rw [text_shiftLines plain]
  exact plain.lineText_mapLines (fun _ _ => unbroken_ite_shiftedLine _) isLine

end Shift

/-- Shifting lines moves the first character of each that is not blank by so many steps of an indent, to the
left as far as there are columns. What stands behind the indent, an empty line and every line outside of the
span are not changed. -/
theorem shiftLines_moves_indents (space : Workspace) (first last times : Nat) (right : Bool)
    (plain : Plain space.text) (sameTabs : space.window.tabWidth = space.tabStop)
    (fits : space.shiftWidth * times ≤ Number.maxCount) :
    let after := space.shiftLines first last right times
    let columns := space.shiftWidth * times
    Plain after.text ∧ after.text.lastLine = space.text.lastLine ∧
      ∀ line ≤ space.text.lastLine,
        if first ≤ line ∧ line ≤ last ∧ lineText space.text line ≠ [] then
          let old := space.window.displayColumn (space.text.firstNonBlank line)
          let new := after.window.displayColumn (after.text.firstNonBlank line)
          (right = true → old + columns ≤ Number.maxCount → new = old + columns) ∧
            (right = false → new = old - columns) ∧
            (lineText after.text line).dropWhile isIndent = (lineText space.text line).dropWhile isIndent
        else lineText after.text line = lineText space.text line := by
  intro after columns
  have wrapped : Number.wrapMul space.shiftWidth times = columns := Number.wrapMul_of_le fits
  have sameSettings : after.settings = space.settings := settings_shiftLines first last right times
  have afterPlain : Plain after.text := plain_shiftLines plain first last times
  have sameLast : after.text.lastLine = space.text.lastLine := lastLine_shiftLines plain first last times
  refine ⟨afterPlain, sameLast, fun line isLine => ?_⟩
  have there : lineText after.text line = _ := lineText_shiftLines plain first last times isLine
  rw [wrapped] at there
  have oldWidth := indentWidth_eq plain isLine
  have newWidth := indentWidth_eq afterPlain (sameLast ▸ isLine)
  rw [indentColumns_congr sameSettings, there] at newWidth
  split
  · rename_i moves
    obtain ⟨behindFirst, beforeLast, some⟩ := moves
    rw [if_pos ⟨behindFirst, beforeLast⟩] at there newWidth
    rw [indentColumns_shiftedLine sameTabs some] at newWidth
    dsimp only
    rw [oldWidth, newWidth, there]
    refine ⟨fun toRight fitsToo => ?_, fun toLeft => ?_, dropWhile_shiftedLine _⟩
    · rw [shiftedWidth, if_pos toRight, Number.wrapAdd_of_le fitsToo]
    · simp [shiftedWidth, toLeft]
  · rename_i stays
    rw [there]
    split
    · rename_i inSpan
      have empty : lineText space.text line = [] := by
        by_contra some
        exact stays ⟨inSpan.1, inSpan.2, some⟩
      rw [empty, shiftedLine_nil]
    · rfl

theorem shiftLines_moves_indents_three :
    let space : Workspace := { window := { text := "\tab\n\n \t \n  c".toList } }
    let after := space.shiftLines 0 2 true 3
    Plain space.text ∧ space.window.tabWidth = space.tabStop ∧ space.shiftWidth * 3 ≤ Number.maxCount ∧
      after.window.displayColumn (after.text.firstNonBlank 0) = 32 := by
  intro space after
  have plain : Plain space.text := by decide
  have sameTabs : space.window.tabWidth = space.tabStop := by decide +kernel
  have fits : space.shiftWidth * 3 ≤ Number.maxCount := by decide +kernel
  have moved := (shiftLines_moves_indents space 0 2 3 true plain sameTabs fits).2.2 0 (Nat.zero_le _)
  have inSpan : 0 ≤ 0 ∧ 0 ≤ 2 ∧ lineText space.text 0 ≠ [] := by decide +kernel
  rw [if_pos inSpan] at moved
  refine ⟨plain, sameTabs, fits, ?_⟩
  rw [moved.1 rfl (by decide +kernel)]
  decide +kernel

end Workspace

end ModalEdit

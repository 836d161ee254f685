import ModalEdit.Proofs.Document.Lines
import ModalEdit.Window

/-!
The screen columns of a line are those of its characters alone, in a text in which only line feeds end a line. A
place and the column it is drawn at name each other: the character that covers the column of a place is the one
at that place, unless it takes up no column, and the place that a column names is drawn at that column or is
drawn across it. Columns that count characters lead back from any place in any text.
-/

set_option autoImplicit false

namespace ModalEdit

open Document

/-! ### Columns along characters -/

namespace Ruler

variable {ruler : Ruler} {chars : List Char} {column target count : Nat} {c : Char}

theorem le_advance (ruler : Ruler) (column : Nat) (c : Char) : column ≤ ruler.advance column c :=
  Nat.le_add_right _ _

theorem le_columnAfter (ruler : Ruler) (column : Nat) (chars : List Char) :
    column ≤ ruler.columnAfter column chars := by
  induction chars generalizing column with
  | nil => exact Nat.le_refl column
  | cons c rest ih => exact Nat.le_trans (ruler.le_advance column c) (ih _)

theorem columnAfter_take_le (ruler : Ruler) (column count : Nat) (chars : List Char) :
    ruler.columnAfter column (chars.take count) ≤ ruler.columnAfter column chars := by
  have whole := ruler.columnAfter_append column (chars.take count) (chars.drop count)
  rw [List.take_append_drop] at whole
  rw [whole]
  exact ruler.le_columnAfter _ _

theorem columnAfter_take_mono (ruler : Ruler) (column : Nat) (chars : List Char) {first second : Nat}
    (ordered : first ≤ second) :
    ruler.columnAfter column (chars.take first) ≤ ruler.columnAfter column (chars.take second) := by
  have shorter := ruler.columnAfter_take_le column first (chars.take second)
  rwa [List.take_take, Nat.min_eq_left ordered] at shorter

/-- The next character begins where those before it end. -/
theorem columnAfter_take_succ (here : chars[count]? = some c) :
    ruler.columnAfter column (chars.take (count + 1)) =
      ruler.advance (ruler.columnAfter column (chars.take count)) c := by
  rw [List.take_add_one, here, columnAfter_append]
  rfl

/-- Characters that end before a column stand before the one that covers it. -/
theorem le_countBefore (inside : count ≤ chars.length)
    (ends : ruler.columnAfter column (chars.take count) ≤ target) :
    count ≤ ruler.countBefore target column chars := by
  induction chars generalizing column count with
  | nil => exact Nat.le_trans inside (Nat.zero_le _)
  | cons c rest ih =>
    cases count with
    | zero => exact Nat.zero_le _
    | succ count =>
      rw [List.take_succ_cons, columnAfter_cons] at ends
      have reaches := Nat.le_trans (ruler.le_columnAfter _ _) ends
      have behind := ih (Nat.le_of_succ_le_succ inside) ends
      rw [countBefore, if_neg (Nat.not_lt.mpr reaches)]
      omega

/-- The characters before the one that covers a column end there, or before it. -/
theorem columnAfter_take_countBefore_le (within : column ≤ target) :
    ruler.columnAfter column (chars.take (ruler.countBefore target column chars)) ≤ target := by
  induction chars generalizing column with
  | nil => exact within
  | cons c rest ih =>
    rw [countBefore]
    by_cases covers : target < ruler.advance column c
    · rw [if_pos covers]
      exact within
    · rw [if_neg covers, Nat.add_comm 1, List.take_succ_cons, columnAfter_cons]
      apply ih
      exact Nat.not_lt.mp covers

/-- The character that covers a column ends behind it. -/
theorem lt_advance_of_countBefore (here : chars[ruler.countBefore target column chars]? = some c) :
    target < ruler.advance
      (ruler.columnAfter column (chars.take (ruler.countBefore target column chars))) c := by
  induction chars generalizing column with
  | nil => cases here
  | cons first rest ih =>
    rw [countBefore] at here ⊢
    by_cases covers : target < ruler.advance column first
    · rw [if_pos covers] at here ⊢
      cases here
      exact covers
    · rw [if_neg covers, Nat.add_comm 1] at here ⊢
      rw [List.take_succ_cons, columnAfter_cons]
      apply ih
      exact here

/-- A character that takes up a column covers the one it is drawn at. -/
theorem countBefore_columnAfter_take (here : chars[count]? = some c)
    (seen : 0 < ruler.widthAt (ruler.columnAfter column (chars.take count)) c) :
    ruler.countBefore (ruler.columnAfter column (chars.take count)) column chars = count := by
  have inside := (List.getElem?_eq_some_iff.mp here).1
  apply Nat.le_antisymm
  · apply Nat.not_lt.mp
    intro further
    have reaches := ruler.columnAfter_take_mono column chars further
    have upTo : ruler.columnAfter column (chars.take _) ≤ _ :=
      columnAfter_take_countBefore_le (ruler.le_columnAfter column (chars.take count))
    rw [Nat.succ_eq_add_one, columnAfter_take_succ here, advance] at reaches
    omega
  · exact le_countBefore (Nat.le_of_lt inside) (Nat.le_refl _)

/-- No character covers the column behind the last one. -/
theorem countBefore_columnAfter (ruler : Ruler) (column : Nat) (chars : List Char) :
    ruler.countBefore (ruler.columnAfter column chars) column chars = chars.length := by
  apply Nat.le_antisymm
  · exact ruler.countBefore_le _ column chars
  · apply le_countBefore (Nat.le_refl _)
    exact Nat.le_of_eq (by rw [List.take_length])

end Ruler

/-! ### Columns of a text -/

namespace Document

theorem getElem?_lineText {text : Document} {line count : Nat} (inside : count < (lineText text line).length) :
    (lineText text line)[count]? = text[lineStart text line + count]? := by
  rw [length_lineText] at inside
  rw [lineText, slice, List.getElem?_drop, List.getElem?_take, if_pos (by omega)]

theorem lineStart_add_length_lineText (text : Document) (line : Nat) :
    lineStart text line + (lineText text line).length = lineEnd text line := by
  have ordered := lineStart_le_lineEnd text line
  rw [length_lineText]
  omega

/-- An offset is a number of characters behind the start of its line. -/
theorem exists_lineStart_add {text : Document} {offset : Nat} (inside : offset ≤ text.length) :
    ∃ count ≤ (lineText text (lineOf text offset)).length,
      offset = lineStart text (lineOf text offset) + count := by
  have starts := lineStart_lineOf_le text offset
  have ends := le_lineEnd_lineOf inside
  refine ⟨offset - lineStart text (lineOf text offset), ?_, by omega⟩
  rw [length_lineText]
  omega

end Document

namespace Ruler

variable {text : Document} {line count : Nat}

/-- The column of an offset is one of those on its line. -/
theorem exists_columnAfter_eq (ruler : Ruler) (text : Document) (offset : Nat) :
    ∃ count ≤ (lineText text (lineOf text offset)).length,
      ruler.columnAfter 0 ((lineText text (lineOf text offset)).take count) = ruler.columnOf text offset := by
  let row := lineOf text offset
  have starts : lineStart text row ≤ offset := lineStart_lineOf_le text offset
  have ordered := lineStart_le_lineEnd text row
  have inside : min offset (lineEnd text row) - lineStart text row ≤ (lineText text row).length := by
    rw [length_lineText]
    omega
  have front := slice_lineStart_add 0 inside
  have ends : lineStart text row + (min offset (lineEnd text row) - lineStart text row) =
      min offset (lineEnd text row) := by omega
  rw [Nat.add_zero, List.drop_zero, ends] at front
  exact ⟨_, inside, congrArg (ruler.columnAfter 0) front.symm⟩

variable (ruler : Ruler) (plain : Plain text)

include plain

/-- The column of a place on a line is the one behind the characters before it. -/
theorem columnOf_lineStart_add (isLine : line ≤ lastLine text) (inside : count ≤ (lineText text line).length) :
    ruler.columnOf text (lineStart text line + count) =
      ruler.columnAfter 0 ((lineText text line).take count) := by
  have upTo : lineStart text line + count ≤ lineEnd text line := by
    rw [← lineStart_add_length_lineText]
    omega
  have here : lineOf text (lineStart text line + count) = line :=
    plain.lineOf_eq isLine (Nat.le_add_right _ count) upTo
  have front := slice_lineStart_add 0 inside
  rw [Nat.add_zero, List.drop_zero] at front
  rw [columnOf, here, Nat.min_eq_left upTo, front]

/-- The column of the end of a line names the end. -/
theorem offsetAt_columnOf_lineEnd (isLine : line ≤ lastLine text) :
    ruler.offsetAt text line (ruler.columnOf text (lineEnd text line)) = lineEnd text line := by
  rw [← lineStart_add_length_lineText, ruler.columnOf_lineStart_add plain isLine (Nat.le_refl _),
    List.take_length, offsetAt, Nat.min_eq_left isLine, countBefore_columnAfter]

/-- The column of a character that takes up a column names the character. -/
theorem offsetAt_columnOf {offset : Nat} {c : Char} (here : text[offset]? = some c)
    (before : offset < lineEnd text (lineOf text offset))
    (seen : 0 < ruler.widthAt (ruler.columnOf text offset) c) :
    ruler.offsetAt text (lineOf text offset) (ruler.columnOf text offset) = offset := by
  have inside := (List.getElem?_eq_some_iff.mp here).1
  have isLine := lineOf_le_lastLine text offset
  obtain ⟨count, upTo, place⟩ := exists_lineStart_add (Nat.le_of_lt inside)
  have onLine : count < (lineText text (lineOf text offset)).length := by
    rw [length_lineText]
    omega
  have column : ruler.columnOf text offset =
      ruler.columnAfter 0 ((lineText text (lineOf text offset)).take count) := by
    have placed := ruler.columnOf_lineStart_add plain isLine upTo
    rwa [← place] at placed
  have char : (lineText text (lineOf text offset))[count]? = some c := by
    rw [getElem?_lineText onLine, ← place]
    exact here
  rw [column] at seen ⊢
  rw [offsetAt, Nat.min_eq_left isLine, countBefore_columnAfter_take char seen]
  exact place.symm

/-- The place that a column names is on the line, begins at the column or before it, and ends behind it. -/
theorem offsetAt_covers (line column : Nat) :
    let offset := ruler.offsetAt text line column
    lineOf text offset = min line (lastLine text) ∧ ruler.columnOf text offset ≤ column ∧
      (offset ≠ lineEnd text (lineOf text offset) →
        ∃ c, text[offset]? = some c ∧
          column < ruler.columnOf text offset + ruler.widthAt (ruler.columnOf text offset) c) := by
  intro offset
  let row := min line (lastLine text)
  have isLine : row ≤ lastLine text := Nat.min_le_right _ _
  let count := ruler.countBefore column 0 (lineText text row)
  have upTo : count ≤ (lineText text row).length := ruler.countBefore_le column 0 _
  have place : offset = lineStart text row + count := rfl
  have ends := lineStart_add_length_lineText text row
  have here : lineOf text offset = row := plain.lineOf_eq isLine (by omega) (by omega)
  have starts : ruler.columnOf text offset = ruler.columnAfter 0 ((lineText text row).take count) :=
    ruler.columnOf_lineStart_add plain isLine upTo
  refine ⟨here, ?_, ?_⟩
  · rw [starts]
    exact columnAfter_take_countBefore_le (Nat.zero_le _)
  · intro notEnd
    rw [here] at notEnd
    have onLine : count < (lineText text row).length := by omega
    have char : (lineText text row)[count]? = some (lineText text row)[count] := List.getElem?_eq_getElem onLine
    refine ⟨(lineText text row)[count], ?_, ?_⟩
    · rw [place, ← getElem?_lineText onLine]
      exact char
    · rw [starts]
      exact lt_advance_of_countBefore char

/-- Places and the screen columns they are drawn at, for any widths of characters and tabs. The column of a place
names it again if it is the end of its line or a character that takes up a column. What a line and a column name
is a place on that line, or on the last one, that is drawn at the column or before it, and it is the end of the
line or a character that reaches behind the column. -/
theorem columns_round_trip :
    (∀ offset, (offset = lineEnd text (lineOf text offset) ∨
        ∃ c, text[offset]? = some c ∧ 0 < ruler.widthAt (ruler.columnOf text offset) c) →
      ruler.offsetAt text (lineOf text offset) (ruler.columnOf text offset) = offset) ∧
    ∀ line column,
      let offset := ruler.offsetAt text line column
      lineOf text offset = min line (lastLine text) ∧ ruler.columnOf text offset ≤ column ∧
        (offset ≠ lineEnd text (lineOf text offset) → ∃ c, text[offset]? = some c ∧
          column < ruler.columnOf text offset + ruler.widthAt (ruler.columnOf text offset) c) := by
  refine ⟨?_, ruler.offsetAt_covers plain⟩
  intro offset stands
  by_cases atEnd : offset = lineEnd text (lineOf text offset)
  · have back := ruler.offsetAt_columnOf_lineEnd plain (lineOf_le_lastLine text offset)
    rwa [← atEnd] at back
  · obtain ⟨c, here, seen⟩ := stands.resolve_left atEnd
    have inside := (List.getElem?_eq_some_iff.mp here).1
    have before := Nat.lt_of_le_of_ne (le_lineEnd_lineOf (Nat.le_of_lt inside)) atEnd
    exact ruler.offsetAt_columnOf plain here before seen

end Ruler

/-- A mark without a width stands before a tab, and the tab goes on to the second stop. -/
theorem Ruler.columns_round_trip_mark :
    let ruler : Ruler := { tab := 4, width := fun c => if c = '̈' then 0 else if c = '中' then 2 else 1 }
    let text : Document := ['\n', '中', 'u', 'a', '̈', '\t', 'b']
    Plain text ∧ (text[5]? = some '\t' ∧ 0 < ruler.widthAt (ruler.columnOf text 5) '\t') ∧
      ruler.offsetAt text (text.lineOf 5) (ruler.columnOf text 5) = 5 ∧
      ruler.columnOf text (ruler.offsetAt text 1 7) ≤ 7 := by
  intro ruler text
  have plain : Plain text := by decide
  have seen : text[5]? = some '\t' ∧ 0 < ruler.widthAt (ruler.columnOf text 5) '\t' := by decide
  obtain ⟨back, covers⟩ := ruler.columns_round_trip plain
  exact ⟨plain, seen, back 5 (.inr ⟨'\t', seen⟩), (covers 1 7).2.1⟩

/-! ### Columns of a window -/

namespace Window

variable {window : Window} {line : Nat}

theorem ruler_tab_pos (window : Window) : 0 < window.ruler.tab :=
  Nat.lt_of_lt_of_le Nat.zero_lt_one (Nat.le_max_right window.tabWidth 1)

section Plain

variable (plain : Plain window.text) (isLine : line ≤ window.text.lastLine)

include plain isLine

theorem displayColumn_lineStart_add {count : Nat} (inside : count ≤ (window.text.lineText line).length) :
    window.displayColumn (window.text.lineStart line + count) =
      window.ruler.columnAfter 0 ((window.text.lineText line).take count) :=
  window.ruler.columnOf_lineStart_add plain isLine inside

theorem lineWidth_eq : window.lineWidth line = window.ruler.columnAfter 0 (window.text.lineText line) := by
  have column := displayColumn_lineStart_add plain isLine (Nat.le_refl _)
  rwa [lineStart_add_length_lineText, List.take_length] at column

end Plain

/-! ### Columns of characters -/

/-- A place in the text is on its line, between the start and the end of it, whatever breaks the text has. Line and
column of the place lead back to it, both those of the text and those of the window, which are the same. Any
position, also one behind the last line or behind the end of a line, names the same place for both. -/
theorem positions_round_trip (window : Window) :
    (∀ offset ≤ window.text.length,
      let line := window.text.lineOf offset
      (window.text.lineStart line ≤ offset ∧ offset ≤ window.text.lineEnd line) ∧
        window.positionOf offset = window.text.positionOf offset ∧
        (offset ≤ Number.maxCount →
          window.text.offsetOf (window.text.positionOf offset) = offset ∧
          window.offsetOf (window.positionOf offset) = offset)) ∧
    ∀ position, window.offsetOf position = window.text.offsetOf position := by
  have agree (position : Position) : window.offsetOf position = window.text.offsetOf position := rfl
  refine ⟨?_, agree⟩
  intro offset inside line
  have starts : window.text.lineStart line ≤ offset := lineStart_lineOf_le window.text offset
  have ends : offset ≤ window.text.lineEnd line := le_lineEnd_lineOf inside
  have same : window.positionOf offset = window.text.positionOf offset := by
    unfold positionOf Document.positionOf
    rw [Nat.min_eq_left inside]
  have back (counted : offset ≤ Number.maxCount) :
      window.text.offsetOf (window.text.positionOf offset) = offset := by
    have isLine : line ≤ window.text.lastLine := lineOf_le_lastLine window.text offset
    have whole : window.text.lineStart line + (offset - window.text.lineStart line) = offset := by omega
    have fits : window.text.lineStart line + (offset - window.text.lineStart line) ≤ Number.maxCount := by omega
    show min (Number.wrapAdd (window.text.lineStart (min line window.text.lastLine))
      (min offset window.text.length - window.text.lineStart line))
      (window.text.lineEnd (min line window.text.lastLine)) = offset
    rw [Nat.min_eq_left isLine, Nat.min_eq_left inside, Number.wrapAdd_of_le fits, whole]
    exact Nat.min_eq_left ends
  refine ⟨⟨starts, ends⟩, same, fun counted => ⟨back counted, ?_⟩⟩
  rw [same, agree]
  exact back counted

/-- The place between a carriage return and its line feed is the end of the line, and the one behind a vertical tab
is on the next line. -/
theorem positions_round_trip_breaks :
    let window : Window := { text := ['a', '\r', '\n', 'b', '\x0b', 'c'] }
    (2 ≤ window.text.length ∧ 2 ≤ Number.maxCount) ∧ (5 ≤ window.text.length ∧ 5 ≤ Number.maxCount) ∧
      window.positionOf 2 = ⟨0, 2⟩ ∧ window.offsetOf (window.positionOf 2) = 2 ∧
      window.positionOf 5 = ⟨2, 0⟩ ∧ window.offsetOf (window.positionOf 5) = 5 := by
  intro window
  have first : 2 ≤ window.text.length ∧ 2 ≤ Number.maxCount := by decide
  have second : 5 ≤ window.text.length ∧ 5 ≤ Number.maxCount := by decide
  obtain ⟨places, -⟩ := window.positions_round_trip
  obtain ⟨-, -, backFirst⟩ := places 2 first.1
  obtain ⟨-, -, backSecond⟩ := places 5 second.1
  exact ⟨first, second, by decide, (backFirst first.2).2, by decide, (backSecond second.2).2⟩

end Window

end ModalEdit

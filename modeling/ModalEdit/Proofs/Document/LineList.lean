import Mathlib.Data.List.Nodup
import ModalEdit.Proofs.Document.Lines
import ModalEdit.Text.Split

/-!
A text as the list of its lines. In a text in which only line feeds end a line, the lines that are cut at the
line feeds are those that offsets count, and replacing a part of one of them leaves the others alone. Text can
be put into some of the lines, once into each, and the places behind it are offsets again.
-/

set_option autoImplicit false

namespace ModalEdit

namespace Document

/-- The lines of a text, without the line feeds between them. -/
def lines (text : Document) : List (List Char) :=
  Text.splitOn '\n' text

/-- The text of lines, with a line feed between any two of them. -/
def ofLines (lines : List (List Char)) : Document :=
  ['\n'].intercalate lines

/-- The text with each line changed, by its number. -/
def mapLines (text : Document) (change : Nat → List Char → List Char) : Document :=
  ofLines (text.lines.mapIdx change)

/-- Where a line starts in the text of lines: behind those before it and their line feeds. -/
def rowStart (rows : List (List Char)) (row : Nat) : Nat :=
  ((rows.take row).flatMap (· ++ ['\n'])).length

/-- Whether nothing in a line ends it. -/
def Unbroken (line : List Char) : Prop :=
  ∀ c ∈ line, c ≠ '\r' ∧ isBreak c = false

variable {text : Document} {line : List Char} {rows : List (List Char)} {row : Nat}

@[simp]
theorem rowStart_zero (rows : List (List Char)) : rowStart rows 0 = 0 := by
  simp [rowStart]

@[simp]
theorem rowStart_cons (line : List Char) (rest : List (List Char)) (row : Nat) :
    rowStart (line :: rest) (row + 1) = line.length + 1 + rowStart rest row := by
  rw [rowStart, rowStart, List.take_succ_cons, List.flatMap_cons, List.length_append, List.length_append]
  rfl

theorem rowStart_succ (found : rows[row]? = some line) :
    rowStart rows (row + 1) = rowStart rows row + line.length + 1 := by
  simp [rowStart, List.take_add_one, found, Nat.add_assoc]

/-- Where a line starts does not depend on those behind it. -/
theorem rowStart_congr {others : List (List Char)} (same : ∀ before < row, others[before]? = rows[before]?) :
    rowStart others row = rowStart rows row := by
  have front : others.take row = rows.take row := by
    apply List.ext_getElem?
    intro before
    simp only [List.getElem?_take]
    split
    · exact same before (by assumption)
    · rfl
  rw [rowStart, rowStart, front]

@[simp]
theorem ofLines_singleton (line : List Char) : ofLines [line] = line :=
  List.intercalate_singleton

theorem ofLines_cons (line : List Char) {rest : List (List Char)} (more : rest ≠ []) :
    ofLines (line :: rest) = line ++ '\n' :: ofLines rest := by
  cases rest with
  | nil => exact absurd rfl more
  | cons next rest => simp only [ofLines, List.intercalate_cons_cons, List.append_assoc, List.singleton_append]

/-- The first line, and what stands behind it. -/
theorem exists_behind_first (rest : List (List Char)) :
    ∃ back : Document, (∀ other : List Char, ofLines (other :: rest) = other ++ back) ∧
      (back = [] ∨ ∃ others, back = '\n' :: others) := by
  by_cases alone : rest = []
  · refine ⟨[], fun other => ?_, Or.inl rfl⟩
    rw [alone, ofLines_singleton, List.append_nil]
  · exact ⟨'\n' :: ofLines rest, fun other => ofLines_cons other alone, Or.inr ⟨_, rfl⟩⟩

theorem ofLines_lines (text : Document) : ofLines text.lines = text := by
  rw [ofLines, lines, Text.splitOn_eq, List.intercalate_splitOn]

theorem lines_ne_nil (text : Document) : text.lines ≠ [] :=
  Text.splitOn_ne_nil '\n' text

theorem Unbroken.of_subset {other : List Char} (unbroken : Unbroken line) (subset : other ⊆ line) :
    Unbroken other :=
  fun c member => unbroken c (subset member)

theorem Unbroken.newline_notMem (unbroken : Unbroken line) : '\n' ∉ line := by
  intro member
  have goesOn := (unbroken '\n' member).2
  simp [isBreak] at goesOn

theorem Unbroken.endsLine {c : Char} (unbroken : Unbroken line) (member : c ∈ line) (next? : Option Char) :
    endsLine c next? = false := by
  obtain ⟨noReturn, goesOn⟩ := unbroken c member
  simp only [Document.endsLine, noReturn, ↓reduceIte, goesOn]

theorem lines_ofLines (some : rows ≠ []) (unbroken : ∀ line ∈ rows, Unbroken line) :
    (ofLines rows).lines = rows := by
  rw [ofLines, lines, Text.splitOn_eq]
  exact List.splitOn_intercalate '\n' (fun line member => (unbroken line member).newline_notMem) some

theorem mem_ofLines {c : Char} (member : c ∈ ofLines rows) : c = '\n' ∨ ∃ line ∈ rows, c ∈ line := by
  induction rows with
  | nil => cases member
  | cons line rest ih =>
    by_cases alone : rest = []
    · rw [alone, ofLines_singleton] at member
      exact Or.inr ⟨line, List.mem_cons_self, member⟩
    · rw [ofLines_cons line alone, List.mem_append, List.mem_cons] at member
      rcases member with here | isBreak | behind
      · exact Or.inr ⟨line, List.mem_cons_self, here⟩
      · exact Or.inl isBreak
      · exact (ih behind).imp_right fun ⟨other, inRest, found⟩ => ⟨other, List.mem_cons_of_mem line inRest, found⟩

theorem subset_ofLines (member : line ∈ rows) : line ⊆ ofLines rows := by
  induction rows with
  | nil => cases member
  | cons first rest ih =>
    obtain ⟨back, whole, -⟩ := exists_behind_first rest
    intro c inLine
    rcases List.mem_cons.mp member with isFirst | inRest
    · rw [whole, List.mem_append]
      exact Or.inl (isFirst ▸ inLine)
    · rw [ofLines_cons first (List.ne_nil_of_mem inRest), List.mem_append, List.mem_cons]
      exact Or.inr (Or.inr (ih inRest inLine))

theorem plain_ofLines (unbroken : ∀ line ∈ rows, Unbroken line) : Plain (ofLines rows) := by
  intro c member
  rcases mem_ofLines member with isBreak | ⟨line, inRows, inLine⟩
  · subst isBreak
    decide
  · obtain ⟨noReturn, goesOn⟩ := unbroken line inRows c inLine
    exact ⟨noReturn, fun ends => absurd ends (by rw [goesOn]; exact Bool.false_ne_true)⟩

theorem mem_of_mem_lines {c : Char} (member : line ∈ text.lines) (inLine : c ∈ line) : c ∈ text ∧ c ≠ '\n' := by
  constructor
  · rw [← text.ofLines_lines]
    exact subset_ofLines member inLine
  · rintro rfl
    exact Text.notMem_of_mem_splitOn member inLine

/-- Whatever a line of such a text holds does not end it. -/
theorem Plain.unbroken (plain : Plain text) (member : line ∈ text.lines) : Unbroken line := by
  intro c inLine
  obtain ⟨inText, noFeed⟩ := mem_of_mem_lines member inLine
  obtain ⟨noReturn, onlyFeeds⟩ := plain c inText
  exact ⟨noReturn, Bool.eq_false_iff.mpr fun ends => noFeed (onlyFeeds ends)⟩

section Behind

variable (unbroken : Unbroken line)

include unbroken

theorem lineStart_behind (back : Document) (row : Nat) :
    lineStart (line ++ '\n' :: back) (row + 1) = line.length + 1 + lineStart back row := by
  induction line with
  | nil => simp only [List.nil_append, lineStart, endsLine_newline, ↓reduceIte, List.length_nil, Nat.zero_add]
  | cons c rest ih =>
    have goesOn := unbroken.endsLine List.mem_cons_self (rest ++ '\n' :: back).head?
    have behind := ih fun other member => unbroken other (List.mem_cons_of_mem c member)
    simp only [List.cons_append, lineStart, goesOn, Bool.false_eq_true, ↓reduceIte, behind, List.length_cons]
    omega

theorem firstLineLength_append {back : Document} (ends : back = [] ∨ ∃ others, back = '\n' :: others) :
    firstLineLength (line ++ back) = line.length := by
  induction line with
  | nil =>
    rcases ends with none | ⟨others, some⟩
    · simp only [none, List.append_nil, firstLineLength, List.length_nil]
    · simp only [some, List.nil_append, firstLineLength, ↓reduceIte, List.length_nil]
  | cons c rest ih =>
    have goesOn := unbroken.endsLine List.mem_cons_self (rest ++ back).head?
    have noFeed : c ≠ '\n' := by
      rintro rfl
      exact unbroken.newline_notMem List.mem_cons_self
    have behind := ih fun other member => unbroken other (List.mem_cons_of_mem c member)
    simp only [List.cons_append, firstLineLength, noFeed, goesOn, Bool.false_eq_true, ↓reduceIte, behind,
      List.length_cons]
    omega

end Behind

section Rows

variable (unbroken : ∀ line ∈ rows, Unbroken line)

include unbroken

theorem lineStart_ofLines (within : row < rows.length) : lineStart (ofLines rows) row = rowStart rows row := by
  induction rows generalizing row with
  | nil => cases within
  | cons line rest ih =>
    cases row with
    | zero => rw [lineStart_zero, rowStart_zero]
    | succ row =>
      have inRest : row < rest.length := Nat.lt_of_succ_lt_succ within
      have more : rest ≠ [] := List.ne_nil_of_length_pos (Nat.zero_lt_of_lt inRest)
      have others := ih (fun other member => unbroken other (List.mem_cons_of_mem line member)) inRest
      rw [ofLines_cons line more, lineStart_behind (unbroken line List.mem_cons_self), others, rowStart_cons]

theorem drop_rowStart (found : rows[row]? = some line) :
    ∃ back : Document, (ofLines rows).drop (rowStart rows row) = line ++ back ∧
      (back = [] ∨ ∃ others, back = '\n' :: others) := by
  induction rows generalizing row with
  | nil => cases found
  | cons first rest ih =>
    cases row with
    | zero =>
      obtain ⟨back, whole, ends⟩ := exists_behind_first rest
      simp only [List.getElem?_cons_zero, Option.some.injEq] at found
      refine ⟨back, ?_, ends⟩
      rw [rowStart_zero, List.drop_zero, whole, found]
    | succ row =>
      rw [List.getElem?_cons_succ] at found
      have more : rest ≠ [] := List.ne_nil_of_mem (List.mem_of_getElem? found)
      obtain ⟨back, behind, ends⟩ :=
        ih (fun other member => unbroken other (List.mem_cons_of_mem first member)) found
      refine ⟨back, ?_, ends⟩
      rw [ofLines_cons first more, rowStart_cons, ← behind, Nat.add_assoc, List.drop_length_add_append,
        Nat.add_comm 1, List.drop_succ_cons]

theorem lineEnd_ofLines (found : rows[row]? = some line) :
    lineEnd (ofLines rows) row = rowStart rows row + line.length := by
  have within : row < rows.length := (List.getElem?_eq_some_iff.mp found).1
  obtain ⟨back, behind, ends⟩ := drop_rowStart unbroken found
  have length := firstLineLength_append (unbroken line (List.mem_of_getElem? found)) ends
  rw [lineEnd, lineStart_ofLines unbroken within, behind, length]

theorem lineText_ofLines (found : rows[row]? = some line) : lineText (ofLines rows) row = line := by
  have within : row < rows.length := (List.getElem?_eq_some_iff.mp found).1
  obtain ⟨back, behind, -⟩ := drop_rowStart unbroken found
  rw [lineText, lineStart_ofLines unbroken within, lineEnd_ofLines unbroken found, slice, List.drop_take, behind,
    Nat.add_sub_cancel_left, List.take_left]

end Rows

section Lines

variable (plain : Plain text)

theorem length_lines (text : Document) : text.lines.length = text.count '\n' + 1 := by
  rw [lines, Text.splitOn_eq]
  induction text with
  | nil => simp
  | cons c rest ih =>
    by_cases isFeed : c = '\n'
    · simp [List.splitOn_cons_eq_if_modifyHead, isFeed, ih]
    · simp [List.splitOn_cons_eq_if_modifyHead, isFeed, ih]

include plain

theorem Plain.length_lines : text.lines.length = lastLine text + 1 := by
  rw [Document.length_lines, lastLine, plain.lineOf_eq_count, List.take_length]

theorem Plain.getElem?_lines (isLine : row ≤ lastLine text) : text.lines[row]? = some (lineText text row) := by
  have within : row < text.lines.length := by
    rw [plain.length_lines]
    omega
  have found : text.lines[row]? = some text.lines[row] := List.getElem?_eq_getElem within
  have same := lineText_ofLines (fun _ => plain.unbroken) found
  rw [ofLines_lines] at same
  rw [found, same]

theorem Plain.lineStart_eq (isLine : row ≤ lastLine text) : lineStart text row = rowStart text.lines row := by
  have within : row < text.lines.length := by
    rw [plain.length_lines]
    omega
  have starts := lineStart_ofLines (fun _ => plain.unbroken) within
  rwa [ofLines_lines] at starts

end Lines

section Replacing

theorem replace_behind (front back : Document) (start stop : Nat) (inserted : List Char) :
    replace (front ++ back) (front.length + start) (front.length + stop) inserted =
      front ++ replace back start stop inserted := by
  simp only [replace, Nat.add_max_add_left, List.take_length_add_append, List.drop_length_add_append,
    List.append_assoc]

theorem replace_in_front {front : Document} {start stop : Nat} (ordered : start ≤ stop)
    (inside : stop ≤ front.length) (back : Document) (inserted : List Char) :
    replace (front ++ back) start stop inserted = front.take start ++ inserted ++ front.drop stop ++ back := by
  have before : start ≤ front.length := Nat.le_trans ordered inside
  simp only [replace, Nat.max_eq_right ordered, List.take_append_of_le_length before,
    List.drop_append_of_le_length inside, List.append_assoc]

/-- A part of a line is replaced. -/
theorem replace_ofLines {start stop : Nat} (found : rows[row]? = some line) (ordered : start ≤ stop)
    (inside : stop ≤ line.length) (inserted : List Char) :
    replace (ofLines rows) (rowStart rows row + start) (rowStart rows row + stop) inserted =
      ofLines (rows.set row (line.take start ++ inserted ++ line.drop stop)) := by
  induction rows generalizing row with
  | nil => cases found
  | cons first rest ih =>
    cases row with
    | zero =>
      obtain ⟨back, whole, -⟩ := exists_behind_first rest
      simp only [List.getElem?_cons_zero, Option.some.injEq] at found
      subst found
      rw [rowStart_zero, Nat.zero_add, Nat.zero_add, List.set_cons_zero, whole, whole,
        replace_in_front ordered inside]
    | succ row =>
      rw [List.getElem?_cons_succ] at found
      have more : rest ≠ [] := List.ne_nil_of_mem (List.mem_of_getElem? found)
      have moreThen : rest.set row (line.take start ++ inserted ++ line.drop stop) ≠ [] := by
        rwa [ne_eq, List.set_eq_nil_iff]
      have front : (first ++ ['\n']).length = first.length + 1 := by simp
      rw [List.set_cons_succ, ofLines_cons first more, ofLines_cons first moreThen, ← ih found, rowStart_cons,
        ← front, Nat.add_assoc, Nat.add_assoc, List.append_cons first, replace_behind, List.append_assoc,
        List.singleton_append]

/-- Parts of lines are replaced, those of the last line first, so that the others are still where they were. -/
theorem foldr_replace_ofLines {changed : List Nat} {start stop : Nat → Nat} (inserted : Nat → List Char)
    (ascending : changed.Pairwise (· < ·))
    (within : ∀ row ∈ changed, ∃ line, rows[row]? = some line ∧ start row ≤ stop row ∧ stop row ≤ line.length) :
    changed.foldr
        (fun row text =>
          replace text (rowStart rows row + start row) (rowStart rows row + stop row) (inserted row))
        (ofLines rows) =
      ofLines (rows.mapIdx fun row line =>
        if row ∈ changed then line.take (start row) ++ inserted row ++ line.drop (stop row) else line) := by
  induction changed with
  | nil =>
    have same : (rows.mapIdx fun _ line => line) = rows := List.ext_getElem? fun row => by simp
    simp [same]
  | cons row behind ih =>
    obtain ⟨first, restAscending⟩ := List.pairwise_cons.mp ascending
    obtain ⟨line, found, ordered, inside⟩ := within row List.mem_cons_self
    have others := ih restAscending fun other member => within other (List.mem_cons_of_mem row member)
    generalize replacedEq : (rows.mapIdx fun row line =>
      if row ∈ behind then line.take (start row) ++ inserted row ++ line.drop (stop row) else line) =
        replaced at others
    -- Up to the line itself nothing has been replaced yet.
    have same : ∀ before ≤ row, replaced[before]? = rows[before]? := by
      intro before upTo
      have notBehind : before ∉ behind := fun member => absurd (first before member) (Nat.not_lt.mpr upTo)
      simp [← replacedEq, notBehind]
    have starts : rowStart replaced row = rowStart rows row :=
      rowStart_congr fun before earlier => same before (Nat.le_of_lt earlier)
    have there : replaced[row]? = some line := (same row (Nat.le_refl row)).trans found
    rw [List.foldr_cons, others, ← starts, replace_ofLines there ordered inside]
    congr 1
    apply List.ext_getElem?
    intro other
    rw [List.getElem?_set, List.getElem?_mapIdx]
    by_cases here : row = other
    · subst here
      have inRows : row < replaced.length := (List.getElem?_eq_some_iff.mp there).1
      simp [inRows, found]
    · simp [← replacedEq, here, Ne.symm here]

end Replacing

section Mapping

@[simp]
theorem mapLines_self (text : Document) : (text.mapLines fun _ line => line) = text := by
  have same : (text.lines.mapIdx fun _ line => line) = text.lines := List.ext_getElem? fun row => by simp
  rw [mapLines, same, ofLines_lines]

theorem Plain.mapLines_congr (plain : Plain text) {change other : Nat → List Char → List Char}
    (same : ∀ row ≤ lastLine text, change row (lineText text row) = other row (lineText text row)) :
    text.mapLines change = text.mapLines other := by
  rw [mapLines, mapLines]
  congr 1
  apply List.ext_getElem?
  intro row
  rw [List.getElem?_mapIdx, List.getElem?_mapIdx]
  by_cases isLine : row ≤ lastLine text
  · rw [plain.getElem?_lines isLine, Option.map_some, Option.map_some, same row isLine]
  · have behind : text.lines.length ≤ row := by
      rw [plain.length_lines]
      omega
    rw [List.getElem?_eq_none behind, Option.map_none, Option.map_none]

/-- One line is changed alone. -/
theorem Plain.ofLines_set (plain : Plain text) (isLine : row ≤ lastLine text) (change : List Char → List Char) :
    ofLines (text.lines.set row (change (lineText text row))) =
      text.mapLines fun other line => if other = row then change line else line := by
  have found := plain.getElem?_lines isLine
  obtain ⟨within, -⟩ := List.getElem?_eq_some_iff.mp found
  rw [mapLines]
  congr 1
  apply List.ext_getElem?
  intro other
  rw [List.getElem?_set, List.getElem?_mapIdx]
  by_cases here : row = other
  · subst here
    simp only [found, ↓reduceIte, within, Option.map_some]
  · simp [here, Ne.symm here]

variable {change : Nat → List Char → List Char} (plain : Plain text)
  (keeps : ∀ row line, Unbroken line → Unbroken (change row line))

include plain keeps

theorem Plain.unbroken_mapIdx : ∀ line ∈ text.lines.mapIdx change, Unbroken line := by
  intro changed member
  obtain ⟨row, within, rfl⟩ := List.mem_mapIdx.mp member
  exact keeps row _ (plain.unbroken (List.getElem_mem within))

theorem Plain.plain_mapLines : Plain (text.mapLines change) :=
  plain_ofLines (plain.unbroken_mapIdx keeps)

theorem Plain.lines_mapLines : (text.mapLines change).lines = text.lines.mapIdx change := by
  apply lines_ofLines _ (plain.unbroken_mapIdx keeps)
  rw [ne_eq, List.mapIdx_eq_nil_iff]
  exact lines_ne_nil text

theorem Plain.mapLines_mapLines (again : Nat → List Char → List Char) :
    (text.mapLines change).mapLines again = text.mapLines fun row line => again row (change row line) := by
  rw [mapLines, plain.lines_mapLines keeps, mapLines, List.mapIdx_mapIdx]
  rfl

theorem Plain.lastLine_mapLines : lastLine (text.mapLines change) = lastLine text := by
  have count := (plain.plain_mapLines keeps).length_lines
  rw [plain.lines_mapLines keeps, List.length_mapIdx, plain.length_lines] at count
  omega

theorem Plain.lineText_mapLines (isLine : row ≤ lastLine text) :
    lineText (text.mapLines change) row = change row (lineText text row) := by
  apply lineText_ofLines (plain.unbroken_mapIdx keeps)
  rw [List.getElem?_mapIdx, plain.getElem?_lines isLine, Option.map_some]

end Mapping

end Document

namespace Document

/-- The lines with a text put into those of some numbers, on each at a place of its own. -/
def putInto (rows : List (List Char)) (changed : List Nat) (place : Nat → Nat) (typed : List Char) :
    List (List Char) :=
  rows.mapIdx fun row line =>
    if row ∈ changed then line.take (place row) ++ typed ++ line.drop (place row) else line

/-- The offset of a place on a line. -/
def spot (rows : List (List Char)) (place : Nat → Nat) (row : Nat) : Nat :=
  rowStart rows row + place row

/-- Line numbers in ascending order, with a place on each of the lines. -/
structure Spots (rows : List (List Char)) (changed : List Nat) (place : Nat → Nat) : Prop where
  ascending : changed.Pairwise (· < ·)
  within : ∀ row ∈ changed, ∃ line, rows[row]? = some line ∧ place row ≤ line.length

variable {rows : List (List Char)} {changed : List Nat} {place : Nat → Nat} {typed : List Char} {row : Nat}

theorem putInto_nil (rows : List (List Char)) (changed : List Nat) (place : Nat → Nat) :
    putInto rows changed place [] = rows := by
  apply List.ext_getElem?
  intro row
  simp [putInto]

theorem getElem?_putInto (rows : List (List Char)) (changed : List Nat) (place : Nat → Nat) (typed : List Char)
    (row : Nat) :
    (putInto rows changed place typed)[row]? = rows[row]?.map fun line =>
      if row ∈ changed then line.take (place row) ++ typed ++ line.drop (place row) else line :=
  List.getElem?_mapIdx

/-- A line ends before the next one starts. -/
theorem rowStart_add_length_lt {line : List Char} {other : Nat} (found : rows[row]? = some line)
    (before : row < other) : rowStart rows row + line.length < rowStart rows other := by
  induction rows generalizing row other with
  | nil => cases found
  | cons first rest ih =>
    obtain ⟨other, rfl⟩ := Nat.exists_eq_add_one_of_ne_zero (Nat.ne_zero_of_lt before)
    cases row with
    | zero =>
      simp only [List.getElem?_cons_zero, Option.some.injEq] at found
      rw [rowStart_zero, rowStart_cons, found]
      omega
    | succ row =>
      rw [List.getElem?_cons_succ] at found
      have behind := ih found (Nat.lt_of_succ_lt_succ before)
      rw [rowStart_cons, rowStart_cons]
      omega

theorem rowStart_add_length_le {line : List Char} (found : rows[row]? = some line) :
    rowStart rows row + line.length ≤ (ofLines rows).length := by
  induction rows generalizing row with
  | nil => cases found
  | cons first rest ih =>
    cases row with
    | zero =>
      obtain ⟨back, whole, -⟩ := exists_behind_first rest
      simp only [List.getElem?_cons_zero, Option.some.injEq] at found
      rw [rowStart_zero, whole, found, List.length_append]
      omega
    | succ row =>
      rw [List.getElem?_cons_succ] at found
      have behind := ih found
      rw [rowStart_cons, ofLines_cons first (List.ne_nil_of_mem (List.mem_of_getElem? found)), List.length_append,
        List.length_cons]
      omega

theorem countP_lt_succ (changed : List Nat) (row : Nat) :
    changed.countP (· < row + 1) = changed.countP (· < row) + changed.count row := by
  induction changed with
  | nil => rfl
  | cons first rest ih =>
    simp only [List.countP_cons, List.count_cons, ih, decide_eq_true_eq, beq_iff_eq]
    split <;> split <;> split <;> omega

namespace Spots

variable (spots : Spots rows changed place)

include spots

theorem nodup : changed.Nodup :=
  spots.ascending.imp Nat.ne_of_lt

/-- The places are in the order of their lines. -/
theorem spot_lt_spot {other : Nat} (member : row ∈ changed) (before : row < other) :
    spot rows place row < spot rows place other := by
  obtain ⟨line, found, inside⟩ := spots.within row member
  have ordered := rowStart_add_length_lt found before
  unfold spot
  omega

theorem spot_le (member : row ∈ changed) : spot rows place row ≤ (ofLines rows).length := by
  obtain ⟨line, found, inside⟩ := spots.within row member
  have fits := rowStart_add_length_le found
  unfold spot
  omega

/-- The same places, now behind the text that has been put in. -/
theorem after (typed : List Char) :
    Spots (putInto rows changed place typed) changed fun row => place row + typed.length := by
  refine ⟨spots.ascending, fun row member => ?_⟩
  obtain ⟨line, found, inside⟩ := spots.within row member
  refine ⟨_, by rw [getElem?_putInto, found, Option.map_some, if_pos member], ?_⟩
  simp only [List.length_append, List.length_take_of_le inside]
  omega

/-- Text that is put in behind other text. -/
theorem putInto_putInto (typed more : List Char) :
    putInto (putInto rows changed place typed) changed (fun row => place row + typed.length) more =
      putInto rows changed place (typed ++ more) := by
  apply List.ext_getElem?
  intro row
  rw [getElem?_putInto, getElem?_putInto, getElem?_putInto]
  by_cases member : row ∈ changed
  · obtain ⟨line, found, inside⟩ := spots.within row member
    have front : (line.take (place row) ++ typed).length = place row + typed.length := by
      rw [List.length_append, List.length_take_of_le inside]
    simp only [found, Option.map_some, if_pos member]
    rw [← front, List.take_left, List.drop_left, List.append_assoc _ typed more]
  · simp only [if_neg member, Option.map_map]
    rfl

/-- Text that is put in moves the lines behind it. -/
theorem rowStart_putInto (upTo : row ≤ rows.length) :
    rowStart (putInto rows changed place typed) row =
      rowStart rows row + changed.countP (· < row) * typed.length := by
  induction row with
  | zero => simp
  | succ row ih =>
    have found : rows[row]? = some rows[row] := List.getElem?_eq_getElem upTo
    have put := getElem?_putInto rows changed place typed row
    rw [found, Option.map_some] at put
    rw [rowStart_succ put, rowStart_succ found, ih (Nat.le_of_succ_le upTo), countP_lt_succ]
    by_cases member : row ∈ changed
    · obtain ⟨line, same, inside⟩ := spots.within row member
      rw [found, Option.some.injEq] at same
      have once : changed.count row = 1 := List.count_eq_one_of_mem spots.nodup member
      simp only [if_pos member, once, List.length_append, List.length_take, List.length_drop, Nat.succ_mul]
      rw [same]
      omega
    · have none : changed.count row = 0 := List.count_eq_zero_of_not_mem member
      simp only [if_neg member, none, Nat.add_zero]
      omega

/-- A place moves by the text that is put in at it and in front of it. -/
theorem spot_putInto (member : row ∈ changed) :
    spot (putInto rows changed place typed) (fun row => place row + typed.length) row =
      spot rows place row + changed.countP (· ≤ row) * typed.length := by
  obtain ⟨line, found, -⟩ := spots.within row member
  have upTo : row ≤ rows.length := Nat.le_of_lt (List.getElem?_eq_some_iff.mp found).1
  have once : changed.count row = 1 := List.count_eq_one_of_mem spots.nodup member
  have behind : changed.countP (· ≤ row) = changed.countP (· < row) + 1 := by
    simp only [← Nat.lt_succ_iff, countP_lt_succ, once]
  rw [spot, spots.rowStart_putInto upTo, behind, Nat.succ_mul, spot]
  omega

/-- The text is put in at one place after the other, the last one first. -/
theorem foldr_replace (typed : List Char) :
    (changed.map (spot rows place)).foldr (fun place text => text.replace place place typed) (ofLines rows) =
      ofLines (putInto rows changed place typed) := by
  have within (row : Nat) (member : row ∈ changed) :
      ∃ line, rows[row]? = some line ∧ place row ≤ place row ∧ place row ≤ line.length := by
    obtain ⟨line, found, inside⟩ := spots.within row member
    exact ⟨line, found, Nat.le_refl _, inside⟩
  rw [List.foldr_map]
  exact foldr_replace_ofLines (fun _ => typed) spots.ascending within

theorem pairwise_spot : (changed.map (spot rows place)).Pairwise (· < ·) := by
  rw [List.pairwise_map]
  exact spots.ascending.imp_of_mem fun member _ before => spots.spot_lt_spot member before

/-- As many places are in front of one of them, or the place itself, as lines are. -/
theorem countP_spot_le (member : row ∈ changed) :
    (changed.map (spot rows place)).countP (· ≤ spot rows place row) = changed.countP (· ≤ row) := by
  rw [List.countP_map]
  refine List.countP_congr fun other there => ?_
  simp only [Function.comp_apply, decide_eq_true_eq]
  constructor
  · intro upTo
    refine Nat.not_lt.mp fun further => ?_
    have behind := spots.spot_lt_spot member further
    omega
  · intro upTo
    rcases Nat.lt_or_eq_of_le upTo with before | same
    · exact Nat.le_of_lt (spots.spot_lt_spot there before)
    · exact Nat.le_of_eq (congrArg _ same)

end Spots

end Document

end ModalEdit

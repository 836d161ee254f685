import ModalEdit.Document.Word
import ModalEdit.Number.Counting
import ModalEdit.Proofs.Document.Lines

/-!
The steps of motions, each as a function from place to place: lines further down or up, paragraphs, and the
next word start. A count is taken over lines or over word starts before the caret is put where it may stand;
these steps put it there after each, and lead to the same places.
-/

set_option autoImplicit false

namespace ModalEdit

namespace Number

/-- What every step keeps, any number of steps keeps. -/
theorem repeated_preserves (holds : Nat → Prop) {step : Nat → Nat}
    (kept : ∀ value, holds value → holds (step value)) (count : Nat) {value : Nat} (start : holds value) :
    holds (repeated step count value) := by
  induction count generalizing value with
  | zero => exact start
  | succ count ih =>
    rw [repeated_succ]
    exact ih (kept value start)

/-- What every step leads to, any number of steps leads to. -/
theorem repeated_reaches (holds : Nat → Prop) {step : Nat → Nat}
    (reached : ∀ value, holds (step value)) {count : Nat} (positive : 0 < count) (value : Nat) :
    holds (repeated step count value) := by
  obtain ⟨others, rfl⟩ := Nat.exists_eq_add_one_of_ne_zero (Nat.ne_of_gt positive)
  rw [repeated_succ]
  exact repeated_preserves holds (fun value _ => reached value) others (reached value)

/-- Steps back do not come to a place again that the first of them leaves. -/
theorem repeated_ne_of_le {step : Nat → Nat} (back : ∀ value, step value ≤ value) (count : Nat)
    {value : Nat} (moves : step value ≠ value) : repeated step count (step value) ≠ value := by
  have first := back value
  have further : repeated step count (step value) ≤ step value :=
    repeated_preserves (· ≤ step value) (fun next before => Nat.le_trans (back next) before) count
      (Nat.le_refl _)
  omega

/-- Steps from line to line are steps from place to place, where each place that is reached is on the line
that is counted. -/
theorem repeated_places {step lineOf land : Nat → Nat} {last : Nat}
    (lands : ∀ line, line ≤ last → lineOf (land line) = line)
    (within : ∀ line, line ≤ last → step line ≤ last) (count : Nat) {place : Nat}
    (isLine : lineOf place ≤ last) :
    repeated (fun place => land (step (lineOf place))) (count + 1) place =
      land (repeated step (count + 1) (lineOf place)) := by
  induction count generalizing place with
  | zero => rw [repeated_succ, repeated_succ, repeated_zero, repeated_zero]
  | succ count ih =>
    have next := within _ isLine
    rw [repeated_succ, repeated_succ _ (count + 1) (lineOf place)]
    have onLine := lands _ next
    rw [ih (onLine.symm ▸ next), onLine]

/-- Steps that are taken together with the place before leave the place that the steps alone leave. -/
theorem repeated_pair (step : Nat → Nat) (count before place : Nat) :
    (repeated (fun pair : Nat × Nat => (pair.2, step pair.2)) count (before, place)).2 =
      repeated step count place := by
  induction count generalizing before place with
  | zero => rfl
  | succ count ih =>
    rw [repeated_succ, repeated_succ]
    exact ih place (step place)

end Number

namespace Motion

/-- The line so many lines further down or up, as far as there are lines; none from the edge. -/
def lineAway? (last : Nat) (down : Bool) (line count : Nat) : Option Nat :=
  match down with
  | true => if last ≤ line then none else some (min (line + count) last)
  | false => if line = 0 then none else some (line - count)

theorem lineAway?_eq_none {last line : Nat} {down : Bool} (edge : lineAway? last down line 1 = none)
    (count : Nat) : lineAway? last down line count = none := by
  cases down <;>
    exact if_pos (Decidable.of_not_not fun inside => nomatch edge.symm.trans (if_neg inside))

/-- One line and then `count` lines are `count + 1` lines, unless the edge is reached with the first. -/
theorem lineAway?_succ {last line next count : Nat} {down : Bool} (isLine : line ≤ last)
    (positive : 0 < count) (away : lineAway? last down line 1 = some next) :
    next ≤ last ∧ ∃ further, lineAway? last down line (count + 1) = some further ∧
      (lineAway? last down next count = some further ∨
        lineAway? last down next count = none ∧ next = further) := by
  unfold lineAway? at away ⊢
  cases down with
  | true =>
    by_cases edge : last ≤ line
    · rw [if_pos edge] at away
      cases away
    · rw [if_neg edge] at away
      cases away
      refine ⟨by omega, _, if_neg edge, ?_⟩
      by_cases reached : last ≤ min (line + 1) last
      · exact .inr ⟨if_pos reached, by omega⟩
      · exact .inl ((if_neg reached).trans (congrArg some (by omega)))
  | false =>
    by_cases edge : line = 0
    · rw [if_pos edge] at away
      cases away
    · rw [if_neg edge] at away
      cases away
      refine ⟨by omega, _, if_neg edge, ?_⟩
      by_cases reached : line - 1 = 0
      · exact .inr ⟨if_pos reached, by omega⟩
      · exact .inl ((if_neg reached).trans (congrArg some (by omega)))

end Motion

namespace Document

variable {text : Document} {line : Nat}

theorem le_seekDown (text : Document) (wanted : Nat → Bool) (count line : Nat) :
    line ≤ seekDown text wanted count line ∧ seekDown text wanted count line ≤ line + count := by
  induction count generalizing line with
  | zero => exact ⟨Nat.le_refl _, Nat.le_refl _⟩
  | succ count ih =>
    have further := ih (line + 1)
    unfold seekDown
    split <;> omega

theorem seekUp_le (wanted : Nat → Bool) (line : Nat) : seekUp wanted line ≤ line := by
  induction line with
  | zero => exact Nat.le_refl 0
  | succ line ih =>
    unfold seekUp
    split <;> omega

theorem nextParagraph_of_le (isLast : lastLine text ≤ line) : nextParagraph text line = line :=
  if_pos isLast

theorem nextParagraph_spec (before : line < lastLine text) :
    line < nextParagraph text line ∧ nextParagraph text line ≤ lastLine text := by
  unfold nextParagraph
  rw [if_neg (Nat.not_le.mpr before)]
  have start := text.le_seekDown (!isEmptyLine text ·) (lastLine text - (line + 1)) (line + 1)
  have stop := text.le_seekDown (isEmptyLine text)
    (lastLine text - seekDown text (!isEmptyLine text ·) (lastLine text - (line + 1)) (line + 1))
    (seekDown text (!isEmptyLine text ·) (lastLine text - (line + 1)) (line + 1))
  dsimp only
  omega

theorem le_nextParagraph (text : Document) (line : Nat) : line ≤ nextParagraph text line := by
  rcases Nat.lt_or_ge line (lastLine text) with before | isLast
  · exact Nat.le_of_lt (nextParagraph_spec before).1
  · exact Nat.le_of_eq (nextParagraph_of_le isLast).symm

theorem nextParagraph_le (isLine : line ≤ lastLine text) : nextParagraph text line ≤ lastLine text := by
  rcases Nat.lt_or_eq_of_le isLine with before | isLast
  · exact (nextParagraph_spec before).2
  · exact Nat.le_trans (Nat.le_of_eq (nextParagraph_of_le (Nat.le_of_eq isLast.symm))) isLine

theorem previousParagraph_le (text : Document) (line : Nat) : previousParagraph text line ≤ line - 1 := by
  have start := seekUp_le (!isEmptyLine text ·) (line - 1)
  have stop := seekUp_le (isEmptyLine text) (seekUp (!isEmptyLine text ·) (line - 1))
  unfold previousParagraph
  split <;> omega

/-- Where a move by paragraphs leads that counts a line: to its start, and to the end of the text if that
is no empty line. -/
def paragraphPlace (text : Document) (pastEnd : Bool) (line : Nat) : Nat :=
  if line = text.lastLine ∧ !text.isEmptyLine line then text.lineLimit line pastEnd
  else text.lineStart line

theorem lineOf_paragraphPlace (plain : text.Plain) (isLine : line ≤ text.lastLine) (pastEnd : Bool) :
    text.lineOf (text.paragraphPlace pastEnd line) = line := by
  unfold paragraphPlace
  split
  · exact plain.lineOf_eq isLine (text.lineStart_le_lineLimit line pastEnd)
      (text.lineLimit_le_lineEnd line pastEnd)
  · exact lineOf_lineStart isLine

theorem paragraphPlace_le (text : Document) (pastEnd : Bool) (line : Nat) :
    text.paragraphPlace pastEnd line ≤ text.length := by
  unfold paragraphPlace
  split
  · exact text.lineLimit_le line pastEnd
  · exact text.lineStart_le line

/-- One move to the next paragraph. -/
def paragraphStep (text : Document) (pastEnd : Bool) (place : Nat) : Nat :=
  text.paragraphPlace pastEnd (text.nextParagraph (text.lineOf place))

theorem repeated_paragraphStep (plain : text.Plain) (pastEnd : Bool) (count place : Nat) :
    Number.repeated (text.paragraphStep pastEnd) (count + 1) place =
      text.paragraphPlace pastEnd (Number.repeated text.nextParagraph (count + 1) (text.lineOf place)) :=
  Number.repeated_places (fun _ isLine => lineOf_paragraphPlace plain isLine pastEnd)
    (fun _ isLine => nextParagraph_le isLine) count (text.lineOf_le_lastLine place)

/-- From the last line a move by paragraphs goes to the end of the text and stays there, from any other it
leaves the line for good. -/
theorem repeated_paragraphStep_ne (plain : text.Plain) (pastEnd : Bool) (count : Nat) {place : Nat}
    (moves : text.paragraphStep pastEnd place ≠ place) :
    Number.repeated (text.paragraphStep pastEnd) count (text.paragraphStep pastEnd place) ≠ place := by
  rw [← Number.repeated_succ, repeated_paragraphStep plain, Number.repeated_succ]
  rcases Nat.lt_or_ge (text.lineOf place) (lastLine text) with before | isLast
  · obtain ⟨further, isLine⟩ := nextParagraph_spec before
    obtain ⟨ahead, within⟩ := Number.repeated_preserves
      (fun line => text.lineOf place < line ∧ line ≤ lastLine text)
      (fun line known =>
        ⟨Nat.lt_of_lt_of_le known.1 (text.le_nextParagraph line), nextParagraph_le known.2⟩)
      count ⟨further, isLine⟩
    intro same
    have onLine := lineOf_paragraphPlace plain within pastEnd
    rw [same] at onLine
    omega
  · have stays := nextParagraph_of_le isLast
    unfold paragraphStep at moves
    rw [stays] at moves
    rw [stays, Number.repeated_of_fixed stays]
    exact moves

/-- One move to the paragraph before. -/
def paragraphBack (text : Document) (place : Nat) : Nat :=
  text.lineStart (text.previousParagraph (text.lineOf place))

theorem repeated_paragraphBack (text : Document) (count place : Nat) :
    Number.repeated text.paragraphBack (count + 1) place =
      text.lineStart (Number.repeated text.previousParagraph (count + 1) (text.lineOf place)) :=
  Number.repeated_places (fun _ isLine => lineOf_lineStart isLine)
    (fun line isLine => Nat.le_trans (text.previousParagraph_le line) (Nat.le_trans (Nat.sub_le _ _) isLine))
    count (text.lineOf_le_lastLine place)

theorem paragraphBack_le (text : Document) (place : Nat) : text.paragraphBack place ≤ place := by
  have back := Nat.le_trans (text.previousParagraph_le (text.lineOf place)) (Nat.sub_le _ 1)
  exact Nat.le_trans (text.lineStart_mono back) (text.lineStart_lineOf_le place)

/-- Only from the start of the text a move to the paragraph before leads nowhere. -/
theorem paragraphBack_eq_iff (text : Document) (place : Nat) :
    text.paragraphBack place = place ↔ place = 0 := by
  constructor
  · intro stays
    have back := text.previousParagraph_le (text.lineOf place)
    have onLine : text.lineOf (text.paragraphBack place) = text.previousParagraph (text.lineOf place) :=
      lineOf_lineStart (Nat.le_trans back (Nat.le_trans (Nat.sub_le _ 1) (text.lineOf_le_lastLine place)))
    rw [stays] at onLine
    have isFirst : text.previousParagraph (text.lineOf place) = 0 := by omega
    rw [← stays, paragraphBack, isFirst, lineStart_zero]
  · rintro rfl
    exact Nat.le_zero.mp (text.paragraphBack_le 0)

/-- At the end of the text a caret goes back by one character at most. -/
theorem length_le_clampCaret (text : Document) (pastEnd : Bool) :
    text.length ≤ text.clampCaret text.length pastEnd + 1 := by
  have ends : text.lineEnd (text.lineOf text.length) = text.length := lineEnd_of_lastLine_le (Nat.le_refl _)
  rw [clampCaret_eq_min]
  unfold lineLimit
  rw [ends]
  dsimp only
  split <;> omega

/-- Where a move by word starts leads that counts a place: at the end of the text as far as a caret may
go. -/
def wordPlace (text : Document) (pastEnd : Bool) (place : Nat) : Nat :=
  if text.length ≤ place then text.clampCaret text.length pastEnd else place

/-- One move to the next word start. -/
def wordStep (text : Document) (kind : WordKind) (pastEnd : Bool) (place : Nat) : Nat :=
  text.wordPlace pastEnd (kind.nextStart text place)

theorem wordStep_le (text : Document) (kind : WordKind) (pastEnd : Bool) (place : Nat) :
    text.wordStep kind pastEnd place ≤ text.length := by
  unfold wordStep wordPlace
  split
  · exact text.clampCaret_le _ _
  · exact kind.nextStart_le text place

theorem wordStep_of_last {kind : WordKind} {place : Nat} (isLast : text.length ≤ kind.nextStart text place)
    (pastEnd : Bool) : text.wordStep kind pastEnd place = text.clampCaret text.length pastEnd :=
  if_pos isLast

theorem wordStep_of_lt {kind : WordKind} {place : Nat} (inside : kind.nextStart text place < text.length)
    (pastEnd : Bool) : text.wordStep kind pastEnd place = kind.nextStart text place :=
  if_neg (Nat.not_le.mpr inside)

/-- From where a caret may stand at the end of the text it is not moved further. -/
theorem wordStep_clampCaret (text : Document) (kind : WordKind) (pastEnd : Bool) :
    text.wordStep kind pastEnd (text.clampCaret text.length pastEnd) =
      text.clampCaret text.length pastEnd := by
  have last := text.length_le_clampCaret pastEnd
  refine wordStep_of_last ?_ pastEnd
  rcases Nat.lt_or_ge (text.clampCaret text.length pastEnd) text.length with inside | behind
  · have further := kind.lt_nextStart inside
    omega
  · exact Nat.le_of_eq (kind.nextStart_of_le behind).symm

/-- The count of a move to word starts is taken before the caret is put back from the end of the text, and
single moves put it back after each. -/
theorem wordPlace_repeated (text : Document) (kind : WordKind) (pastEnd : Bool) (count place : Nat) :
    text.wordPlace pastEnd (Number.repeated (kind.nextStart text) (count + 1) place) =
      Number.repeated (text.wordStep kind pastEnd) (count + 1) place := by
  induction count generalizing place with
  | zero =>
    rw [Number.repeated_succ, Number.repeated_succ, Number.repeated_zero, Number.repeated_zero, wordStep]
  | succ count ih =>
    rw [Number.repeated_succ, Number.repeated_succ _ (count + 1) place]
    rcases Nat.lt_or_ge (kind.nextStart text place) text.length with inside | last
    · rw [wordStep_of_lt inside, ih]
    · have isEnd := Nat.le_antisymm (kind.nextStart_le text place) last
      rw [wordStep_of_last last, Number.repeated_of_fixed (wordStep_clampCaret text kind pastEnd), isEnd,
        Number.repeated_of_fixed (kind.nextStart_of_le (Nat.le_refl _))]
      exact if_pos (Nat.le_refl _)

/-- Moves to word starts do not come back to a place that the first of them leaves. -/
theorem repeated_wordStep_ne (text : Document) (kind : WordKind) (pastEnd : Bool) (count : Nat) {place : Nat}
    (moves : text.wordStep kind pastEnd place ≠ place) :
    Number.repeated (text.wordStep kind pastEnd) count (text.wordStep kind pastEnd place) ≠ place := by
  rcases Nat.lt_or_ge (kind.nextStart text place) text.length with inside | last
  · have ahead := WordKind.lt_nextStart_of_lt inside
    have atEnd := text.length_le_clampCaret pastEnd
    rw [wordStep_of_lt inside]
    refine Nat.ne_of_gt (Number.repeated_preserves (place < ·) (fun value before => ?_) count ahead)
    rcases Nat.lt_or_ge (kind.nextStart text value) text.length with further | reached
    · rw [wordStep_of_lt further]
      exact Nat.lt_trans before (WordKind.lt_nextStart_of_lt further)
    · rw [wordStep_of_last reached]
      omega
  · rw [wordStep_of_last last] at moves ⊢
    rw [Number.repeated_of_fixed (wordStep_clampCaret text kind pastEnd)]
    exact moves

end Document

namespace Window

/-- The place on a line in a column that a caret keeps, as far as the caret may stand there. -/
def columnPlace (window : Window) (pastEnd : Bool) (sticky : StickyColumn) (line : Nat) : Nat :=
  match sticky with
  | .lineEnd => window.text.lineLimit line pastEnd
  | .column column => min (window.offsetAtColumn line column) (window.text.lineLimit line pastEnd)

theorem lineStart_le_offsetAtColumn (window : Window) {line : Nat} (isLine : line ≤ window.text.lastLine)
    (column : Nat) : window.text.lineStart line ≤ window.offsetAtColumn line column := by
  unfold Window.offsetAtColumn Ruler.offsetAt
  rw [Nat.min_eq_left isLine]
  exact Nat.le_add_right _ _

theorem columnPlace_between (window : Window) {line : Nat} (isLine : line ≤ window.text.lastLine)
    (pastEnd : Bool) (sticky : StickyColumn) :
    window.text.lineStart line ≤ window.columnPlace pastEnd sticky line ∧
      window.columnPlace pastEnd sticky line ≤ window.text.lineLimit line pastEnd := by
  have starts := window.text.lineStart_le_lineLimit line pastEnd
  cases sticky with
  | lineEnd => exact ⟨starts, Nat.le_refl _⟩
  | column column =>
    exact ⟨Nat.le_min.mpr ⟨window.lineStart_le_offsetAtColumn isLine column, starts⟩, Nat.min_le_right _ _⟩

theorem lineOf_columnPlace (window : Window) (plain : window.text.Plain) {line : Nat}
    (isLine : line ≤ window.text.lastLine) (pastEnd : Bool) (sticky : StickyColumn) :
    window.text.lineOf (window.columnPlace pastEnd sticky line) = line := by
  obtain ⟨starts, within⟩ := window.columnPlace_between isLine pastEnd sticky
  exact plain.lineOf_eq isLine starts (Nat.le_trans within (window.text.lineLimit_le_lineEnd line pastEnd))

theorem columnPlace_le (window : Window) (pastEnd : Bool) (sticky : StickyColumn) (line : Nat) :
    window.columnPlace pastEnd sticky line ≤ window.text.length := by
  have within := window.text.lineLimit_le line pastEnd
  cases sticky with
  | lineEnd => exact within
  | column column => exact Nat.le_trans (Nat.min_le_right _ _) within

/-- A landing on a line in a column that a caret keeps. -/
def columnLanding (window : Window) (pastEnd : Bool) (sticky : StickyColumn) (line : Nat) : Landing where
  offset := window.columnPlace pastEnd sticky line
  wise := .linewise
  sticky? := some sticky

/-- The column that a move from line to line keeps: the one that the caret keeps already, or its own. -/
def keptColumn (window : Window) (caret : Caret) : StickyColumn :=
  caret.sticky?.getD (.column (window.displayColumn (min caret.offset window.text.length)))

theorem verticalTarget?_eq (window : Window) {count : Nat} (down : Bool)
    (small : count + window.text.length ≤ Number.maxCount) (pastEnd : Bool) (caret : Caret) :
    window.verticalTarget? caret down count pastEnd =
      (Motion.lineAway? window.text.lastLine down
        (window.text.lineOf (min caret.offset window.text.length)) count).map
          (window.columnLanding pastEnd (window.keptColumn caret)) := by
  have within := Nat.le_trans (window.text.lineOf_le (min caret.offset window.text.length))
    (Nat.min_le_right _ _)
  unfold Window.verticalTarget? Motion.lineAway?
  dsimp only
  generalize window.text.lineOf (min caret.offset window.text.length) = line at *
  cases down with
  | true =>
    rw [Number.wrapAdd_of_le (by omega)]
    simp only [true_and, Bool.not_true, Bool.false_eq_true, false_and, or_false, ↓reduceIte]
    split <;> rfl
  | false =>
    simp only [Bool.false_eq_true, false_and, Bool.not_false, true_and, false_or, ↓reduceIte]
    split <;> rfl

end Window

end ModalEdit

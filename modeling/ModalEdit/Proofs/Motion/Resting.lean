import ModalEdit.Proofs.Document.Stops
import ModalEdit.Proofs.Motion.Inclusive
import ModalEdit.Proofs.Motion.Steps

/-!
Motions without operator put the caret where a caret may stand: on a line of the text, no further than the last
place that it may have there. Each motion gets there in its own way. Those that name a line are held by the
limit of that line; words and searches end on a character that is no line feed, or on an empty line.
-/

set_option autoImplicit false

namespace ModalEdit

namespace Document

variable {text : Document} {line place : Nat} {pastEnd : Bool}

/-- Whether a place is on a line of the text, no further than a caret may stand there. -/
def OnLine (text : Document) (pastEnd : Bool) (place : Nat) : Prop :=
  ∃ line, line ≤ text.lastLine ∧ text.lineStart line ≤ place ∧ place ≤ text.lineLimit line pastEnd

theorem OnLine.clampCaret_eq (onLine : text.OnLine pastEnd place) :
    text.clampCaret place pastEnd = place := by
  obtain ⟨line, isLine, starts, within⟩ := onLine
  cases pastEnd with
  | true => exact clampCaret_pastEnd (Nat.le_trans within (text.lineLimit_le line true))
  | false =>
    have sameLine := lineOf_eq_of_le_lineLimit isLine starts within
    rw [clampCaret_eq_min, sameLine]
    exact Nat.min_eq_left within

theorem onLine_of_clampCaret (rests : text.clampCaret place pastEnd = place) : text.OnLine pastEnd place := by
  refine ⟨text.lineOf place, text.lineOf_le_lastLine place, text.lineStart_lineOf_le place, ?_⟩
  rw [clampCaret_eq_min] at rests
  omega

/-- All places before the end of a line are places for a caret. -/
theorem onLine_of_lt_lineEnd (isLine : line ≤ text.lastLine) (starts : text.lineStart line ≤ place)
    (before : place < text.lineEnd line) (pastEnd : Bool) : text.OnLine pastEnd place := by
  refine ⟨line, isLine, starts, ?_⟩
  unfold lineLimit
  dsimp only
  split <;> omega

theorem onLine_of_character {c : Char} (here : text[place]? = some c) (other : c ≠ '\n') (pastEnd : Bool) :
    text.OnLine pastEnd place :=
  onLine_of_lt_lineEnd (text.lineOf_le_lastLine place) (text.lineStart_lineOf_le place)
    (lt_lineEnd_lineOf here other) pastEnd

theorem onLine_lineStart (isLine : line ≤ text.lastLine) (pastEnd : Bool) :
    text.OnLine pastEnd (text.lineStart line) :=
  ⟨line, isLine, Nat.le_refl _, text.lineStart_le_lineLimit line pastEnd⟩

theorem onLine_lineLimit (isLine : line ≤ text.lastLine) (pastEnd : Bool) :
    text.OnLine pastEnd (text.lineLimit line pastEnd) :=
  ⟨line, isLine, text.lineStart_le_lineLimit line pastEnd, Nat.le_refl _⟩

theorem onLine_zero (text : Document) (pastEnd : Bool) : text.OnLine pastEnd 0 := by
  have first := onLine_lineStart (Nat.zero_le text.lastLine) pastEnd
  rwa [lineStart_zero] at first

/-- A place on a line is one for a caret when it is held by the limit of the line. -/
theorem onLine_min (isLine : line ≤ text.lastLine) (starts : text.lineStart line ≤ place) (pastEnd : Bool) :
    text.OnLine pastEnd (min place (text.lineLimit line pastEnd)) := by
  have limit := text.lineStart_le_lineLimit line pastEnd
  exact ⟨line, isLine, by omega, Nat.min_le_right _ _⟩

theorem onLine_lineTarget (isLine : line ≤ text.lastLine) (pastEnd : Bool) :
    text.OnLine pastEnd (text.lineTarget line pastEnd) :=
  onLine_min isLine (Nat.le_add_right _ _) pastEnd

theorem onLine_paragraphPlace (isLine : line ≤ text.lastLine) (pastEnd : Bool) :
    text.OnLine pastEnd (text.paragraphPlace pastEnd line) := by
  unfold paragraphPlace
  split
  · exact onLine_lineLimit isLine pastEnd
  · exact onLine_lineStart isLine pastEnd

theorem onLine_of_lands {there landing : Landing} (leads : some there = some landing)
    (onLine : text.OnLine pastEnd there.offset) : text.OnLine pastEnd landing.offset := by
  cases leads
  exact onLine

/-- Motions that lead somewhere just if they move. -/
theorem onLine_of_moves {stays : Prop} [Decidable stays] {there landing : Landing}
    (leads : (if stays then none else some there) = some landing)
    (onLine : ¬stays → text.OnLine pastEnd there.offset) : text.OnLine pastEnd landing.offset := by
  obtain ⟨moves, landed⟩ := Option.ite_none_left_eq_some.mp leads
  exact onLine_of_lands landed (onLine moves)

end Document

namespace WordKind

variable {kind : WordKind} {text : Document} {place : Nat}

theorem IsStop.onLine (stop : kind.IsStop text place) (pastEnd : Bool) : text.OnLine pastEnd place := by
  rcases stop with ⟨c, here, word, _⟩ | ⟨newline, empty⟩
  · exact Document.onLine_of_character here (WordClass.ne_newline_of_isText word) pastEnd
  · have starts := text.lineStart_lineOf_le place
    have ends := Document.lineEnd_lineOf_of_newline newline
    rw [Document.isEmptyLine, Document.lineLength, beq_iff_eq] at empty
    have isStart : text.lineStart (text.lineOf place) = place := by omega
    rw [← isStart]
    exact Document.onLine_lineStart (text.lineOf_le_lastLine place) pastEnd

/-- Word starts that are found in the text are stops, and a caret is put back from the end of the text. -/
theorem onLine_wordPlace (kind : WordKind) (text : Document) (pastEnd : Bool) {count : Nat}
    (positive : 0 < count) (place : Nat) :
    text.OnLine pastEnd (text.wordPlace pastEnd (Number.repeated (kind.nextStart text) count place)) := by
  refine Number.repeated_reaches (fun place => text.OnLine pastEnd (text.wordPlace pastEnd place))
    (fun place => ?_) positive place
  unfold Document.wordPlace
  split
  · exact Document.onLine_of_clampCaret (text.clampCaret_clampCaret text.length pastEnd)
  · rename_i inside
    rcases kind.isNext_nextStart text place with ⟨⟨opens, _⟩, _⟩ | ⟨_, isLast⟩
    · exact opens.isStop.onLine pastEnd
    · omega

theorem onLine_prevStart (kind : WordKind) (text : Document) (pastEnd : Bool) {count : Nat}
    (positive : 0 < count) (place : Nat) :
    text.OnLine pastEnd (Number.repeated (kind.prevStart text) count place) := by
  refine Number.repeated_reaches (text.OnLine pastEnd) (fun place => ?_) positive place
  rcases kind.isPrevious_prevStart text place with ⟨⟨stop, _⟩, _⟩ | ⟨_, isStart⟩
  · exact stop.onLine pastEnd
  · rw [isStart]
    exact text.onLine_zero pastEnd

end WordKind

theorem Find.onLine {find : Find} {text : Document} {offset count : Nat} {again : Bool} {landing : Landing}
    (inside : offset ≤ text.length) (lands : find.landing? text offset count again = some landing)
    (pastEnd : Bool) : text.OnLine pastEnd landing.offset := by
  have isLine := text.lineOf_le_lastLine offset
  have starts := text.lineStart_lineOf_le offset
  have ends := Document.le_lineEnd_lineOf inside
  cases direction : find.forward with
  | true =>
    obtain ⟨_, behind, before⟩ := Find.landing?_forward direction lands
    exact Document.onLine_of_lt_lineEnd isLine (by omega) before pastEnd
  | false =>
    obtain ⟨behind, before⟩ := Find.landing?_back direction lands
    exact Document.onLine_of_lt_lineEnd isLine behind (by omega) pastEnd

namespace Window

variable {window : Window} {line : Nat}

theorem onLine_columnPlace (isLine : line ≤ window.text.lastLine) (pastEnd : Bool) (sticky : StickyColumn) :
    window.text.OnLine pastEnd (window.columnPlace pastEnd sticky line) :=
  ⟨line, isLine, window.columnPlace_between isLine pastEnd sticky⟩

theorem onLine_verticalTarget {caret : Caret} {down : Bool} {count : Nat} {pastEnd : Bool} {landing : Landing}
    (leads : window.verticalTarget? caret down count pastEnd = some landing) :
    window.text.OnLine pastEnd landing.offset := by
  have isLine := window.text.lineOf_le_lastLine (min caret.offset window.text.length)
  refine Document.onLine_of_moves leads fun _ => onLine_columnPlace ?_ pastEnd (window.keptColumn caret)
  cases down with
  | true => exact Nat.min_le_right _ _
  | false => exact Nat.le_trans (Nat.sub_le _ _) isLine

theorem topLine_le (window : Window) (count scrolloff : Nat) :
    window.topLine count scrolloff ≤ window.text.lastLine := by
  simp only [topLine, edges]
  omega

theorem middleLine_le (window : Window) (scrolloff : Nat) :
    window.middleLine scrolloff ≤ window.text.lastLine := by
  simp only [middleLine, edges]
  omega

theorem bottomLine_le (window : Window) (count scrolloff : Nat) :
    window.bottomLine count scrolloff ≤ window.text.lastLine := by
  simp only [bottomLine, edges]
  omega

end Window

namespace Motion

variable {window : Window} {caret : Caret} {motion : Motion} {count? : Option Nat} {context : MotionContext}
  {landing : Landing}

theorem resolve_onLine (noOperator : context.operator = false)
    (small : window.text.length + count?.getD 0 ≤ Number.maxCount)
    (leads : motion.resolve window caret count? context = some landing) :
    window.text.OnLine context.pastEnd landing.offset := by
  have inside := Nat.min_le_right caret.offset window.text.length
  have isLine := window.text.lineOf_le_lastLine (min caret.offset window.text.length)
  have starts := window.text.lineStart_lineOf_le (min caret.offset window.text.length)
  have ends := Document.le_lineEnd_lineOf inside
  have positive : 0 < max (count?.getD 1) 1 := Nat.le_max_right _ _
  unfold resolve at leads
  dsimp only at leads
  -- Without operator `right` and `paragraphForward` have the limits of a caret too.
  rw [noOperator, Bool.or_false] at leads
  cases motion with
  | left =>
    refine Document.onLine_of_moves leads fun moves => ?_
    exact Document.onLine_of_lt_lineEnd isLine (Nat.le_max_right _ _) (by omega) _
  | right =>
    refine Document.onLine_of_moves leads fun moves => ?_
    have count : max (count?.getD 1) 1 = max (count?.getD 0) 1 := by
      cases count? <;> rfl
    have within := window.text.lineLimit_le (window.text.lineOf (min caret.offset window.text.length))
      context.pastEnd
    refine Document.onLine_min isLine ?_ _
    rw [count, Number.wrapAdd_of_le (by omega)]
    omega
  | up | down => exact Window.onLine_verticalTarget leads
  | lineStart => exact Document.onLine_of_lands leads (Document.onLine_lineStart isLine _)
  | lineEnd => exact Document.onLine_of_lands leads (Document.onLine_lineLimit (Nat.min_le_right _ _) _)
  | firstNonBlank => exact Document.onLine_of_lands leads (Document.onLine_lineTarget isLine _)
  | firstLine | lastLine | currentLine =>
    exact Document.onLine_of_lands leads (Document.onLine_lineTarget (Nat.min_le_right _ _) _)
  | column => exact Document.onLine_of_lands leads (Window.onLine_columnPlace isLine _ (.column _))
  | nextLine =>
    exact Document.onLine_of_moves leads fun _ => Document.onLine_lineTarget (Nat.min_le_right _ _) _
  | previousLine =>
    refine Document.onLine_of_moves leads fun _ => Document.onLine_lineTarget ?_ _
    exact Nat.le_trans (Nat.sub_le _ _) isLine
  | wordStart kind =>
    unfold Window.wordTarget? at leads
    dsimp only at leads
    rw [noOperator, if_neg Bool.false_ne_true, Number.repeated_pair] at leads
    exact Document.onLine_of_moves leads fun _ => kind.onLine_wordPlace window.text _ positive _
  | wordBack kind =>
    exact Document.onLine_of_moves leads fun _ => kind.onLine_prevStart window.text _ positive _
  | wordEnd kind =>
    refine Document.onLine_of_moves leads fun moves => ?_
    obtain ⟨_, c, found, other⟩ := (kind.repeated_nextEnd window.text _ _).resolve_left moves
    exact Document.onLine_of_character found other _
  | find search | repeatFind search => exact Find.onLine inside leads _
  | paragraphForward =>
    refine Document.onLine_of_moves leads fun _ => Document.onLine_paragraphPlace ?_ _
    exact Number.repeated_preserves (· ≤ window.text.lastLine) (fun _ => Document.nextParagraph_le) _ isLine
  | paragraphBackward =>
    refine Document.onLine_of_moves leads fun _ => Document.onLine_lineStart ?_ _
    refine Number.repeated_preserves (· ≤ window.text.lastLine) (fun line known => ?_) _ isLine
    exact Nat.le_trans (window.text.previousParagraph_le line) (Nat.le_trans (Nat.sub_le _ _) known)
  | windowTop => exact Document.onLine_of_lands leads (Document.onLine_lineTarget (window.topLine_le _ _) _)
  | windowMiddle =>
    exact Document.onLine_of_lands leads (Document.onLine_lineTarget (window.middleLine_le _) _)
  | windowBottom =>
    exact Document.onLine_of_lands leads (Document.onLine_lineTarget (window.bottomLine_le _ _) _)

/-- A motion without operator puts the caret where it rests, wherever it started from: whether the caret
rested before does not matter. -/
theorem resolve_rests (noOperator : context.operator = false)
    (small : window.text.length + count?.getD 0 ≤ Number.maxCount)
    (leads : motion.resolve window caret count? context = some landing) :
    landing.offset ≤ window.text.length ∧
      window.text.clampCaret landing.offset context.pastEnd = landing.offset := by
  have rests := (resolve_onLine noOperator small leads).clampCaret_eq
  have within := window.text.clampCaret_le landing.offset context.pastEnd
  exact ⟨by omega, rests⟩

/-- The second word ends the text: the caret is put on the last character of the line behind the line
separator. -/
theorem resolve_rests_lineSeparator :
    let window : Window := { text := "ab\u2028 cd".toList }
    let context : MotionContext := {}
    context.operator = false ∧ window.text.length + 2 ≤ Number.maxCount ∧
      (Motion.wordStart .small).resolve window (.ofOffset 0) (some 2) context = some (upTo 5) ∧
      5 ≤ window.text.length ∧ window.text.clampCaret 5 false = 5 := by
  intro window context
  have leads : (Motion.wordStart .small).resolve window (.ofOffset 0) (some 2) context = some (upTo 5) := by
    decide +kernel
  exact ⟨rfl, by decide, leads, resolve_rests rfl (by decide) leads⟩

end Motion

end ModalEdit

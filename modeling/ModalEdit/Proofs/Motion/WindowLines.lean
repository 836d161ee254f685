import ModalEdit.Proofs.Motion.Resting
import ModalEdit.Proofs.Window.Staying

/-!
The motions to a line of the window. They keep the caret away from the edge that they count from, but not from
the other one: with a count that leads near to that edge, or where the text ends right below the first line that
is seen, the caret line is not far enough inside, and the view moves.
-/

set_option autoImplicit false

namespace ModalEdit

namespace Document

variable {text : Document} {line : Nat}

theorem lineTarget_le (text : Document) (line : Nat) (pastEnd : Bool) :
    text.lineTarget line pastEnd ≤ text.length :=
  Nat.le_trans (Nat.min_le_right _ _) (text.lineLimit_le line pastEnd)

/-- A line of blanks ends before a line feed or with the text. -/
theorem lineOf_lineEnd_of_blank (isLine : line ≤ text.lastLine)
    (blank : text.firstNonBlank line = text.lineEnd line) : text.lineOf (text.lineEnd line) = line := by
  have startsThere := lineOf_lineStart isLine
  have length := length_lineText text line
  have inside := text.lineEnd_le line
  rcases Nat.eq_or_lt_of_le (text.lineStart_le_lineEnd line) with empty | further
  · rw [← empty, startsThere]
  obtain ⟨last, lastEq⟩ := Nat.exists_eq_add_of_lt further
  have here : text[text.lineStart line + last]? = (text.lineText line)[last]? := by
    rw [lineText, slice, List.getElem?_drop, List.getElem?_take_of_lt (by omega)]
  have isBlank : ∀ c ∈ text.lineText line, (c == ' ' || c == '\t') = true := by
    refine List.takeWhile_eq_self_iff.mp ((List.takeWhile_prefix _).eq_of_length ?_)
    unfold firstNonBlank at blank
    omega
  obtain ⟨c, isLast⟩ : ∃ c, (text.lineText line)[last]? = some c :=
    ⟨_, List.getElem?_eq_getElem (by omega)⟩
  -- The last character of the line is a blank, which ends no line: the place behind it is still on the line.
  have goesOn : endsLine c text[text.lineStart line + last + 1]? = false := by
    have either := isBlank c (List.mem_of_getElem? isLast)
    simp only [Bool.or_eq_true, beq_iff_eq] at either
    rcases either with rfl | rfl <;> rfl
  have before : text.lineStart line + last < text.lineEnd (text.lineOf (text.lineStart line)) := by
    rw [startsThere]
    omega
  rw [lastEq, lineOf_succ (here.trans isLast), goesOn,
    lineOf_eq_of_lt_lineEnd (Nat.le_add_right _ _) before, startsThere]
  rfl

/-- The first character of a line that is not blank is on that line, and so is the end of a line without
any. -/
theorem lineOf_lineTarget (isLine : line ≤ text.lastLine) (pastEnd : Bool) :
    text.lineOf (text.lineTarget line pastEnd) = line := by
  have starts : text.lineStart line ≤ text.firstNonBlank line := Nat.le_add_right _ _
  have ends := text.firstNonBlank_le_lineEnd line
  have limit := text.lineStart_le_lineLimit line pastEnd
  have within := text.lineLimit_le_lineEnd line pastEnd
  have startsThere := lineOf_lineStart isLine
  unfold lineTarget
  rcases Nat.lt_or_ge (min (text.firstNonBlank line) (text.lineLimit line pastEnd)) (text.lineEnd line)
    with before | atEnd
  · refine (lineOf_eq_of_lt_lineEnd (Nat.le_min.mpr ⟨starts, limit⟩) ?_).trans startsThere
    rwa [startsThere]
  · rw [show min _ _ = text.lineEnd line by omega]
    exact lineOf_lineEnd_of_blank isLine (by omega)

end Document

namespace Number

/-- A sum of counts that does not fit falls behind by the word size at least. -/
theorem wrapAdd_le {a b : Nat} (large : maxCount < a + b) : wrapAdd a b + (maxCount + 1) ≤ a + b := by
  have wraps : wrapAdd a b = (a + b - (maxCount + 1)) % (maxCount + 1) := Nat.mod_eq_sub_mod large
  have less := Nat.mod_le (a + b - (maxCount + 1)) (maxCount + 1)
  omega

end Number

namespace ScreenPlace

/-- The motion to a line at a place in the window. -/
def motion : ScreenPlace → Motion
  | top => .windowTop
  | middle => .windowMiddle
  | bottom => .windowBottom

end ScreenPlace

namespace Window

/-- The line at a place in the window, so many lines from the edge. -/
def placeLine (window : Window) (count scrolloff : Nat) : ScreenPlace → Nat
  | .top => window.topLine count scrolloff
  | .middle => window.middleLine scrolloff
  | .bottom => window.bottomLine count scrolloff

/-- Whether the line so many lines from the edge is far enough from the other edge, too. From the top its number
has to fit into 64 bits. The line in the middle has to be far enough from the first line that is seen. -/
def StaysClear (window : Window) (context : ScrollContext) (count : Nat) : ScreenPlace → Prop
  | .top =>
    let off := edgeDistance context.scrolloff window.view.height
    (window.view.top = 0 ∨ window.view.top + max (count - 1) off ≤ Number.maxCount) ∧
      (window.text.lastLine ≤ window.view.bottom ∨ off = 0 ∨ count + off ≤ window.view.height)
  | .middle =>
    window.view.top = 0 ∨ edgeDistance context.scrolloff window.view.height ≤
      (min window.view.bottom window.text.lastLine - window.view.top) / 2
  | .bottom =>
    let off := edgeDistance context.scrolloff window.view.height
    window.view.top = 0 ∨ off = 0 ∨
      window.view.top + off + count ≤ min window.view.bottom window.text.lastLine + 1

instance (window : Window) (context : ScrollContext) (count : Nat) (place : ScreenPlace) :
    Decidable (window.StaysClear context count place) :=
  match place with
  | .top => inferInstanceAs (Decidable ((_ ∨ _) ∧ (_ ∨ _ ∨ _)))
  | .middle => inferInstanceAs (Decidable (_ ∨ _))
  | .bottom => inferInstanceAs (Decidable (_ ∨ _ ∨ _))

variable {window : Window} {context : ScrollContext}

theorem caretLine_lineWise {line : Nat} (isLine : line ≤ window.text.lastLine) (pastEnd : Bool) :
    (window.setPrimary (lineWise window.text line pastEnd).offset none).caretLine = line :=
  (caretLine_setPrimary (window.text.lineTarget_le line pastEnd) none).trans
    (Document.lineOf_lineTarget isLine pastEnd)

theorem placeLine_le (window : Window) (count scrolloff : Nat) (place : ScreenPlace) :
    window.placeLine count scrolloff place ≤ window.text.lastLine := by
  cases place with
  | top => exact window.topLine_le count scrolloff
  | middle => exact window.middleLine_le scrolloff
  | bottom => exact window.bottomLine_le count scrolloff

section Clear

variable {count : Nat} (rows : 0 < window.view.height)
  (inText : window.ClearOfTop context window.text.lastLine)

include inText

theorem top_le_lastLine : window.view.top ≤ window.text.lastLine := by
  unfold ClearOfTop at inText
  omega

theorem topLine_eq (count : Nat) :
    window.topLine count context.scrolloff =
      min (Number.wrapAdd window.view.top (max (count - 1)
        (if window.view.top = 0 then 0 else edgeDistance context.scrolloff window.view.height)))
        (min window.view.bottom window.text.lastLine) := by
  unfold topLine edges edgeDistance
  rw [Nat.min_eq_left (top_le_lastLine inText)]

theorem middleLine_eq :
    window.middleLine context.scrolloff =
      window.view.top + (min window.view.bottom window.text.lastLine - window.view.top) / 2 := by
  unfold middleLine edges
  rw [Nat.min_eq_left (top_le_lastLine inText)]

theorem bottomLine_eq (count : Nat) :
    window.bottomLine count context.scrolloff =
      max (min window.view.bottom window.text.lastLine - max (count - 1)
        (if window.text.lastLine ≤ window.view.bottom then 0
          else edgeDistance context.scrolloff window.view.height)) window.view.top := by
  unfold bottomLine edges edgeDistance
  simp only [Nat.min_eq_left (top_le_lastLine inText), Nat.le_min, Nat.le_refl, and_true]

include rows

theorem clear_topLine_iff (positive : 0 < count) (small : count ≤ Number.maxCount) :
    (window.ClearOfTop context (window.topLine count context.scrolloff) ∧
      window.ClearOfBottom context (window.topLine count context.scrolloff)) ↔
      window.StaysClear context count .top := by
  have half := two_mul_edgeDistance_lt context.scrolloff rows
  rw [topLine_eq inText]
  unfold ClearOfTop at inText
  unfold ClearOfTop ClearOfBottom StaysClear View.bottom
  dsimp only
  generalize edgeDistance context.scrolloff window.view.height = off at *
  split
  · rw [Number.wrapAdd_of_le (by omega)]
    omega
  · rcases Nat.lt_or_ge Number.maxCount (window.view.top + max (count - 1) off) with large | fits
    · -- What wraps comes out above the view.
      have behind := Number.wrapAdd_le large
      omega
    · rw [Number.wrapAdd_of_le fits]
      omega

theorem clear_middleLine_iff :
    (window.ClearOfTop context (window.middleLine context.scrolloff) ∧
      window.ClearOfBottom context (window.middleLine context.scrolloff)) ↔
      window.StaysClear context count .middle := by
  have half := two_mul_edgeDistance_lt context.scrolloff rows
  have isLine := top_le_lastLine inText
  rw [middleLine_eq inText]
  unfold ClearOfTop ClearOfBottom StaysClear View.bottom
  dsimp only
  omega

theorem clear_bottomLine_iff (positive : 0 < count) :
    (window.ClearOfTop context (window.bottomLine count context.scrolloff) ∧
      window.ClearOfBottom context (window.bottomLine count context.scrolloff)) ↔
      window.StaysClear context count .bottom := by
  have half := two_mul_edgeDistance_lt context.scrolloff rows
  rw [bottomLine_eq inText]
  unfold ClearOfTop at inText
  unfold ClearOfTop ClearOfBottom StaysClear View.bottom
  dsimp only
  split <;> omega

theorem clear_placeLine_iff (positive : 0 < count) (small : count ≤ Number.maxCount) (place : ScreenPlace) :
    (window.ClearOfTop context (window.placeLine count context.scrolloff place) ∧
      window.ClearOfBottom context (window.placeLine count context.scrolloff place)) ↔
      window.StaysClear context count place := by
  cases place with
  | top => exact clear_topLine_iff rows inText positive small
  | middle => exact clear_middleLine_iff rows inText
  | bottom => exact clear_bottomLine_iff rows inText positive

end Clear

end Window

namespace ScreenPlace

theorem resolve_motion (place : ScreenPlace) (window : Window) (caret : Caret) (count? : Option Nat)
    (motions : MotionContext) :
    place.motion.resolve window caret count? motions =
      some (lineWise window.text (window.placeLine (max (count?.getD 1) 1) motions.scrolloff place)
        motions.pastEnd) := by
  cases place <;> rfl

/-- A view that shows the caret stays when the caret goes to a line of the window, just if that line is far
enough from both edges. -/
theorem view_stays_iff (place : ScreenPlace) (window : Window) (count? : Option Nat) (motions : MotionContext)
    (context : ScrollContext) (rows : 0 < window.view.height) (settled : window.scrollToCaret context = window)
    (same : motions.scrolloff = context.scrolloff) (small : count?.getD 1 ≤ Number.maxCount) :
    ∃ landing, place.motion.resolve window window.carets.primary count? motions = some landing ∧
      (((window.setPrimary landing.offset landing.sticky?).scrollToCaret context).view.top =
          window.view.top ↔
        window.view.width = 0 ∨ window.StaysClear context (max (count?.getD 1) 1) place) := by
  refine ⟨_, place.resolve_motion window _ count? motions, ?_⟩
  rw [same]
  generalize countEq : max (count?.getD 1) 1 = count
  have counted : 0 < count ∧ count ≤ Number.maxCount := by
    have one : 1 ≤ Number.maxCount := by decide
    omega
  have isLine := window.placeLine_le count context.scrolloff place
  have shown := (Window.top_scrollToCaret_eq_iff context rows).mp (congrArg (·.view.top) settled)
  refine (@Window.top_scrollToCaret_eq_iff (window.setPrimary _ none) context rows).trans ?_
  rw [Window.caretLine_lineWise isLine motions.pastEnd]
  rcases Nat.eq_zero_or_pos window.view.width with noColumns | columns
  · exact iff_of_true (.inl noColumns) (.inl noColumns)
  · have inText := (shown.resolve_left (Nat.ne_of_gt columns)).1.mono (window.text.lineOf_le_lastLine _)
    exact or_congr_right (Window.clear_placeLine_iff rows inText counted.1 counted.2 place)

/-- The ninth of ten lines that are seen is one line from the last of them, and three are to be seen behind the
caret line: the view goes down by two lines. -/
theorem view_stays_iff_ninth :
    let window : Window :=
      { text := (List.replicate 20 ['x', '\n']).flatten, carets := .single (.ofOffset 20),
        view := { top := 5, height := 10 } }
    let motions : MotionContext := { scrolloff := 3 }
    let context : ScrollContext := { scrolloff := 3 }
    0 < window.view.height ∧ window.scrollToCaret context = window ∧ 9 ≤ Number.maxCount ∧
      ∃ landing, Motion.windowTop.resolve window window.carets.primary (some 9) motions = some landing ∧
        ((window.setPrimary landing.offset landing.sticky?).scrollToCaret context).view.top ≠
          window.view.top := by
  intro window motions context
  have rows : 0 < window.view.height := by decide
  have settled : window.scrollToCaret context = window :=
    Window.scrollToCaret_of_stays context (by decide +kernel) (by decide +kernel)
  have small : 9 ≤ Number.maxCount := by decide
  obtain ⟨landing, leads, staysIff⟩ :=
    view_stays_iff .top window (some 9) motions context rows settled rfl small
  refine ⟨rows, settled, small, landing, leads, fun stays => ?_⟩
  have clear := (staysIff.mp stays).resolve_left (by decide)
  exact absurd clear (by decide +kernel)

end ScreenPlace

end ModalEdit

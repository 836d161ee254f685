import ModalEdit.Proofs.Caret.Order
import ModalEdit.Proofs.Document.Lines
import ModalEdit.Scroll

/-!
Scrolling leaves the text and all carets but the primary one as they are, and that one keeps its selection. Where
it goes on until the caret is seen, the first lines of the views that show the caret line
with its distance to the edges lie between two bounds, and so do the first columns of those that show the caret
column. Up and down the view moves to the nearer bound. Sideways it moves by a step at least: to the right no
further than the bounds allow, but to the left a long step leads past them, and the caret may then be out of the
view.
-/

set_option autoImplicit false

namespace ModalEdit

namespace CaretSet

theorem mem_modifyPrimary {carets : CaretSet} {f : Caret → Caret} {caret : Caret}
    (member : caret ∈ (carets.modifyPrimary f).toList) :
    caret ∈ carets.toList ∨ caret = f carets.primary := by
  simp only [toList, modifyPrimary, List.mem_append, List.mem_cons] at member ⊢
  rcases member with before | here | after
  · exact Or.inl (Or.inl before)
  · exact Or.inr here
  · exact Or.inl (Or.inr (Or.inr after))

end CaretSet

namespace Window

/-- What scrolling may do to a window besides moving its view. -/
structure Scrolls (before after : Window) : Prop where
  text : after.text = before.text
  extent : after.view.height = before.view.height ∧ after.view.width = before.view.width
  carets : ∃ f : Caret → Caret, (∀ caret, (f caret).anchor? = caret.anchor?) ∧
    after.carets = before.carets.modifyPrimary f

theorem Scrolls.refl (window : Window) : window.Scrolls window :=
  ⟨rfl, ⟨rfl, rfl⟩, id, fun _ => rfl, rfl⟩

theorem Scrolls.trans {first second third : Window} (one : first.Scrolls second)
    (two : second.Scrolls third) : first.Scrolls third := by
  obtain ⟨f, keeps, moved⟩ := one.carets
  obtain ⟨g, keepsToo, movedOn⟩ := two.carets
  refine ⟨two.text.trans one.text, ?_, g ∘ f, ?_, ?_⟩
  · exact ⟨two.extent.1.trans one.extent.1, two.extent.2.trans one.extent.2⟩
  · intro caret
    exact (keepsToo (f caret)).trans (keeps caret)
  · rw [movedOn, moved]
    rfl

theorem scrolls_setPrimary (window : Window) (offset : Nat) (sticky? : Option StickyColumn) :
    window.Scrolls (window.setPrimary offset sticky?) :=
  ⟨rfl, ⟨rfl, rfl⟩, ({ · with offset, sticky? }), fun _ => rfl, rfl⟩

theorem text_scrollView (window : Window) (top left : Nat) :
    (window.scrollView top left).text = window.text := by
  unfold scrollView
  split <;> rfl

theorem carets_scrollView (window : Window) (top left : Nat) :
    (window.scrollView top left).carets = window.carets := by
  unfold scrollView
  split <;> rfl

theorem extent_scrollView (window : Window) (top left : Nat) :
    (window.scrollView top left).view.height = window.view.height ∧
      (window.scrollView top left).view.width = window.view.width := by
  unfold scrollView
  split <;> exact ⟨rfl, rfl⟩

theorem scrolls_scrollView (window : Window) (top left : Nat) :
    window.Scrolls (window.scrollView top left) :=
  ⟨window.text_scrollView top left, window.extent_scrollView top left, id, fun _ => rfl,
    window.carets_scrollView top left⟩

theorem text_scrollToCaret (window : Window) (context : ScrollContext) :
    (window.scrollToCaret context).text = window.text := by
  unfold scrollToCaret
  split
  · rfl
  · exact window.text_scrollView _ _

theorem carets_scrollToCaret (window : Window) (context : ScrollContext) :
    (window.scrollToCaret context).carets = window.carets := by
  unfold scrollToCaret
  split
  · rfl
  · exact window.carets_scrollView _ _

theorem scrolls_placeOnLine (window : Window) (line : Nat) (firstNonBlank pastEnd : Bool) :
    window.Scrolls (window.placeOnLine line firstNonBlank pastEnd) := by
  unfold placeOnLine
  dsimp only
  split
  · exact window.scrolls_setPrimary _ _
  · exact window.scrolls_setPrimary _ _

theorem scrolls_moveCaretIntoView (window : Window) (context : ScrollContext) :
    window.Scrolls (window.moveCaretIntoView context) := by
  unfold moveCaretIntoView
  split
  · exact .refl window
  · dsimp only
    apply iteInduction (motive := window.Scrolls)
    · exact fun _ => window.scrolls_setPrimary _ _
    · intro _
      apply iteInduction (motive := window.Scrolls)
      · exact fun _ => window.scrolls_placeOnLine _ _ _
      · exact fun _ => .refl window

theorem view_placeOnLine (window : Window) (line : Nat) (firstNonBlank pastEnd : Bool) :
    (window.placeOnLine line firstNonBlank pastEnd).view = window.view := by
  unfold placeOnLine
  dsimp only
  split <;> rfl

theorem view_moveCaretIntoView (window : Window) (context : ScrollContext) :
    (window.moveCaretIntoView context).view = window.view := by
  unfold moveCaretIntoView
  split
  · rfl
  · dsimp only
    apply iteInduction (motive := fun after : Window => after.view = window.view)
    · exact fun _ => rfl
    · intro _
      apply iteInduction (motive := fun after : Window => after.view = window.view)
      · exact fun _ => window.view_placeOnLine _ _ _
      · exact fun _ => rfl

theorem scrolls_scrollPages (window : Window) (down : Bool) (count : Nat)
    (context : ScrollContext) : window.Scrolls (window.scrollPages down count context).1 := by
  unfold scrollPages
  dsimp only
  split
  · exact .refl window
  · generalize (if down then _ else _) = target
    split
    · exact (window.scrolls_scrollView _ _).trans (scrolls_placeOnLine _ _ _ _)
    · split
      · exact window.scrolls_scrollView _ _
      · exact window.scrolls_scrollView _ _

theorem scrolls_scrollHalfPage (window : Window) (down : Bool) (amount : Nat)
    (context : ScrollContext) : window.Scrolls (window.scrollHalfPage down amount context).1 := by
  unfold scrollHalfPage
  dsimp only
  split
  · exact .refl window
  · exact (window.scrolls_scrollView _ _).trans (scrolls_placeOnLine _ _ _ _)

theorem scrolls_scrollLines (window : Window) (down : Bool) (count : Nat)
    (context : ScrollContext) : window.Scrolls (window.scrollLines down count context).1 := by
  unfold scrollLines
  dsimp only
  generalize (if down then _ else _) = top
  split
  · exact .refl window
  · exact (window.scrolls_scrollView _ _).trans (scrolls_moveCaretIntoView _ _)

theorem scrolls_scrollLineTo (window : Window) (place : ScreenPlace) (count? : Option Nat)
    (firstNonBlank : Bool) (context : ScrollContext) :
    window.Scrolls (window.scrollLineTo place count? firstNonBlank context) := by
  unfold scrollLineTo
  dsimp only
  split
  · exact (window.scrolls_scrollView _ _).trans (scrolls_placeOnLine _ _ _ _)
  · exact window.scrolls_scrollView _ _

theorem scrolls_scrollColumns (window : Window) (right : Bool) (count : Nat)
    (context : ScrollContext) : window.Scrolls (window.scrollColumns right count context).1 := by
  unfold scrollColumns
  dsimp only
  generalize (if right then _ else _) = left
  split
  · exact .refl window
  · exact (window.scrolls_scrollView _ _).trans (scrolls_moveCaretIntoView _ _)

theorem scrolls_scrollColumnToEdge (window : Window) (leftEdge : Bool) (context : ScrollContext) :
    window.Scrolls (window.scrollColumnToEdge leftEdge context) :=
  window.scrolls_scrollView _ _

end Window

section Bounds

variable {low high value : Nat}

theorem clampBetween_eq (ordered : low ≤ high) (value : Nat) :
    clampBetween low high value = max low (min value high) := by
  unfold clampBetween
  split
  · omega
  · split <;> omega

theorem clampBetween_inside (ordered : low ≤ high) (value : Nat) :
    low ≤ clampBetween low high value ∧ clampBetween low high value ≤ high := by
  rw [clampBetween_eq ordered]
  omega

theorem clampBetween_of_inside (behind : low ≤ value) (before : value ≤ high) :
    clampBetween low high value = value := by
  rw [clampBetween_eq (Nat.le_trans behind before)]
  omega

/-- Any other value between the bounds is further away. -/
theorem clampBetween_nearest {other : Nat} (behind : low ≤ other) (before : other ≤ high)
    (differs : other ≠ clampBetween low high value) :
    ((clampBetween low high value : Int) - value).natAbs < ((other : Int) - value).natAbs := by
  rw [clampBetween_eq (Nat.le_trans behind before)] at differs ⊢
  omega

/-- Between the distances to both edges there is room for the caret. -/
theorem two_mul_edgeDistance_lt (distance : Nat) {span : Nat} (positive : 0 < span) :
    2 * edgeDistance distance span < span := by
  unfold edgeDistance
  omega

end Bounds

namespace Window

/-- The window with a view that begins elsewhere. -/
def withView (window : Window) (top left : Nat) : Window :=
  { window with view := { window.view with top, left } }

variable (window : Window) (context : ScrollContext)

section Lines

/-- Whether a view that begins at a line shows the caret line and the lines next to it, as far as there are
any. -/
def ShowsLine (top : Nat) : Prop :=
  let off := edgeDistance context.scrolloff window.view.height
  top ≤ window.caretLine - off ∧
    min (window.caretLine + off) window.text.lastLine ≤ top + window.view.height - 1

/-- The first line of the highest view that shows the caret line. -/
def highestTop : Nat :=
  let off := edgeDistance context.scrolloff window.view.height
  min (window.caretLine + off) window.text.lastLine - (window.view.height - 1)

/-- The first line of the lowest view that shows the caret line. -/
def lowestTop : Nat :=
  window.caretLine - edgeDistance context.scrolloff window.view.height

variable {window}

theorem highestTop_le_lowestTop (rows : 0 < window.view.height) :
    window.highestTop context ≤ window.lowestTop context := by
  have room := two_mul_edgeDistance_lt context.scrolloff rows
  simp only [highestTop, lowestTop]
  omega

theorem showsLine_iff (rows : 0 < window.view.height) (top : Nat) :
    window.ShowsLine context top ↔ window.highestTop context ≤ top ∧ top ≤ window.lowestTop context := by
  simp only [ShowsLine, highestTop, lowestTop]
  omega

theorem topForCaret_eq (rows : 0 < window.view.height) :
    window.topForCaret context =
      clampBetween (window.highestTop context) (window.lowestTop context) window.view.top := by
  have ordered := highestTop_le_lowestTop context rows
  rw [clampBetween_eq ordered]
  simp only [highestTop, lowestTop, topForCaret] at ordered ⊢
  split <;> omega

theorem showsLine_topForCaret (rows : 0 < window.view.height) :
    window.ShowsLine context (window.topForCaret context) := by
  rw [showsLine_iff context rows, topForCaret_eq context rows]
  exact clampBetween_inside (highestTop_le_lowestTop context rows) _

theorem topForCaret_of_shows (rows : 0 < window.view.height)
    (shows : window.ShowsLine context window.view.top) : window.topForCaret context = window.view.top := by
  obtain ⟨behind, before⟩ := (showsLine_iff context rows _).mp shows
  rw [topForCaret_eq context rows]
  exact clampBetween_of_inside behind before

theorem topForCaret_nearest (rows : 0 < window.view.height) {top : Nat}
    (shows : window.ShowsLine context top) (differs : top ≠ window.topForCaret context) :
    ((window.topForCaret context : Int) - window.view.top).natAbs <
      ((top : Int) - window.view.top).natAbs := by
  obtain ⟨behind, before⟩ := (showsLine_iff context rows _).mp shows
  rw [topForCaret_eq context rows] at differs ⊢
  exact clampBetween_nearest behind before differs

/-- The first line of the new view is a line of the text. -/
theorem topForCaret_le_lastLine (rows : 0 < window.view.height) :
    window.topForCaret context ≤ window.text.lastLine := by
  have above := (showsLine_topForCaret context rows).1
  have isLine : window.caretLine ≤ window.text.lastLine := window.text.lineOf_le_lastLine _
  omega

end Lines

section Columns

/-- Whether a view that begins at a column shows the caret column and the columns next to it. -/
def ShowsColumn (left : Nat) : Prop :=
  let off := edgeDistance context.sidescrolloff window.view.width
  left ≤ window.caretColumn - off ∧ window.caretColumn + off ≤ left + window.view.width - 1

/-- The first column of the leftmost view that shows the caret column. -/
def leftmost : Nat :=
  window.caretColumn + edgeDistance context.sidescrolloff window.view.width - (window.view.width - 1)

/-- The first column of the rightmost view that shows the caret column. -/
def rightmost : Nat :=
  window.caretColumn - edgeDistance context.sidescrolloff window.view.width

/-- Whether the view has to go to the left, and the least step leads further than the leftmost view that
shows the caret column. -/
def StepsPast : Prop :=
  window.rightmost context < window.view.left ∧
    window.view.left - context.sidescroll < window.leftmost context

instance : Decidable (window.StepsPast context) :=
  inferInstanceAs (Decidable (_ ∧ _))

variable {window}

theorem leftmost_le_rightmost (columns : 0 < window.view.width) :
    window.leftmost context ≤ window.rightmost context := by
  have room := two_mul_edgeDistance_lt context.sidescrolloff columns
  simp only [leftmost, rightmost]
  omega

theorem showsColumn_iff (columns : 0 < window.view.width) (left : Nat) :
    window.ShowsColumn context left ↔ window.leftmost context ≤ left ∧ left ≤ window.rightmost context := by
  simp only [ShowsColumn, leftmost, rightmost]
  omega

/-- To the right the least step is held between the bounds; to the left it is not. -/
theorem leftForCaret_eq (columns : 0 < window.view.width) :
    window.leftForCaret context =
      if window.rightmost context < window.view.left then
        min (window.rightmost context) (window.view.left - context.sidescroll)
      else if window.view.left < window.leftmost context then
        clampBetween (window.leftmost context) (window.rightmost context)
          (window.view.left + context.sidescroll)
      else window.view.left := by
  rw [clampBetween_eq (leftmost_le_rightmost context columns)]
  unfold leftForCaret leftmost rightmost
  dsimp only
  by_cases behind : window.caretColumn - edgeDistance context.sidescrolloff window.view.width < window.view.left
  · rw [if_pos behind, if_pos behind]
  · rw [if_neg behind, if_neg behind]
    congr 1
    rw [eq_iff_iff]
    omega

theorem leftForCaret_le_rightmost (columns : 0 < window.view.width) :
    window.leftForCaret context ≤ window.rightmost context := by
  have ordered := leftmost_le_rightmost context columns
  have inside := clampBetween_inside ordered (window.view.left + context.sidescroll)
  rw [leftForCaret_eq context columns]
  split
  · omega
  · split <;> omega

theorem leftmost_le_leftForCaret_iff (columns : 0 < window.view.width) :
    window.leftmost context ≤ window.leftForCaret context ↔ ¬window.StepsPast context := by
  have ordered := leftmost_le_rightmost context columns
  have inside := clampBetween_inside ordered (window.view.left + context.sidescroll)
  rw [leftForCaret_eq context columns, StepsPast]
  split
  · omega
  · split <;> omega

theorem showsColumn_leftForCaret_iff (columns : 0 < window.view.width) :
    window.ShowsColumn context (window.leftForCaret context) ↔ ¬window.StepsPast context := by
  have within := leftForCaret_le_rightmost context columns
  rw [showsColumn_iff context columns, leftmost_le_leftForCaret_iff context columns]
  exact and_iff_left within

variable (window)

/-- The view stays just where the caret column is seen. -/
theorem leftForCaret_eq_left_iff (columns : 0 < window.view.width) :
    window.leftForCaret context = window.view.left ↔ window.ShowsColumn context window.view.left := by
  have ordered := leftmost_le_rightmost context columns
  have inside := clampBetween_inside ordered (window.view.left + context.sidescroll)
  rw [showsColumn_iff context columns, leftForCaret_eq context columns]
  split
  · omega
  · split <;> omega

end Columns

variable {window}

/-- Scrolling changes where the view begins, and nothing else. -/
theorem scrollToCaret_eq (rows : 0 < window.view.height) (columns : 0 < window.view.width) :
    window.scrollToCaret context =
      window.withView (window.topForCaret context) (window.leftForCaret context) := by
  have seen : window.isHidden = false := by
    simp only [isHidden, Bool.or_eq_false_iff, beq_eq_false_iff_ne]
    omega
  have isLine := topForCaret_le_lastLine context rows
  rw [scrollToCaret, seen, if_neg Bool.false_ne_true, scrollView]
  by_cases same : window.topForCaret context = window.view.top ∧ window.leftForCaret context = window.view.left
  · rw [if_pos same, same.1, same.2]
    rfl
  · rw [if_neg same, scrollTo, Nat.min_eq_left isLine]
    rfl

theorem scrollToCaret_withView (rows : 0 < window.view.height) (columns : 0 < window.view.width)
    (top left : Nat) :
    (window.withView top left).scrollToCaret context =
      window.withView ((window.withView top left).topForCaret context)
        ((window.withView top left).leftForCaret context) :=
  scrollToCaret_eq context rows columns

/-- The line that the view begins with is the nearest to the old one from which the caret line is seen with
its distance to the edges, and scrolling again leaves it. -/
theorem scrollToCaret_nearest (window : Window) (context : ScrollContext) (rows : 0 < window.view.height)
    (columns : 0 < window.view.width) :
    let scrolled := window.scrollToCaret context
    window.ShowsLine context scrolled.view.top ∧
      (∀ top, window.ShowsLine context top → top ≠ scrolled.view.top →
        ((scrolled.view.top : Int) - window.view.top).natAbs < ((top : Int) - window.view.top).natAbs) ∧
      (window.ShowsLine context window.view.top → scrolled.view.top = window.view.top) ∧
      (scrolled.scrollToCaret context).view.top = scrolled.view.top := by
  have shows := showsLine_topForCaret context rows
  rw [scrollToCaret_eq context rows columns]
  refine ⟨shows, fun _ => topForCaret_nearest context rows, topForCaret_of_shows context rows, ?_⟩
  rw [scrollToCaret_withView context rows columns]
  exact topForCaret_of_shows context rows shows

/-- The caret is on the fifth line, below a view of four lines, and one line is to be seen behind it: the
view goes down by two lines and not by three. -/
theorem scrollToCaret_nearest_below :
    let window : Window :=
      { text := "a\nb\nc\nd\ne\nf\ng".toList, carets := .single (.ofOffset 8), view := { height := 4 } }
    let scrolled := window.scrollToCaret { scrolloff := 1 }
    scrolled.view.top = 2 ∧ window.ShowsLine { scrolloff := 1 } 2 ∧ window.ShowsLine { scrolloff := 1 } 3 ∧
      (scrolled.scrollToCaret { scrolloff := 1 }).view.top = 2 := by
  intro window scrolled
  have rows : 0 < window.view.height := by decide
  have columns : 0 < window.view.width := by decide
  have top : scrolled.view.top = 2 := by decide +kernel
  obtain ⟨shows, _, _, again⟩ := scrollToCaret_nearest window { scrolloff := 1 } rows columns
  refine ⟨top, top ▸ shows, ⟨?_, ?_⟩, again.trans top⟩
  · decide +kernel
  · decide +kernel

/-- What is seen from the new first column. It is never too far to the right. Unless the least step to the
left leads past the caret, the caret column is seen with its distance to the edges and scrolling again leaves
the view; otherwise it is not seen so, and scrolling again moves the view to where it is. -/
theorem scrollToCaret_shows_iff (window : Window) (context : ScrollContext) (rows : 0 < window.view.height)
    (columns : 0 < window.view.width) :
    let scrolled := window.scrollToCaret context
    let again := scrolled.scrollToCaret context
    scrolled.view.left ≤ window.caretColumn - edgeDistance context.sidescrolloff window.view.width ∧
      (window.ShowsColumn context scrolled.view.left ↔ ¬window.StepsPast context) ∧
      (again.view.left = scrolled.view.left ↔ ¬window.StepsPast context) ∧
      window.ShowsColumn context again.view.left ∧
      (again.scrollToCaret context).view.left = again.view.left := by
  have within := leftForCaret_le_rightmost context columns
  have shows := showsColumn_leftForCaret_iff context columns
  rw [scrollToCaret_eq context rows columns]
  generalize window.leftForCaret context = left at within shows
  generalize window.topForCaret context = top
  have stays := (window.withView top left).leftForCaret_eq_left_iff context columns
  -- A view that does not begin too far to the right has not to go to the left.
  have seen : window.ShowsColumn context ((window.withView top left).leftForCaret context) := by
    have onColumns : 0 < (window.withView top left).view.width := columns
    refine (showsColumn_leftForCaret_iff context onColumns).mpr fun past => ?_
    exact Nat.not_lt.mpr within past.1
  dsimp only
  rw [scrollToCaret_withView context rows columns, scrollToCaret_withView context rows columns]
  generalize (window.withView top left).leftForCaret context = next at stays seen ⊢
  generalize (window.withView top left).topForCaret context = nextTop
  have settles := (window.withView nextTop next).leftForCaret_eq_left_iff context columns
  exact ⟨within, shows, stays.trans shows, seen, settles.mpr seen⟩

/-- The caret is in column 45, to be seen with ten columns to both edges of a window that begins at column
40 and has 21 columns. A least step of 30 columns brings it out of the view, and the second step brings it
back. -/
theorem scrollToCaret_shows_iff_past :
    let window : Window :=
      { text := List.replicate 100 'x', carets := .single (.ofOffset 45),
        view := { left := 40, height := 10, width := 21 } }
    let context : ScrollContext := { sidescrolloff := 10, sidescroll := 30 }
    let scrolled := window.scrollToCaret context
    scrolled.view.left = 10 ∧ ¬window.ShowsColumn context 10 ∧
      (scrolled.scrollToCaret context).view.left ≠ 10 ∧
      window.ShowsColumn context (scrolled.scrollToCaret context).view.left := by
  intro window context scrolled
  have rows : 0 < window.view.height := by decide
  have columns : 0 < window.view.width := by decide
  have past : window.StepsPast context := by decide +kernel
  have left : scrolled.view.left = 10 := by decide +kernel
  obtain ⟨_, shows, stays, seen, _⟩ := scrollToCaret_shows_iff window context rows columns
  rw [show (window.scrollToCaret context).view.left = 10 from left] at shows stays
  exact ⟨left, fun shown => shows.mp shown past, fun same => stays.mp same past, seen⟩

end Window

end ModalEdit

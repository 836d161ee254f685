import ModalEdit.Proofs.Motion.Steps
import ModalEdit.Proofs.Window.Showing

/-!
Scroll commands choose the first line of the view and put the caret into it. Each key ends with scrolling until
the caret is seen, and the first line stays just if the caret line is far enough from both edges of the view.
The commands see to that, but they let the view begin so near to the end of the text that no line is far enough
from its top; it then goes back.
-/

set_option autoImplicit false

namespace ModalEdit

/-- The commands that scroll up and down: by lines, by pages, and by half a page or any number of lines. -/
inductive ScrollCommand where
  | lines (down : Bool) (count : Nat)
  | pages (down : Bool) (count : Nat)
  | halfPage (down : Bool) (amount : Nat)

namespace ScrollCommand

/-- The window after the command. -/
def run (window : Window) (context : ScrollContext) : ScrollCommand → Window
  | lines down count => (window.scrollLines down count context).1
  | pages down count => (window.scrollPages down count context).1
  | halfPage down amount => (window.scrollHalfPage down amount context).1

/-- Whether the command goes on until little more than the last line is seen. -/
def goesToEnd : ScrollCommand → Bool
  | lines down _ | pages down _ => down
  | halfPage .. => false

/-- Whether the first line of the new view stays within 64 bits. The other commands are held by the text or by
the height of the window. -/
def Fits (window : Window) : ScrollCommand → Prop
  | pages true count =>
    window.view.top + max (window.view.height - 2) 1 * max count 1 ≤ Number.maxCount
  | _ => True

end ScrollCommand

namespace Window

variable {window : Window} {context : ScrollContext} {line place : Nat} {pastEnd : Bool}

section Margins

variable (window context)

/-- Whether a line is as far from the top of the view as the caret has to be, or the text begins in the
view. -/
def ClearOfTop (line : Nat) : Prop :=
  window.view.top = 0 ∨ window.view.top + edgeDistance context.scrolloff window.view.height ≤ line

/-- Whether a line is as far from the bottom of the view as the caret has to be, or the text ends in the
view. -/
def ClearOfBottom (line : Nat) : Prop :=
  window.text.lastLine ≤ window.view.bottom ∨
    line + edgeDistance context.scrolloff window.view.height ≤ window.view.bottom

instance (line : Nat) : Decidable (window.ClearOfTop context line) :=
  inferInstanceAs (Decidable (_ ∨ _))

instance (line : Nat) : Decidable (window.ClearOfBottom context line) :=
  inferInstanceAs (Decidable (_ ∨ _))

variable {window}

theorem showsLine_top_iff (rows : 0 < window.view.height) :
    window.ShowsLine context window.view.top ↔
      window.ClearOfTop context window.caretLine ∧ window.ClearOfBottom context window.caretLine := by
  simp only [ShowsLine, ClearOfTop, ClearOfBottom, View.bottom]
  omega

/-- What the view begins with stays just where the caret is far enough from both edges. -/
theorem top_scrollToCaret_eq_iff (rows : 0 < window.view.height) :
    (window.scrollToCaret context).view.top = window.view.top ↔
      window.view.width = 0 ∨
        window.ClearOfTop context window.caretLine ∧ window.ClearOfBottom context window.caretLine := by
  rw [← showsLine_top_iff context rows]
  rcases Nat.eq_zero_or_pos window.view.width with noColumns | columns
  · have hidden : window.isHidden = true := by
      rw [isHidden, noColumns, beq_self_eq_true, Bool.or_true]
    rw [scrollToCaret, if_pos hidden]
    exact iff_of_true rfl (.inl noColumns)
  · rw [scrollToCaret_eq context rows columns]
    refine ⟨fun stays => .inr ?_, fun shown => ?_⟩
    · have shows := showsLine_topForCaret context rows
      rwa [show window.topForCaret context = window.view.top from stays] at shows
    · exact topForCaret_of_shows context rows (shown.resolve_left (Nat.ne_of_gt columns))

theorem scrollToCaret_of_stays (top : window.topForCaret context = window.view.top)
    (left : window.leftForCaret context = window.view.left) : window.scrollToCaret context = window := by
  unfold scrollToCaret scrollView
  rw [if_pos (⟨top, left⟩ : _ ∧ _), ite_self]

end Margins

theorem ClearOfTop.mono {other : Nat} (clear : window.ClearOfTop context line) (further : line ≤ other) :
    window.ClearOfTop context other :=
  clear.imp_right fun behind => Nat.le_trans behind further

/-- The window is the other one with the caret put on a line. Where the caret may stand behind the last
character, and that ends the line without being a line feed, it may be on the next line instead. -/
structure PutsOn (before after : Window) (pastEnd : Bool) (line : Nat) : Prop where
  text : after.text = before.text
  view : after.view = before.view
  behind : line ≤ after.caretLine
  here : pastEnd = false ∨ before.text.Plain → after.caretLine = line

theorem putsOn_refl (window : Window) (pastEnd : Bool) : window.PutsOn window pastEnd window.caretLine :=
  ⟨rfl, rfl, Nat.le_refl _, fun _ => rfl⟩

theorem caretLine_setPrimary (inside : place ≤ window.text.length) (sticky? : Option StickyColumn) :
    (window.setPrimary place sticky?).caretLine = window.text.lineOf place :=
  congrArg window.text.lineOf (Nat.min_eq_left inside)

theorem putsOn_setPrimary (isLine : line ≤ window.text.lastLine)
    (starts : window.text.lineStart line ≤ place) (within : place ≤ window.text.lineLimit line pastEnd)
    (sticky? : Option StickyColumn) :
    window.PutsOn (window.setPrimary place sticky?) pastEnd line := by
  have inside := Nat.le_trans within (window.text.lineLimit_le line pastEnd)
  have caretLine := caretLine_setPrimary inside sticky?
  refine ⟨rfl, rfl, caretLine ▸ Document.le_lineOf isLine starts, fun resting => caretLine.trans ?_⟩
  rcases resting with rfl | plain
  · exact Document.lineOf_eq_of_le_lineLimit isLine starts within
  · exact plain.lineOf_eq isLine starts (Nat.le_trans within (window.text.lineLimit_le_lineEnd line pastEnd))

theorem putsOn_placeOnLine (window : Window) (isLine : line ≤ window.text.lastLine)
    (firstNonBlank pastEnd : Bool) :
    window.PutsOn (window.placeOnLine line firstNonBlank pastEnd) pastEnd line := by
  have starts := window.text.lineStart_le_lineLimit line pastEnd
  unfold placeOnLine
  dsimp only
  rw [Nat.min_eq_left isLine]
  split
  · exact putsOn_setPrimary isLine (Nat.le_min.mpr ⟨Nat.le_add_right _ _, starts⟩)
      (Nat.min_le_right _ _) none
  · obtain ⟨behind, within⟩ := window.columnPlace_between isLine pastEnd
      (window.carets.primary.sticky?.getD (.column window.caretColumn))
    exact putsOn_setPrimary isLine behind within _

/-- The caret is put on a line only if it is not there yet. -/
theorem putsOn_ite (window : Window) (isLine : line ≤ window.text.lastLine) (firstNonBlank pastEnd : Bool) :
    window.PutsOn (if line ≠ window.caretLine then window.placeOnLine line firstNonBlank pastEnd else window)
      pastEnd line := by
  split
  · exact window.putsOn_placeOnLine isLine firstNonBlank pastEnd
  · rename_i there
    rw [Decidable.of_not_not there]
    exact window.putsOn_refl pastEnd

theorem putsOn_moveCaretIntoView (window : Window) (context : ScrollContext) (rows : 0 < window.view.height)
    (columns : 0 < window.view.width) :
    let off := edgeDistance context.scrolloff window.view.height
    ∃ line, window.PutsOn (window.moveCaretIntoView context) context.pastEnd line ∧
      (0 < window.view.top → window.view.top + off ≤ window.text.lastLine →
        window.view.top + off ≤ line) ∧
      (window.view.bottom < window.text.lastLine → line + off ≤ window.view.bottom) := by
  have seen : window.isHidden = false := by
    simp only [isHidden, Bool.or_eq_false_iff, beq_eq_false_iff_ne]
    omega
  have room := two_mul_edgeDistance_lt context.scrolloff rows
  unfold moveCaretIntoView View.bottom
  rw [seen, if_neg Bool.false_ne_true]
  dsimp only
  generalize edgeDistance context.scrolloff window.view.height = off at room ⊢
  generalize lowestEq : (if window.text.lastLine ≤ _ then window.text.lastLine else _) = lowest
  generalize highestEq : min (if window.view.top = 0 then 0 else window.view.top + off) lowest = highest
  obtain ⟨behind, before⟩ := clampBetween_inside (highestEq ▸ Nat.min_le_right _ _ : highest ≤ lowest)
    window.caretLine
  generalize clampBetween highest lowest window.caretLine = line at *
  have isLine : line ≤ window.text.lastLine := by
    split at lowestEq <;> omega
  refine ⟨line, ?_, ?_, ?_⟩
  · rw [Nat.min_eq_left isLine]
    generalize clampBetween _ _ window.caretColumn = column
    split
    · refine putsOn_setPrimary isLine (Nat.le_min.mpr ⟨?_, ?_⟩) (Nat.min_le_right _ _) none
      · exact window.lineStart_le_offsetAtColumn isLine _
      · exact window.text.lineStart_le_lineLimit line context.pastEnd
    · exact window.putsOn_ite isLine false context.pastEnd
  · split at lowestEq <;> split at highestEq <;> omega
  · split at lowestEq <;> omega

/-- What a scroll command leads to: a view that begins elsewhere, with the caret on a line that is far enough
from its top if any line is, and far enough from its bottom. -/
structure ScrollsTo (before after : Window) (context : ScrollContext) (command : ScrollCommand) (line : Nat) :
    Prop where
  text : after.text = before.text
  behind : line ≤ after.caretLine
  here : context.pastEnd = false ∨ before.text.Plain → after.caretLine = line
  top : after.ClearOfTop context before.text.lastLine → after.ClearOfTop context line
  bottom : command.Fits before → after.ClearOfBottom context line
  start : command.goesToEnd = false → after.ClearOfTop context before.text.lastLine

theorem scrollView_eq {top : Nat} (isLine : top ≤ window.text.lastLine) :
    window.scrollView top window.view.left = window.withView top window.view.left := by
  unfold scrollView scrollTo withView
  rw [Nat.min_eq_left isLine]
  split
  · rename_i same
    rw [same.1]
  · rfl

/-- A view that begins at another line, with the caret put on a line from there. -/
theorem ScrollsTo.ofPutsOn (top : Nat) {after : Window} {command : ScrollCommand}
    (puts : (window.withView top window.view.left).PutsOn after context.pastEnd line)
    (clearTop : 0 < top → top + edgeDistance context.scrolloff window.view.height ≤ window.text.lastLine →
      top + edgeDistance context.scrolloff window.view.height ≤ line)
    (clearBottom : command.Fits window → top + (window.view.height - 1) < window.text.lastLine →
      line + edgeDistance context.scrolloff window.view.height ≤ top + (window.view.height - 1))
    (clearStart : command.goesToEnd = false → 0 < top →
      top + edgeDistance context.scrolloff window.view.height ≤ window.text.lastLine) :
    window.ScrollsTo after context command line := by
  have atStart := Nat.eq_zero_or_pos top
  refine ⟨puts.text, puts.behind, puts.here, ?_, fun fits => ?_, fun stops => ?_⟩
  · unfold ClearOfTop
    rw [puts.view]
    rintro (first | within)
    · exact .inl first
    · exact atStart.imp_right fun further => clearTop further within
  · unfold ClearOfBottom
    rw [puts.view, puts.text]
    exact (Nat.lt_or_ge _ _).symm.imp_right (clearBottom fits)
  · unfold ClearOfTop
    rw [puts.view]
    exact atStart.imp_right (clearStart stops)

section Commands

variable (rows : 0 < window.view.height) (clearTop : window.ClearOfTop context window.caretLine)
  (clearBottom : window.ClearOfBottom context window.caretLine)

include clearTop clearBottom

theorem scrollsTo_refl (command : ScrollCommand) :
    window.ScrollsTo window context command window.caretLine := by
  have isLine : window.caretLine ≤ window.text.lastLine := window.text.lineOf_le_lastLine _
  refine ⟨rfl, Nat.le_refl _, fun _ => rfl, fun _ => clearTop, fun _ => clearBottom, fun _ => ?_⟩
  exact clearTop.mono isLine

include rows

theorem scrollsTo_scrollLines (columns : 0 < window.view.width) (down : Bool) (count : Nat) :
    ∃ line, window.ScrollsTo (window.scrollLines down count context).1 context (.lines down count) line := by
  have isLine : window.caretLine ≤ window.text.lastLine := window.text.lineOf_le_lastLine _
  have stays := scrollsTo_refl clearTop clearBottom (.lines down count)
  unfold ClearOfTop at clearTop
  unfold scrollLines
  dsimp only
  generalize topEq : (if down then _ else _) = top
  split
  · exact ⟨_, stays⟩
  · rw [scrollView_eq (by split at topEq <;> omega)]
    obtain ⟨line, puts, clear, bottom⟩ :=
      (window.withView top window.view.left).putsOn_moveCaretIntoView context rows columns
    refine ⟨line, .ofPutsOn top puts clear (fun _ => bottom) fun up _ => ?_⟩
    rw [show down = false from up, if_neg Bool.false_ne_true] at topEq
    omega

theorem scrollsTo_scrollPages (down : Bool) (count : Nat) :
    ∃ line, window.ScrollsTo (window.scrollPages down count context).1 context (.pages down count) line := by
  have isLine : window.caretLine ≤ window.text.lastLine := window.text.lineOf_le_lastLine _
  have room := two_mul_edgeDistance_lt context.scrolloff rows
  unfold ClearOfTop at clearTop
  unfold ClearOfBottom View.bottom at clearBottom
  unfold scrollPages
  dsimp only
  rw [if_neg (Nat.ne_of_gt rows)]
  cases down with
  | true =>
    simp only [↓reduceIte, apply_ite Prod.fst, ite_self]
    generalize stepEq : Number.wrapMul _ _ = step
    generalize topEq : min (Number.wrapAdd _ step) _ = top
    generalize targetEq : max window.caretLine _ = target
    have targetIsLine : target ≤ window.text.lastLine := by
      split at targetEq <;> omega
    rw [scrollView_eq (by omega)]
    have puts := (window.withView top window.view.left).putsOn_ite targetIsLine context.startOfLine
      context.pastEnd
    refine ⟨target, .ofPutsOn top puts (fun _ _ => ?_) (fun fits _ => ?_) nofun⟩
    · split at targetEq <;> omega
    · -- Without wrapping the new bottom is not above the old one, which the caret line was clear of.
      have further : window.view.top ≤ top := by
        rw [Number.wrapMul_of_le (Nat.le_trans (Nat.le_add_left _ _) fits)] at stepEq
        rw [Number.wrapAdd_of_le (stepEq ▸ fits)] at topEq
        omega
      split at targetEq <;> omega
  | false =>
    simp only [Bool.false_eq_true, ↓reduceIte, apply_ite Prod.fst, ite_self]
    generalize topEq : window.view.top - _ = top
    generalize targetEq : min window.caretLine _ = target
    have targetIsLine : target ≤ window.text.lastLine := by omega
    rw [scrollView_eq (by omega)]
    have puts := (window.withView top window.view.left).putsOn_ite targetIsLine context.startOfLine
      context.pastEnd
    refine ⟨target, .ofPutsOn top puts (fun _ _ => ?_) (fun _ _ => ?_) fun _ _ => ?_⟩
    · split at targetEq <;> omega
    · split at targetEq <;> omega
    · omega

theorem scrollsTo_scrollHalfPage (down : Bool) (amount : Nat) :
    ∃ line, window.ScrollsTo (window.scrollHalfPage down amount context).1 context (.halfPage down amount)
      line := by
  have isLine : window.caretLine ≤ window.text.lastLine := window.text.lineOf_le_lastLine _
  have room := two_mul_edgeDistance_lt context.scrolloff rows
  have stays := scrollsTo_refl clearTop clearBottom (.halfPage down amount)
  unfold ClearOfTop at clearTop
  unfold ClearOfBottom View.bottom at clearBottom
  unfold scrollHalfPage
  dsimp only
  split
  · exact ⟨_, stays⟩
  · obtain ⟨some, within⟩ := clampBetween_inside (show 1 ≤ window.view.height from rows) amount
    generalize clampBetween 1 window.view.height amount = lines at *
    cases down with
    | true =>
      simp only [↓reduceIte]
      generalize topEq : min (window.view.top + lines) _ = top
      generalize lowerEq : (if top = 0 then 0 else _) = lower
      generalize upperEq : min (top + window.view.height - 1) window.text.lastLine = upper
      have between := clampBetween_eq (Nat.min_le_right lower upper) (window.caretLine + lines)
      generalize clampBetween (min lower upper) upper (window.caretLine + lines) = target at *
      have targetIsLine : target ≤ window.text.lastLine := by omega
      rw [scrollView_eq (by omega)]
      have puts := (window.withView top window.view.left).putsOn_placeOnLine targetIsLine context.startOfLine
        context.pastEnd
      refine ⟨target, .ofPutsOn top puts (fun _ _ => ?_) (fun _ _ => ?_) fun _ _ => ?_⟩
      · split at lowerEq <;> omega
      · split at lowerEq <;> omega
      · omega
    | false =>
      simp only [Bool.false_eq_true, ↓reduceIte]
      generalize topEq : window.view.top - lines = top
      generalize upperEq : (if window.text.lastLine ≤ _ then _ else _) = upper
      have between := clampBetween_eq (Nat.min_le_right top upper) (window.caretLine - lines)
      generalize clampBetween (min top upper) upper (window.caretLine - lines) = target at *
      have targetIsLine : target ≤ window.text.lastLine := by
        split at upperEq <;> omega
      rw [scrollView_eq (by omega)]
      have puts := (window.withView top window.view.left).putsOn_placeOnLine targetIsLine context.startOfLine
        context.pastEnd
      refine ⟨target, .ofPutsOn top puts (fun _ _ => ?_) (fun _ _ => ?_) fun _ _ => ?_⟩
      · split at upperEq <;> omega
      · split at upperEq <;> omega
      · omega

theorem scrollsTo_run (columns : 0 < window.view.width) (command : ScrollCommand) :
    ∃ line, window.ScrollsTo (command.run window context) context command line := by
  cases command with
  | lines down count => exact scrollsTo_scrollLines rows clearTop clearBottom columns down count
  | pages down count => exact scrollsTo_scrollPages rows clearTop clearBottom down count
  | halfPage down amount => exact scrollsTo_scrollHalfPage rows clearTop clearBottom down amount

end Commands

end Window

namespace ScrollCommand

theorem scrolls_run (command : ScrollCommand) (window : Window) (context : ScrollContext) :
    window.Scrolls (command.run window context) := by
  cases command with
  | lines down count => exact window.scrolls_scrollLines down count context
  | pages down count => exact window.scrolls_scrollPages down count context
  | halfPage down amount => exact window.scrolls_scrollHalfPage down amount context

/-- From a view that shows the caret, the first line that a scroll command chooses stays just if it is not so
near to the end of the text that no line is far enough from the top of the view, and the caret line is far
enough from its bottom. Going up, and by half a page, the first is always so. The second is so as long as line
numbers fit into 64 bits and the caret cannot come to stand behind a line break other than a line feed. -/
theorem keeps_top_iff (command : ScrollCommand) (window : Window) (context : ScrollContext)
    (rows : 0 < window.view.height) (settled : window.scrollToCaret context = window) :
    let scrolled := command.run window context
    let keeps := (scrolled.scrollToCaret context).view.top = scrolled.view.top
    (window.view.width = 0 → keeps) ∧
      (0 < window.view.width →
        (keeps ↔ scrolled.ClearOfTop context window.text.lastLine ∧
          scrolled.ClearOfBottom context scrolled.caretLine) ∧
        (command.goesToEnd = false → scrolled.ClearOfTop context window.text.lastLine) ∧
        (command.Fits window → context.pastEnd = false ∨ window.text.Plain →
          scrolled.ClearOfBottom context scrolled.caretLine)) := by
  intro scrolled keeps
  obtain ⟨height, width⟩ := (command.scrolls_run window context).extent
  have keepsIff : keeps ↔ scrolled.view.width = 0 ∨ scrolled.ClearOfTop context scrolled.caretLine ∧
      scrolled.ClearOfBottom context scrolled.caretLine :=
    Window.top_scrollToCaret_eq_iff context (height ▸ rows)
  refine ⟨fun noColumns => keepsIff.mpr (.inl (width.trans noColumns)), fun columns => ?_⟩
  have shown := (Window.top_scrollToCaret_eq_iff context rows).mp (congrArg (·.view.top) settled)
  obtain ⟨clearTop, clearBottom⟩ := shown.resolve_left (Nat.ne_of_gt columns)
  obtain ⟨line, goes⟩ := Window.scrollsTo_run rows clearTop clearBottom columns command
  have isLine : scrolled.caretLine ≤ window.text.lastLine := goes.text ▸ scrolled.text.lineOf_le_lastLine _
  -- The caret is on a line that is clear of the top if any line is, so the last one tells.
  have topIff : scrolled.ClearOfTop context scrolled.caretLine ↔
      scrolled.ClearOfTop context window.text.lastLine :=
    ⟨fun clear => clear.mono isLine, fun clear => (goes.top clear).mono goes.behind⟩
  rw [topIff] at keepsIff
  refine ⟨keepsIff.trans ⟨fun kept => ?_, .inr⟩, goes.start, fun fits resting => ?_⟩
  · exact kept.resolve_left fun none => Nat.ne_of_gt columns (width.symm.trans none)
  · exact (goes.here resting).symm ▸ goes.bottom fits

/-- A page further only the last two lines are left to be seen, but two lines are to be seen above the caret
line: the view goes back by one line. -/
theorem keeps_top_iff_lastPage :
    let window : Window :=
      { text := "a\nb\nc\nd\ne\nf\ng\nh".toList, carets := .single (.ofOffset 8),
        view := { top := 2, height := 6 } }
    let context : ScrollContext := { scrolloff := 2 }
    let scrolled := (pages true 1).run window context
    0 < window.view.height ∧ window.scrollToCaret context = window ∧ scrolled.view.top = 6 ∧
      ¬scrolled.ClearOfTop context window.text.lastLine ∧
        (scrolled.scrollToCaret context).view.top ≠ scrolled.view.top := by
  intro window context scrolled
  have rows : 0 < window.view.height := by decide
  have columns : 0 < window.view.width := by decide
  have settled : window.scrollToCaret context = window :=
    Window.scrollToCaret_of_stays context (by decide +kernel) (by decide +kernel)
  have near : ¬scrolled.ClearOfTop context window.text.lastLine := by decide +kernel
  obtain ⟨keepsIff, _⟩ := (keeps_top_iff (pages true 1) window context rows settled).2 columns
  rw [show (pages true 1).run window context = scrolled from rfl] at keepsIff
  exact ⟨rows, settled, by decide +kernel, near, fun keeps => near (keepsIff.mp keeps).1⟩

end ScrollCommand

end ModalEdit

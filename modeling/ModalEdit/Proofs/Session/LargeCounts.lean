import ModalEdit.Proofs.Edit.Operator
import ModalEdit.Proofs.Motion.Counting
import ModalEdit.Session.Handlers

/-!
Counts near the word size. Like motions, scroll commands, edits and operators on lines add the count to where they
start before they stop at an end. Each of them is given here for any addition: with the one of words it is the
command itself, with the one of all numbers it is what the command does as long as its sums fit.
-/

set_option autoImplicit false

namespace ModalEdit

open Number (maxCount wrapAdd wrapMul)

namespace Number

/-- Whether what is left of a number in a word still goes as far as a limit that the number itself reaches. -/
def Reaches (total limit : Nat) : Prop :=
  total ≤ maxCount ∨ limit ≤ total % (maxCount + 1)

instance (total limit : Nat) : Decidable (Reaches total limit) :=
  inferInstanceAs (Decidable (_ ∨ _))

variable {total limit : Nat}

theorem mod_word_of_le (fits : total ≤ maxCount) : total % (maxCount + 1) = total :=
  Nat.mod_eq_of_lt (Nat.lt_succ_of_le fits)

theorem min_mod_eq_iff (bounded : limit ≤ maxCount) :
    min (total % (maxCount + 1)) limit = min total limit ↔ Reaches total limit := by
  unfold Reaches
  by_cases fits : total ≤ maxCount
  · rw [mod_word_of_le fits]
    exact iff_of_true rfl (.inl fits)
  · generalize total % (maxCount + 1) = rest
    omega

theorem sub_mod_eq_iff (bounded : limit ≤ maxCount) :
    limit - total % (maxCount + 1) = limit - total ↔ Reaches total limit := by
  unfold Reaches
  by_cases fits : total ≤ maxCount
  · rw [mod_word_of_le fits]
    exact iff_of_true rfl (.inl fits)
  · generalize total % (maxCount + 1) = rest
    omega

end Number

namespace Window

variable {window : Window} {context : ScrollContext}

/-- The first line of the view after scrolling by lines with an addition. -/
def linesTop (add : Nat → Nat → Nat) (window : Window) (down : Bool) (count : Nat) : Nat :=
  if down then min (add window.view.top (max count 1)) window.text.lastLine
  else window.view.top - max count 1

/-- What scrolling by lines does to show a first line. -/
def scrollLinesTo (window : Window) (top : Nat) (context : ScrollContext) : Window × Movement :=
  if top = window.view.top then (window, .stayed false)
  else ((window.scrollView top window.view.left).moveCaretIntoView context, .moved)

theorem scrollLines_eq (down : Bool) (count : Nat) :
    window.scrollLines down count context =
      window.scrollLinesTo (window.linesTop wrapAdd down count) context :=
  rfl

/-- The lines that pages move the view by, with a multiplication. -/
def pagesStep (mul : Nat → Nat → Nat) (window : Window) (count : Nat) : Nat :=
  mul (max (window.view.height - 2) 1) (max count 1)

/-- The first line of the view after scrolling by pages, moved by so many lines with an addition. -/
def pagesTop (add : Nat → Nat → Nat) (window : Window) (down : Bool) (step : Nat) : Nat :=
  if down then min (add window.view.top step) (max (window.text.lastLine - 1) window.view.top)
  else window.view.top - step

/-- What scrolling by pages does to show a first line. -/
def scrollPagesTo (window : Window) (down : Bool) (top : Nat) (context : ScrollContext) :
    Window × Movement :=
  if window.view.height = 0 then (window, .stayed true)
  else
    let last := window.text.lastLine
    let off := edgeDistance context.scrolloff window.view.height
    let current := window.caretLine
    let target :=
      if down then max current (if top = 0 then 0 else min (top + off) last)
      else
        let bottom := top + window.view.height - 1
        min current (if last ≤ bottom then last else bottom - off)
    let scrolled := window.scrollView top window.view.left
    if target ≠ current then
      (scrolled.placeOnLine target context.startOfLine context.pastEnd, .moved)
    else if top ≠ window.view.top then (scrolled, .moved)
    else (scrolled, .stayed (current + 1 < last))

theorem scrollPages_eq (down : Bool) (count : Nat) :
    window.scrollPages down count context =
      window.scrollPagesTo down (window.pagesTop wrapAdd down (window.pagesStep wrapMul count)) context := by
  cases down <;> rfl

theorem top_scrollLinesTo {top : Nat} (isLine : top ≤ window.text.lastLine) :
    (window.scrollLinesTo top context).1.view.top = top := by
  unfold scrollLinesTo
  split
  · rename_i same
    exact same.symm
  · rw [view_moveCaretIntoView, scrollView_eq isLine]
    rfl

theorem top_scrollPagesTo (rows : 0 < window.view.height) {down : Bool} {top : Nat}
    (isLine : top ≤ window.text.lastLine) :
    (window.scrollPagesTo down top context).1.view.top = top := by
  unfold scrollPagesTo
  rw [if_neg (Nat.ne_of_gt rows), scrollView_eq isLine]
  dsimp only
  generalize (if down then _ else _) = target
  split
  · rw [view_placeOnLine]
    rfl
  · split <;> rfl

theorem scrollLines_eq_iff (sized : window.text.length ≤ maxCount) (down : Bool) (count : Nat) :
    window.scrollLines down count context =
        window.scrollLinesTo (window.linesTop (· + ·) down count) context ↔
      down = false ∨ Number.Reaches (window.view.top + max count 1) window.text.lastLine := by
  have bounded := Nat.le_trans window.text.lastLine_le_length sized
  rw [scrollLines_eq]
  cases down with
  | false => exact iff_of_true rfl (.inl rfl)
  | true =>
    have isLine (add : Nat → Nat → Nat) : window.linesTop add true count ≤ window.text.lastLine :=
      Nat.min_le_right _ _
    have sameTop : window.linesTop wrapAdd true count = window.linesTop (· + ·) true count ↔ _ :=
      Number.min_mod_eq_iff bounded
    rw [or_iff_right (Bool.noConfusion : true ≠ false), ← sameTop]
    constructor
    · intro same
      have tops : (window.scrollLinesTo _ context).1.view.top = (window.scrollLinesTo _ context).1.view.top :=
        congrArg (·.1.view.top) same
      rwa [top_scrollLinesTo (isLine _), top_scrollLinesTo (isLine _)] at tops
    · exact congrArg (window.scrollLinesTo · context)

/-- Whether scrolling by pages shows the line that it would show if its product and its sum had no bound. -/
def PagesReach (window : Window) (count : Nat) : (down : Bool) → Prop
  | true =>
    Number.Reaches (window.view.top + window.pagesStep (· * ·) count)
      (max (window.text.lastLine - 1) window.view.top)
  | false => Number.Reaches (window.pagesStep (· * ·) count) window.view.top

instance (window : Window) (count : Nat) (down : Bool) : Decidable (window.PagesReach count down) :=
  match down with
  | true => inferInstanceAs (Decidable (Number.Reaches _ _))
  | false => inferInstanceAs (Decidable (Number.Reaches _ _))

theorem pagesTop_eq_iff (sized : window.text.length ≤ maxCount) (inText : window.view.top ≤ window.text.lastLine)
    (down : Bool) (count : Nat) :
    window.pagesTop wrapAdd down (window.pagesStep wrapMul count) =
        window.pagesTop (· + ·) down (window.pagesStep (· * ·) count) ↔ window.PagesReach count down := by
  have bounded := Nat.le_trans window.text.lastLine_le_length sized
  cases down with
  | true =>
    have sum (step : Nat) :
        wrapAdd window.view.top (step % (maxCount + 1)) = (window.view.top + step) % (maxCount + 1) :=
      Nat.add_mod_mod _ _ _
    show min (wrapAdd _ (_ % _)) _ = min (_ + _) _ ↔ Number.Reaches _ _
    rw [sum]
    exact Number.min_mod_eq_iff (by omega)
  | false =>
    show _ - _ % _ = _ - _ ↔ Number.Reaches _ _
    exact Number.sub_mod_eq_iff (Nat.le_trans inText bounded)

theorem pagesTop_le (inText : window.view.top ≤ window.text.lastLine) (add : Nat → Nat → Nat) (down : Bool)
    (step : Nat) : window.pagesTop add down step ≤ window.text.lastLine := by
  unfold pagesTop
  split <;> omega

theorem scrollPages_eq_iff (sized : window.text.length ≤ maxCount) (rows : 0 < window.view.height)
    (inText : window.view.top ≤ window.text.lastLine) (down : Bool) (count : Nat) :
    window.scrollPages down count context =
        window.scrollPagesTo down (window.pagesTop (· + ·) down (window.pagesStep (· * ·) count)) context ↔
      window.PagesReach count down := by
  rw [scrollPages_eq, ← pagesTop_eq_iff sized inText]
  constructor
  · intro same
    have tops : (window.scrollPagesTo down _ context).1.view.top =
        (window.scrollPagesTo down _ context).1.view.top := congrArg (·.1.view.top) same
    rwa [top_scrollPagesTo rows (pagesTop_le inText _ _ _), top_scrollPagesTo rows (pagesTop_le inText _ _ _)] at tops
  · exact congrArg (window.scrollPagesTo down · context)

end Window

namespace Workspace

variable {space : Workspace} {count offset : Nat}

/-- Replacing characters of a line with an addition. -/
def replaceCharsBy (add : Nat → Nat → Nat) (space : Workspace) (c : Char) (count offset : Nat) :
    Option (Workspace × Nat) :=
  let count := max count 1
  let line := space.text.lineOf offset
  let stop := add offset count
  if space.text.lineEnd line < stop then none
  else if c = '\n' then
    let replaced := space.replace offset stop ['\n']
    some (replaced, replaced.text.lineStart (line + 1))
  else some (space.replace offset stop (List.replicate count c), stop - 1)

/-- Turning the case around with an addition. -/
def toggleCaseBy (add : Nat → Nat → Nat) (space : Workspace) (count offset : Nat) :
    Option (Workspace × Nat) :=
  let stop := space.text.lineEnd (space.text.lineOf offset)
  if stop ≤ offset then none
  else
    let last := min (add offset (max count 1)) stop
    let toggled := space.mapSpan (.chars offset last) Operator.toggleCase.mapCase
    some (toggled, toggled.text.clampCaret last false)

/-- Without a bound, a line that has not that many characters is left alone. A sum that does not fit seems to end
on the line again, unless what is left of it is still behind the end. -/
theorem replaceChars_eq_iff (sized : space.text.length ≤ maxCount) (c : Char) :
    space.replaceChars c count offset = space.replaceCharsBy (· + ·) c count offset ↔
      Number.Reaches (offset + max count 1) (space.text.lineEnd (space.text.lineOf offset) + 1) := by
  have bounded := Nat.le_trans (space.text.lineEnd_le (space.text.lineOf offset)) sized
  have atMost : wrapAdd offset (max count 1) ≤ offset + max count 1 := Nat.mod_le _ _
  unfold replaceChars replaceCharsBy
  dsimp only
  by_cases fits : offset + max count 1 ≤ maxCount
  · rw [Number.wrapAdd_of_le fits]
    exact iff_of_true rfl (.inl fits)
  · rw [Number.Reaches, or_iff_right fits]
    by_cases behind : space.text.lineEnd (space.text.lineOf offset) < wrapAdd offset (max count 1)
    · rw [if_pos behind, if_pos (Nat.lt_of_lt_of_le behind atMost)]
      exact iff_of_true rfl behind
    · rw [if_neg behind, if_pos (show _ < _ + _ by omega)]
      refine iff_of_false ?_ behind
      split <;> exact nofun

theorem length_mapSpan_chars (space : Workspace) {start : Nat} (stop : Nat) (f : Char → Char)
    (inside : start ≤ space.text.length) :
    (space.mapSpan (.chars start stop) f).text.length = space.text.length := by
  show (if _ then _ else _ : Workspace).text.length = _
  split
  · rfl
  · rw [text_replace]
    exact Document.length_replace_map _ _ _ f inside

/-- The case is turned around up to the end of the line. Where the sum does not fit, the caret does not get
there. -/
theorem toggleCase_eq_iff (sized : space.text.length ≤ maxCount) (small : count ≤ maxCount) :
    space.toggleCase count offset = space.toggleCaseBy (· + ·) count offset ↔
      space.text.lineEnd (space.text.lineOf offset) ≤ offset ∨ offset + max count 1 ≤ maxCount := by
  have inText := space.text.lineEnd_le (space.text.lineOf offset)
  unfold toggleCase toggleCaseBy
  dsimp only
  generalize space.text.lineEnd (space.text.lineOf offset) = stop at *
  by_cases atEnd : stop ≤ offset
  · rw [if_pos atEnd, if_pos atEnd]
    exact iff_of_true rfl (.inl atEnd)
  · rw [if_neg atEnd, if_neg atEnd, or_iff_right atEnd]
    by_cases fits : offset + max count 1 ≤ maxCount
    · rw [Number.wrapAdd_of_le fits]
      exact iff_of_true rfl fits
    · refine iff_of_false ?_ fits
      intro same
      have wraps := Number.wrapAdd_le (Nat.lt_of_not_le fits)
      have carets := congrArg Prod.snd (Option.some.inj same)
      dsimp only at carets
      rw [Nat.min_eq_right (show stop ≤ offset + max count 1 by omega), Document.clampCaret_eq_min] at carets
      have toggledLength := space.length_mapSpan_chars stop Operator.toggleCase.mapCase
        (show offset ≤ space.text.length by omega)
      have reached : stop - 1 ≤ Document.clampCaret _ stop false :=
        Document.sub_one_le_clampCaret (Nat.le_trans inText (Nat.le_of_eq toggledLength.symm)) false
      omega

end Workspace

namespace Editor

/-- What an operator on lines does at one caret with an addition, unless it has been on the line before. -/
def operateLineBy (add : Nat → Nat → Nat) (operator : Operator) (count : Nat) (register? : Option Char)
    (state : Editor × List Nat) (index : Nat) : Editor × List Nat :=
  let (editor, finished) := state
  let line := editor.text.lineOf (editor.carets.offsetAt index)
  if finished.contains line then (editor, finished)
  else
    let last := min (add line (count - 1)) editor.text.lastLine
    ((editor.applyAt index operator (.lines line last) register? 1).1, line :: finished)

/-- An operator on lines with an addition. -/
def operateLinesBy (add : Nat → Nat → Nat) (editor : Editor) (operator : Operator) (count : Nat)
    (register? : Option Char) : Outcome :=
  let count := max count 1
  if 1 < count ∧ editor.text.lineOf editor.window.caret = editor.text.lastLine then
    { editor with mode := .normal }.reject
  else
    let begun := editor.update (·.begin)
    let (applied, _) :=
      begun.carets.descending.foldl (operateLineBy add operator count register?) (begun, [])
    if operator = .change then (applied.startTyping .insert 1 false).done
    else ({ applied with mode := .normal }.update (·.commit)).done

theorem operateLines_eq (editor : Editor) (operator : Operator) (count : Nat) (register? : Option Char) :
    editor.operateLines operator count register? = editor.operateLinesBy wrapAdd operator count register? :=
  rfl

/-- Whether the sums that an operator on lines makes from caret to caret all fit into words. -/
def SumsFit (operator : Operator) (count : Nat) (register? : Option Char) :
    (indices : List Nat) → Editor × List Nat → Prop
  | [], _ => True
  | index :: rest, state =>
    state.1.text.lineOf (state.1.carets.offsetAt index) + (count - 1) ≤ maxCount ∧
      SumsFit operator count register? rest
        (operateLineBy (· + ·) operator count register? state index)

theorem foldl_operateLineBy {operator : Operator} {count : Nat} {register? : Option Char}
    {indices : List Nat} {state : Editor × List Nat}
    (fits : SumsFit operator count register? indices state) :
    indices.foldl (operateLineBy wrapAdd operator count register?) state =
      indices.foldl (operateLineBy (· + ·) operator count register?) state := by
  induction indices generalizing state with
  | nil => rfl
  | cons index rest ih =>
    have here : operateLineBy wrapAdd operator count register? state index =
        operateLineBy (· + ·) operator count register? state index := by
      unfold operateLineBy
      dsimp only
      rw [Number.wrapAdd_of_le fits.1]
    rw [List.foldl_cons, List.foldl_cons, here]
    exact ih fits.2

theorem operateLines_of_fits {editor : Editor} {operator : Operator} {count : Nat} {register? : Option Char}
    (fits : let begun := editor.update (·.begin)
      SumsFit operator (max count 1) register? begun.carets.descending (begun, [])) :
    editor.operateLines operator count register? =
      editor.operateLinesBy (· + ·) operator count register? := by
  rw [operateLines_eq]
  unfold operateLinesBy
  dsimp only
  rw [foldl_operateLineBy fits]

end Editor

namespace Session

variable {session : Session} {command : Command}

/-- The lines that a command with a count works on, with an addition. -/
def countedLinesBy (add : Nat → Nat → Nat) (session : Session) (command : Command) (count? : Option Nat) :
    Except SessionError (Nat × Nat) := do
  let (first, last) ← session.linesOf command.range?
  match count? with
  | none => return (first, last)
  | some count => return (last, min (add last (count - 1)) session.text.lastLine)

/-- Deleting or copying lines with an addition. -/
def runOnLinesBy (add : Nat → Nat → Nat) (session : Session) (operator : Operator) (command : Command) :
    Session × LineResult :=
  let (register?, count?) :=
    match command.arguments with
    | .registerCount register? count? => (register?, count?)
    | _ => (none, none)
  match session.countedLinesBy add command count? with
  | .error error => (session, .error error)
  | .ok (first, last) =>
    let (editor, applied) := applyToLines session.editor operator first last register?
    let report? :=
      Editor.reportOf? operator (.lines first last) (last - first + 1) applied
    let changed := { session with editor }
    (report?.elim changed changed.say, .ok none)

theorem runOnLines_eq (operator : Operator) :
    session.runOnLines operator command = session.runOnLinesBy wrapAdd operator command :=
  rfl

/-- Whether what is left in a word of the lines that a command counts still goes as far as the last line. -/
def CountReaches (session : Session) (command : Command) (count : Nat) : Prop :=
  ∀ first last, session.linesOf command.range? = .ok (first, last) →
    Number.Reaches (last + (count - 1)) session.text.lastLine

theorem countedLines_eq_iff (sized : session.text.length ≤ maxCount) (count : Nat) :
    session.countedLines command (some count) = session.countedLinesBy (· + ·) command (some count) ↔
      session.CountReaches command count := by
  have bounded := Nat.le_trans session.text.lastLine_le_length sized
  unfold countedLines countedLinesBy CountReaches
  cases session.linesOf command.range? with
  | error error => exact iff_of_true rfl nofun
  | ok lines =>
    obtain ⟨first, last⟩ := lines
    show Except.ok (last, min (wrapAdd _ _) _) = Except.ok (last, min (_ + _) _) ↔ _
    simp only [Except.ok.injEq, Prod.mk.injEq, true_and]
    refine (Number.min_mod_eq_iff bounded).trans ⟨?_, fun reaches => reaches first last ⟨rfl, rfl⟩⟩
    rintro reaches _ _ ⟨rfl, rfl⟩
    exact reaches

theorem runOnLines_of_reaches (sized : session.text.length ≤ maxCount) (operator : Operator)
    {register? : Option Char} {count : Nat}
    (counts : command.arguments = .registerCount register? (some count))
    (reaches : session.CountReaches command count) :
    session.runOnLines operator command = session.runOnLinesBy (· + ·) operator command := by
  have same : session.countedLinesBy wrapAdd command (some count) =
      session.countedLinesBy (· + ·) command (some count) :=
    (countedLines_eq_iff sized count).mpr reaches
  rw [runOnLines_eq]
  unfold runOnLinesBy
  rw [counts]
  dsimp only
  rw [same]

end Session

/-- A count of a word of 64 bits, however large. A motion lands where it would land if its sum had no bound just
where the sum fits, and as long as it fits, a smaller count does not land further behind. The motion to a line from
the bottom of the window makes a difference, not a sum. Scrolling by lines and pages shows what it would show just
where what is left of the sum and the product goes as far, and edits of characters on a line change what they would
change just where it does. Operators on lines do what they would do as long as their sums fit, and so do commands
that count lines where what is left of the sum reaches the last line. -/
theorem large_counts (count : Nat) (small : count ≤ maxCount) :
    (∀ (window : Window) (caret : Caret) (motion : Motion) (context : MotionContext),
      window.text.length ≤ maxCount → window.view.height ≤ maxCount →
      (∀ count? : Option Nat, count?.getD 1 = count →
        (motion.resolve window caret count? context =
            motion.resolveBy (· + ·) window caret count? context ↔
          ∀ course ∈ motion.course? window caret context,
            course.start + course.distance (max count 1) ≤ maxCount)) ∧
      ∀ course ∈ motion.course? window caret context, ∀ few : Nat, 0 < few → few ≤ count →
        course.start + course.distance count ≤ maxCount →
        ∃ near far, motion.resolve window caret (some few) context = some near ∧
          motion.resolve window caret (some count) context = some far ∧ near.offset ≤ far.offset) ∧
    (∀ (window : Window) (scrolloff : Nat),
      (window.bottomLine count scrolloff : Int) =
        let (top, bottom, off) := window.edges scrolloff
        let margin := if window.text.lastLine ≤ bottom then 0 else off
        max ((bottom : Int) - max (count - 1) margin) top) ∧
    (∀ (window : Window) (down : Bool) (context : ScrollContext), window.text.length ≤ maxCount →
      (window.scrollLines down count context =
          window.scrollLinesTo (window.linesTop (· + ·) down count) context ↔
        down = false ∨ Number.Reaches (window.view.top + max count 1) window.text.lastLine) ∧
      (0 < window.view.height → window.view.top ≤ window.text.lastLine →
        (window.scrollPages down count context =
            window.scrollPagesTo down (window.pagesTop (· + ·) down (window.pagesStep (· * ·) count))
              context ↔
          window.PagesReach count down))) ∧
    (∀ (space : Workspace) (c : Char) (offset : Nat), space.text.length ≤ maxCount →
      let stop := space.text.lineEnd (space.text.lineOf offset)
      (space.replaceChars c count offset = space.replaceCharsBy (· + ·) c count offset ↔
        Number.Reaches (offset + max count 1) (stop + 1)) ∧
      (space.toggleCase count offset = space.toggleCaseBy (· + ·) count offset ↔
        stop ≤ offset ∨ offset + max count 1 ≤ maxCount)) ∧
    (∀ (editor : Editor) (operator : Operator) (register? : Option Char),
      let begun := editor.update (·.begin)
      Editor.SumsFit operator (max count 1) register? begun.carets.descending (begun, []) →
      editor.operateLines operator count register? =
        editor.operateLinesBy (· + ·) operator count register?) ∧
    (∀ (session : Session) (operator : Operator) (command : Command) (register? : Option Char),
      session.text.length ≤ maxCount → command.arguments = .registerCount register? (some count) →
      (session.countedLines command (some count) =
          session.countedLinesBy (· + ·) command (some count) ↔
        session.CountReaches command count) ∧
      (session.CountReaches command count →
        session.runOnLines operator command = session.runOnLinesBy (· + ·) operator command)) := by
  refine ⟨?motions, fun window => window.cast_bottomLine count, ?scrolling, ?edits, ?operators, ?commands⟩
  case motions =>
    intro window caret motion context sized rows
    constructor
    · intro count? known
      have smallToo : ∀ given ∈ count?, given ≤ maxCount := by
        rintro given rfl
        rwa [← known] at small
      rw [← known]
      exact Motion.resolve_eq_iff sized rows smallToo
    · intro course goes few positive ordered fits
      have lands {count : Nat} (some : 0 < count) :
          motion.resolve window caret (.some count) context = .some (course.run wrapAdd count) := by
        rw [Motion.resolve_eq_resolveBy]
        unfold Motion.resolveBy
        rw [goes, Option.getD_some, Nat.max_eq_left some]
      refine ⟨_, _, lands positive, lands (Nat.lt_of_lt_of_le positive ordered), ?_⟩
      exact (Motion.sound_course? sized rows goes).run_mono ordered fits
  case scrolling =>
    intro window down context sized
    constructor
    · exact Window.scrollLines_eq_iff sized down count
    · exact fun rows inText => Window.scrollPages_eq_iff sized rows inText down count
  case edits =>
    intro space c offset sized
    exact ⟨Workspace.replaceChars_eq_iff sized c, Workspace.toggleCase_eq_iff sized small⟩
  case operators =>
    intro editor operator register? begun fits
    exact Editor.operateLines_of_fits fits
  case commands =>
    intro session operator command register? sized counts
    exact ⟨Session.countedLines_eq_iff sized count, Session.runOnLines_of_reaches sized operator counts⟩

/-- From the second character of a line, and from a view that begins with the second line, small counts fit and
the largest one does not. -/
theorem large_counts_fourLines :
    let window : Window :=
      { text := "abcd\nef\ngh\nij".toList, carets := .single (.ofOffset 1), view := { top := 1, height := 3 } }
    let editor : Editor := { window }
    let session := Session.ofWindow window
    let command : Command := ⟨none, .delete, false, .registerCount none (some 2)⟩
    let right (count : Nat) := Motion.right.resolve window (.ofOffset 1) (some count) {}
    let rightBy (count : Nat) := Motion.right.resolveBy (· + ·) window (.ofOffset 1) (some count) {}
    (right 2 = rightBy 2 ∧ right maxCount ≠ rightBy maxCount) ∧
      window.scrollLines true 2 {} = window.scrollLinesTo (window.linesTop (· + ·) true 2) {} ∧
      window.scrollPages true maxCount {} ≠
        window.scrollPagesTo true (window.pagesTop (· + ·) true (window.pagesStep (· * ·) maxCount)) {} ∧
      editor.replaceChars 'x' 2 1 = editor.replaceCharsBy (· + ·) 'x' 2 1 ∧
      editor.operateLines .delete 2 none = editor.operateLinesBy (· + ·) .delete 2 none ∧
      session.runOnLines .delete command = session.runOnLinesBy (· + ·) .delete command := by
  intro window editor session command right rightBy
  obtain ⟨motions, -, scrolling, edits, operators, commands⟩ := large_counts 2 (by decide)
  obtain ⟨largestMotions, -, largestScrolling, -⟩ := large_counts maxCount (Nat.le_refl _)
  have counted : session.linesOf none = .ok (0, 0) := by decide
  refine ⟨⟨?few, ?many⟩, ?lines, ?pages, ?edit, ?operator, ?command⟩
  case few =>
    apply ((motions window (.ofOffset 1) .right {} (by decide) (by decide)).1 (some 2) rfl).mpr
    rintro _ ⟨⟩
    decide
  case many =>
    intro same
    have rights := (largestMotions window (.ofOffset 1) .right {} (by decide) (by decide)).1
    exact absurd ((rights (some maxCount) rfl).mp same ⟨1, id, 3, upTo⟩ rfl) (by decide)
  case lines => exact (scrolling window true {} (by decide)).1.mpr (by decide)
  case pages =>
    intro same
    have pages := (largestScrolling window true {} (by decide)).2 (by decide) (by decide)
    exact absurd (pages.mp same) (by decide)
  case edit => exact (edits editor.toWorkspace 'x' 1 (by decide)).1.mpr (by decide)
  case operator => exact operators editor .delete none ⟨by decide, trivial⟩
  case command =>
    apply (commands session .delete command none (by decide) rfl).2
    intro first last known
    rw [counted] at known
    cases known
    decide

end ModalEdit

import ModalEdit.Proofs.Motion.WindowLines

/-!
Motions that go on by a count: they add it to the place or to the line that they start from, and stop at the end
of the line, of the text or of the view. What does not fit into a word starts again from zero, so that a count
that is too large leads back instead of to the end.
-/

set_option autoImplicit false

namespace ModalEdit

open Number (maxCount wrapAdd)

namespace Document

variable {text : Document} {place : Nat → Nat}

theorem lineStart_lt {first second : Nat} (before : first < second) (isLine : second ≤ text.lastLine) :
    text.lineStart first < text.lineStart second := by
  apply Nat.lt_of_le_of_ne (text.lineStart_mono (Nat.le_of_lt before))
  intro same
  have onFirst := lineOf_lineStart (Nat.le_trans (Nat.le_of_lt before) isLine)
  rw [same, lineOf_lineStart isLine] at onFirst
  omega

/-- A choice of a place on each line of a text. -/
def PlacesLines (text : Document) (place : Nat → Nat) : Prop :=
  ∀ line ≤ text.lastLine, text.lineStart line ≤ place line ∧ place line ≤ text.lineEnd line

theorem PlacesLines.mono (places : text.PlacesLines place) {near far : Nat} (ordered : near ≤ far)
    (isLine : far ≤ text.lastLine) : place near ≤ place far := by
  rcases Nat.eq_or_lt_of_le ordered with rfl | before
  · exact Nat.le_refl _
  · have nearEnd := (places near (Nat.le_trans ordered isLine)).2
    have farStart := (places far isLine).1
    have between := text.lineEnd_le_lineStart_of_lt before
    omega

/-- The end of a line can be the start of the next one, but not of the one behind that. -/
theorem PlacesLines.lt (places : text.PlacesLines place) {near far : Nat} (apart : near + 2 ≤ far)
    (isLine : far ≤ text.lastLine) : place near < place far := by
  have nearEnd := (places near (by omega)).2
  have farStart := (places far isLine).1
  have next : text.lineEnd near ≤ text.lineStart (near + 1) := text.lineEnd_le_lineStart_succ near
  have further : text.lineStart (near + 1) < text.lineStart far := lineStart_lt apart isLine
  omega

theorem placesLines_lineLimit (text : Document) (pastEnd : Bool) :
    text.PlacesLines (text.lineLimit · pastEnd) :=
  fun line _ => ⟨text.lineStart_le_lineLimit line pastEnd, text.lineLimit_le_lineEnd line pastEnd⟩

theorem placesLines_lineTarget (text : Document) (pastEnd : Bool) :
    text.PlacesLines (text.lineTarget · pastEnd) := by
  intro line _
  constructor
  · exact Nat.le_min.mpr ⟨Nat.le_add_right _ _, text.lineStart_le_lineLimit line pastEnd⟩
  · exact Nat.le_trans (Nat.min_le_right _ _) (text.lineLimit_le_lineEnd line pastEnd)

end Document

theorem Window.placesLines_columnPlace (window : Window) (pastEnd : Bool) (sticky : StickyColumn) :
    window.text.PlacesLines (window.columnPlace pastEnd sticky) := by
  intro line isLine
  obtain ⟨starts, within⟩ := window.columnPlace_between isLine pastEnd sticky
  exact ⟨starts, Nat.le_trans within (window.text.lineLimit_le_lineEnd line pastEnd)⟩

namespace Motion

/-- How a motion goes on by a count: what it starts from, what it adds for a count, where it stops, and where
it lands from there. -/
structure Course where
  start : Nat
  distance : Nat → Nat
  limit : Nat
  landing : Nat → Landing

/-- Where a course leads with an addition. -/
def Course.run (course : Course) (add : Nat → Nat → Nat) (count : Nat) : Landing :=
  course.landing (min (add course.start (course.distance count)) course.limit)

/-- The course of a motion that adds its count to a place or to a line; none where it cannot move. -/
def course? (window : Window) (caret : Caret) (motion : Motion) (context : MotionContext) :
    Option Course :=
  let text := window.text
  let offset := min caret.offset text.length
  let line := text.lineOf offset
  let pastEnd := context.pastEnd
  match motion with
  | .right =>
    let limit := text.lineLimit line (pastEnd || context.operator)
    if limit ≤ offset then none else some ⟨offset, id, limit, upTo⟩
  | .down =>
    if text.lastLine ≤ line then none
    else some ⟨line, id, text.lastLine, window.columnLanding pastEnd (window.keptColumn caret)⟩
  | .lineEnd =>
    some ⟨line, (· - 1), text.lastLine, fun last =>
      { offset := text.lineLimit last pastEnd, wise := .inclusive, sticky? := some .lineEnd }⟩
  | .windowTop =>
    let (top, bottom, off) := window.edges context.scrolloff
    some ⟨top, fun count => max (count - 1) (if top = 0 then 0 else off), bottom,
      (lineWise text · pastEnd)⟩
  | .nextLine =>
    if text.lastLine ≤ line then none
    else some ⟨line, id, text.lastLine, (lineWise text · pastEnd)⟩
  | .currentLine => some ⟨line, (· - 1), text.lastLine, (lineWise text · pastEnd)⟩
  | _ => none

/-- Where a motion takes a caret with an addition. -/
def resolveBy (add : Nat → Nat → Nat) (window : Window) (caret : Caret) (motion : Motion)
    (count? : Option Nat) (context : MotionContext) : Option Landing :=
  match motion.course? window caret context with
  | some course => some (course.run add (max (count?.getD 1) 1))
  | none => motion.resolve window caret count? context

variable {window : Window} {caret : Caret} {motion : Motion} {context : MotionContext}

theorem resolve_eq_resolveBy (count? : Option Nat) :
    motion.resolve window caret count? context = motion.resolveBy wrapAdd window caret count? context := by
  unfold resolveBy
  cases motion with
  | right =>
    unfold course? resolve
    dsimp only
    split <;> rfl
  | down =>
    unfold course? resolve Window.verticalTarget?
    dsimp only
    simp only [true_and, Bool.not_true, Bool.false_eq_true, false_and, or_false, ↓reduceIte]
    split <;> rfl
  | nextLine =>
    unfold course? resolve
    dsimp only
    split <;> rfl
  | _ => rfl

namespace Course

/-- What the courses of all motions have in common. The limit is so close to the start that a sum that does
not fit ends two places in front of it at least, and two lines further is further in the text. -/
structure Sound (course : Course) : Prop where
  limit_le : course.limit ≤ maxCount
  farther : ∀ {few many : Nat}, few ≤ many → course.distance few ≤ course.distance many
  behind : ∀ {count : Nat}, 0 < count → count ≤ maxCount →
    course.start + course.distance count < course.limit + maxCount
  mono : ∀ {near far : Nat}, near ≤ far → far ≤ course.limit →
    (course.landing near).offset ≤ (course.landing far).offset
  lt : ∀ {near far : Nat}, near + 2 ≤ far → far ≤ course.limit →
    (course.landing near).offset < (course.landing far).offset

variable {course : Course} {count : Nat}

theorem run_of_fits (fits : course.start + course.distance count ≤ maxCount) :
    course.run wrapAdd count = course.run (· + ·) count := by
  unfold run
  rw [Number.wrapAdd_of_le fits]

/-- A sum that does not fit lands in front of where it would have landed. -/
theorem Sound.run_lt (sound : course.Sound) (positive : 0 < count) (small : count ≤ maxCount)
    (large : maxCount < course.start + course.distance count) :
    (course.run wrapAdd count).offset < (course.run (· + ·) count).offset := by
  have behind := sound.behind positive small
  have wraps := Number.wrapAdd_le large
  have limit := sound.limit_le
  unfold run
  rw [Nat.min_eq_left (show wrapAdd course.start (course.distance count) ≤ course.limit by omega),
    Nat.min_eq_right (show course.limit ≤ course.start + course.distance count by omega)]
  exact sound.lt (by omega) (Nat.le_refl _)

theorem Sound.run_eq_iff (sound : course.Sound) (positive : 0 < count) (small : count ≤ maxCount) :
    course.run wrapAdd count = course.run (· + ·) count ↔
      course.start + course.distance count ≤ maxCount := by
  constructor
  · intro same
    by_contra large
    have falls := sound.run_lt positive small (Nat.lt_of_not_le large)
    rw [same] at falls
    exact Nat.lt_irrefl _ falls
  · exact run_of_fits

/-- As long as its sum fits, a larger count never lands further in front. -/
theorem Sound.run_mono (sound : course.Sound) {few many : Nat} (ordered : few ≤ many)
    (fits : course.start + course.distance many ≤ maxCount) :
    (course.run wrapAdd few).offset ≤ (course.run wrapAdd many).offset := by
  have farther := sound.farther ordered
  rw [run_of_fits fits, run_of_fits (show course.start + course.distance few ≤ maxCount by omega)]
  apply sound.mono
  · show min (_ + _) _ ≤ min (_ + _) _
    omega
  · exact Nat.min_le_right _ _

end Course

/-- A course over the lines of a text is sound. -/
theorem sound_of_lines {text : Document} {start limit : Nat} {distance : Nat → Nat}
    {landing : Nat → Landing} (isLine : limit ≤ text.lastLine) (sized : text.length ≤ maxCount)
    (places : text.PlacesLines fun line => (landing line).offset)
    (farther : ∀ {few many : Nat}, few ≤ many → distance few ≤ distance many)
    (behind : ∀ {count : Nat}, 0 < count → count ≤ maxCount → start + distance count < limit + maxCount) :
    Course.Sound ⟨start, distance, limit, landing⟩ := by
  refine ⟨?_, farther, behind, ?_, ?_⟩
  · exact Nat.le_trans isLine (Nat.le_trans text.lastLine_le_length sized)
  · intro near far ordered within
    exact places.mono ordered (Nat.le_trans within isLine)
  · intro near far apart within
    exact places.lt apart (Nat.le_trans within isLine)

theorem sound_course? (sized : window.text.length ≤ maxCount) (rows : window.view.height ≤ maxCount)
    {course : Course} (goes : motion.course? window caret context = some course) : course.Sound := by
  have isLine := window.text.lineOf_le_lastLine (min caret.offset window.text.length)
  have onLines := window.text.placesLines_lineTarget context.pastEnd
  unfold course? at goes
  dsimp only at goes
  cases motion with
  | right =>
    dsimp only at goes
    split at goes
    · cases goes
    · cases goes
      refine ⟨?_, fun ordered => ordered, ?_, fun ordered _ => ordered, ?_⟩
      · exact Nat.le_trans (window.text.lineLimit_le _ _) sized
      · intro count _ small
        show min caret.offset window.text.length + count < window.text.lineLimit _ _ + maxCount
        omega
      · intro near far apart _
        show near < far
        omega
  | down =>
    dsimp only at goes
    split at goes
    · cases goes
    · cases goes
      apply sound_of_lines (Nat.le_refl _) sized (window.placesLines_columnPlace _ _) id
      intro count _ small
      show _ + count < _
      omega
  | lineEnd =>
    cases goes
    apply sound_of_lines (Nat.le_refl _) sized (window.text.placesLines_lineLimit _)
    · exact fun ordered => Nat.sub_le_sub_right ordered 1
    · intro count positive small
      show _ + (count - 1) < _
      omega
  | windowTop =>
    cases goes
    apply sound_of_lines (Nat.min_le_right _ _) sized onLines
    · intro few many ordered
      show max (few - 1) _ ≤ max (many - 1) _
      omega
    · intro count positive small
      show min window.view.top _ + max (count - 1) _ < min window.view.bottom _ + maxCount
      unfold Window.edges View.bottom
      dsimp only
      split <;> omega
  | nextLine =>
    dsimp only at goes
    split at goes
    · cases goes
    · cases goes
      apply sound_of_lines (Nat.le_refl _) sized onLines id
      intro count _ small
      show _ + count < _
      omega
  | currentLine =>
    cases goes
    apply sound_of_lines (Nat.le_refl _) sized onLines
    · exact fun ordered => Nat.sub_le_sub_right ordered 1
    · intro count positive small
      show _ + (count - 1) < _
      omega
  | _ => cases goes

theorem resolve_eq_iff (sized : window.text.length ≤ maxCount) (rows : window.view.height ≤ maxCount)
    {count? : Option Nat} (small : ∀ count ∈ count?, count ≤ maxCount) :
    motion.resolve window caret count? context =
        motion.resolveBy (· + ·) window caret count? context ↔
      ∀ course ∈ motion.course? window caret context,
        course.start + course.distance (max (count?.getD 1) 1) ≤ maxCount := by
  have most : max (count?.getD 1) 1 ≤ maxCount := by
    cases count? with
    | none => decide
    | some count => exact Nat.max_le.mpr ⟨small count rfl, by decide⟩
  have some : 0 < max (count?.getD 1) 1 := Nat.le_max_right _ 1
  rw [resolve_eq_resolveBy]
  unfold resolveBy
  cases goes : motion.course? window caret context with
  | none => exact iff_of_true rfl nofun
  | some course =>
    have sound := sound_course? sized rows goes
    simp only [Option.mem_some_iff, Option.some.injEq, forall_eq']
    exact sound.run_eq_iff some most

end Motion

/-- The line so many lines from the bottom of the window is a difference of integers within the window. No count
is too large for it. -/
theorem Window.cast_bottomLine (window : Window) (count scrolloff : Nat) :
    (window.bottomLine count scrolloff : Int) =
      let (top, bottom, off) := window.edges scrolloff
      let margin := if window.text.lastLine ≤ bottom then 0 else off
      max ((bottom : Int) - max (count - 1) margin) top := by
  unfold bottomLine
  dsimp only
  rw [Int.max_def]
  split <;> split <;> omega

end ModalEdit

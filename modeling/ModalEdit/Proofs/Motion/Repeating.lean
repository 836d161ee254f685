import Mathlib.Logic.Function.Iterate
import ModalEdit.Proofs.Motion.Inclusive
import ModalEdit.Proofs.Motion.Steps

/-!
Motions with a count in texts in which only line feeds end lines: a count is as many steps without one. Each
motion computes its count in its own way. What they share is that one step and then `count` steps lead where
`count + 1` steps lead at once, and that a caret that one step cannot move is not moved by any number.
-/

set_option autoImplicit false

namespace ModalEdit

/-- The caret at a landing, with the column that it keeps from then on. -/
def Caret.landAt (caret : Caret) (landing : Landing) : Caret :=
  { caret with offset := landing.offset, sticky? := landing.sticky? }

namespace Motion

/-- The motions whose count is a number of steps. -/
inductive Repeats : Motion → Prop where
  | left : Repeats .left
  | right : Repeats .right
  | up : Repeats .up
  | down : Repeats .down
  | wordStart (kind : WordKind) : Repeats (.wordStart kind)
  | wordBack (kind : WordKind) : Repeats (.wordBack kind)
  | wordEnd (kind : WordKind) : Repeats (.wordEnd kind)
  | paragraphForward : Repeats .paragraphForward
  | paragraphBackward : Repeats .paragraphBackward
  | nextLine : Repeats .nextLine
  | previousLine : Repeats .previousLine

/-- The caret after a motion. One that leads nowhere leaves it. -/
def carry (window : Window) (context : MotionContext) (motion : Motion) (count? : Option Nat)
    (caret : Caret) : Caret :=
  (motion.resolve window caret count? context).elim caret caret.landAt

/-- Whether one step and then `count` steps lead where `count + 1` steps lead at once. -/
structure Unfolds (window : Window) (context : MotionContext) (motion : Motion) (count : Nat)
    (caret : Caret) : Prop where
  isNone_iff : motion.resolve window caret (some (count + 1)) context = none ↔
    motion.resolve window caret none context = none
  carry_eq : motion.carry window context (some (count + 1)) caret =
    motion.carry window context (some count) (motion.carry window context none caret)

variable {window : Window} {context : MotionContext} {motion : Motion} {count : Nat} {caret : Caret}

theorem Unfolds.of_none (one : motion.resolve window caret none context = none)
    (all : motion.resolve window caret (some (count + 1)) context = none)
    (others : motion.resolve window caret (some count) context = none) :
    Unfolds window context motion count caret where
  isNone_iff := iff_of_true all one
  carry_eq := by
    unfold carry
    rw [one, Option.elim_none, all, others]

/-- A motion that leads somewhere: from its first landing the other steps lead to the same place, or nowhere
if that is reached. -/
theorem Unfolds.of_some {first landing : Landing}
    (one : motion.resolve window caret none context = some first)
    (all : motion.resolve window caret (some (count + 1)) context = some landing)
    (others : motion.resolve window (caret.landAt first) (some count) context = some landing ∨
      motion.resolve window (caret.landAt first) (some count) context = none ∧ first = landing) :
    Unfolds window context motion count caret where
  isNone_iff := by
    rw [one, all]
    exact iff_of_false nofun nofun
  carry_eq := by
    unfold carry
    rw [one, all, Option.elim_some, Option.elim_some]
    rcases others with further | ⟨reached, rfl⟩
    · rw [further]
      rfl
    · rw [reached]
      rfl

/-- As many steps as the count says, from any caret. By induction on the count: the first step, and then as
many as are left from where it leads. -/
theorem carry_eq_iterate (count : Nat)
    (one : ∀ caret, motion.resolve window caret (some 1) context = motion.resolve window caret none context)
    (unfolds : ∀ steps caret, 0 < steps → steps ≤ count → Unfolds window context motion steps caret)
    (caret : Caret) :
    (motion.resolve window caret (some (count + 1)) context = none ↔
      motion.resolve window caret none context = none) ∧
    motion.carry window context (some (count + 1)) caret =
      (motion.carry window context none)^[count + 1] caret := by
  induction count generalizing caret with
  | zero =>
    unfold carry
    rw [one caret]
    exact ⟨.rfl, rfl⟩
  | succ count ih =>
    have unfold := unfolds (count + 1) caret (Nat.succ_pos count) (Nat.le_refl _)
    refine ⟨unfold.isNone_iff, unfold.carry_eq.trans ?_⟩
    rw [Function.iterate_succ_apply]
    have fewer (steps : Nat) (caret : Caret) (positive : 0 < steps) (within : steps ≤ count) :=
      unfolds steps caret positive (Nat.le_succ_of_le within)
    exact (ih fewer _).2

section Characters

variable {offset line : Nat} {count? : Option Nat}

theorem resolve_left (here : min caret.offset window.text.length = offset)
    (onLine : window.text.lineOf offset = line) :
    Motion.left.resolve window caret count? context =
      if offset = window.text.lineStart line then none
      else some (upTo (max (offset - max (count?.getD 1) 1) (window.text.lineStart line))) := by
  subst here onLine
  rfl

theorem unfolds_left (positive : 0 < count) (caret : Caret) :
    Unfolds window context .left count caret := by
  generalize here : min caret.offset window.text.length = offset
  generalize onLine : window.text.lineOf offset = line
  have starts := window.text.lineStart_lineOf_le offset
  rw [onLine] at starts
  by_cases atStart : offset = window.text.lineStart line
  · refine .of_none ?_ ?_ ?_ <;> rw [resolve_left here onLine, if_pos atStart]
  · have inside : offset - 1 ≤ window.text.length := by omega
    have one : Motion.left.resolve window caret none context = some (upTo (offset - 1)) := by
      rw [resolve_left here onLine, if_neg atStart, Option.getD_none, Nat.max_self,
        Nat.max_eq_left (by omega)]
    have sameLine : window.text.lineOf (offset - 1) = line := by
      rw [← onLine] at starts atStart ⊢
      exact Document.lineOf_eq_of_between (by omega) (Nat.sub_le _ _)
    refine .of_some one ((resolve_left here onLine).trans (if_neg atStart)) ?_
    have next : min (caret.landAt (upTo (offset - 1))).offset window.text.length = offset - 1 :=
      Nat.min_eq_left inside
    rw [resolve_left next sameLine, Option.getD_some, Option.getD_some]
    by_cases reached : offset - 1 = window.text.lineStart line
    · refine .inr ⟨if_pos reached, congrArg upTo ?_⟩
      omega
    · refine .inl ((if_neg reached).trans (congrArg (some ∘ upTo) ?_))
      omega

theorem resolve_right (here : min caret.offset window.text.length = offset)
    (onLine : window.text.lineOf offset = line) :
    Motion.right.resolve window caret count? context =
      if window.text.lineLimit line (context.pastEnd || context.operator) ≤ offset then none
      else some (upTo (min (Number.wrapAdd offset (max (count?.getD 1) 1))
        (window.text.lineLimit line (context.pastEnd || context.operator)))) := by
  subst here onLine
  rfl

theorem unfolds_right (plain : window.text.Plain) (positive : 0 < count)
    (small : count + 1 + window.text.length ≤ Number.maxCount) (caret : Caret) :
    Unfolds window context .right count caret := by
  generalize here : min caret.offset window.text.length = offset
  generalize onLine : window.text.lineOf offset = line
  have starts := window.text.lineStart_lineOf_le offset
  have ends := window.text.lineLimit_le_lineEnd line (context.pastEnd || context.operator)
  have within := window.text.lineLimit_le line (context.pastEnd || context.operator)
  by_cases atLimit : window.text.lineLimit line (context.pastEnd || context.operator) ≤ offset
  · refine .of_none ?_ ?_ ?_ <;> rw [resolve_right here onLine, if_pos atLimit]
  · generalize isLimit : window.text.lineLimit line (context.pastEnd || context.operator) = limit at *
    have one : Motion.right.resolve window caret none context = some (upTo (offset + 1)) := by
      rw [resolve_right here onLine, isLimit, if_neg atLimit, Option.getD_none, Nat.max_self,
        Number.wrapAdd_of_le (by omega), Nat.min_eq_left (by omega)]
    have sameLine : window.text.lineOf (offset + 1) = line := by
      have isLine := window.text.lineOf_le_lastLine offset
      rw [onLine] at starts isLine
      exact plain.lineOf_eq isLine (by omega) (by omega)
    have all : Motion.right.resolve window caret (some (count + 1)) context =
        some (upTo (min (offset + (count + 1)) limit)) := by
      rw [resolve_right here onLine, isLimit, if_neg atLimit, Option.getD_some,
        Nat.max_eq_left (Nat.le_add_left 1 count), Number.wrapAdd_of_le (by omega)]
    refine .of_some one all ?_
    have next : min (caret.landAt (upTo (offset + 1))).offset window.text.length = offset + 1 :=
      Nat.min_eq_left (show offset + 1 ≤ _ by omega)
    rw [resolve_right next sameLine, isLimit, Option.getD_some,
      Nat.max_eq_left positive, Number.wrapAdd_of_le (by omega)]
    by_cases reached : limit ≤ offset + 1
    · refine .inr ⟨if_pos reached, congrArg upTo ?_⟩
      omega
    · refine .inl ((if_neg reached).trans (congrArg (some ∘ upTo) ?_))
      omega

end Characters

section Lines

/-- Motions from line to line that land on the line that they count, in a column that they keep. -/
theorem Unfolds.of_lines {α : Type} {down : Bool} (column : Caret → α) (land : α → Nat → Landing)
    (resolves : ∀ (caret : Caret) count?, max (count?.getD 1) 1 + window.text.length ≤ Number.maxCount →
      motion.resolve window caret count? context =
        (lineAway? window.text.lastLine down
          (window.text.lineOf (min caret.offset window.text.length)) (max (count?.getD 1) 1)).map
            (land (column caret)))
    (lands : ∀ kept line, line ≤ window.text.lastLine →
      window.text.lineOf (min (land kept line).offset window.text.length) = line)
    (keeps : ∀ caret kept line, column (Caret.landAt caret (land kept line)) = kept)
    (positive : 0 < count) (small : count + 1 + window.text.length ≤ Number.maxCount) (caret : Caret) :
    Unfolds window context motion count caret := by
  have one := resolves caret none (by rw [Option.getD_none]; omega)
  have all := resolves caret (some (count + 1)) (by rw [Option.getD_some]; omega)
  have others (caret : Caret) := resolves caret (some count) (by rw [Option.getD_some]; omega)
  rw [Option.getD_none, Nat.max_self] at one
  rw [Option.getD_some, Nat.max_eq_left (Nat.le_add_left 1 count)] at all
  simp only [Option.getD_some, Nat.max_eq_left positive] at others
  have isLine := window.text.lineOf_le_lastLine (min caret.offset window.text.length)
  cases away : lineAway? window.text.lastLine down
      (window.text.lineOf (min caret.offset window.text.length)) 1 with
  | none =>
    rw [away] at one
    rw [lineAway?_eq_none away] at all
    refine .of_none one all ?_
    rw [others, lineAway?_eq_none away]
    rfl
  | some next =>
    obtain ⟨nextIsLine, further, goes, rest⟩ := lineAway?_succ isLine positive away
    rw [away] at one
    rw [goes] at all
    refine .of_some one all ?_
    have there : window.text.lineOf
        (min (caret.landAt (land (column caret) next)).offset window.text.length) = next :=
      lands (column caret) next nextIsLine
    rw [others, there, keeps]
    rcases rest with goesOn | ⟨reached, rfl⟩
    · rw [goesOn]
      exact .inl rfl
    · rw [reached]
      exact .inr ⟨rfl, rfl⟩

theorem unfolds_vertical (plain : window.text.Plain) (down : Bool)
    (resolves : ∀ (caret : Caret) count?, motion.resolve window caret count? context =
      window.verticalTarget? caret down (max (count?.getD 1) 1) context.pastEnd)
    (positive : 0 < count) (small : count + 1 + window.text.length ≤ Number.maxCount) (caret : Caret) :
    Unfolds window context motion count caret := by
  refine .of_lines window.keptColumn (window.columnLanding context.pastEnd)
    (fun caret count? small => (resolves caret count?).trans
      (window.verticalTarget?_eq down small context.pastEnd caret)) ?_ (fun _ _ _ => rfl) positive small caret
  intro sticky line isLine
  have within := window.columnPlace_le context.pastEnd sticky line
  exact (congrArg window.text.lineOf (Nat.min_eq_left within)).trans
    (window.lineOf_columnPlace plain isLine context.pastEnd sticky)

theorem unfolds_lineWise (plain : window.text.Plain) (down : Bool)
    (resolves : ∀ (caret : Caret) count?,
      max (count?.getD 1) 1 + window.text.length ≤ Number.maxCount →
        motion.resolve window caret count? context =
          (lineAway? window.text.lastLine down
            (window.text.lineOf (min caret.offset window.text.length)) (max (count?.getD 1) 1)).map
              (lineWise window.text · context.pastEnd))
    (positive : 0 < count) (small : count + 1 + window.text.length ≤ Number.maxCount) (caret : Caret) :
    Unfolds window context motion count caret := by
  refine .of_lines (fun _ => ()) (fun _ line => lineWise window.text line context.pastEnd) resolves ?_
    (fun _ _ _ => rfl) positive small caret
  intro _ line isLine
  have starts : window.text.lineStart line ≤ window.text.lineTarget line context.pastEnd :=
    Nat.le_min.mpr ⟨Nat.le_add_right _ _, window.text.lineStart_le_lineLimit line context.pastEnd⟩
  have ends : window.text.lineTarget line context.pastEnd ≤ window.text.lineEnd line :=
    Nat.le_trans (Nat.min_le_right _ _) (window.text.lineLimit_le_lineEnd line context.pastEnd)
  have within := Nat.le_trans ends (window.text.lineEnd_le line)
  exact (congrArg window.text.lineOf (Nat.min_eq_left within)).trans (plain.lineOf_eq isLine starts ends)

end Lines

section Words

/-- A count is at least one. -/
theorem exists_count (count? : Option Nat) : ∃ others, max (count?.getD 1) 1 = others + 1 :=
  Nat.exists_eq_add_one_of_ne_zero (Nat.ne_of_gt (Nat.le_max_right (count?.getD 1) 1))

/-- Motions that take a step from place to place, and never come back to the first. -/
theorem Unfolds.of_repeated (step : Nat → Nat) (land : Nat → Landing)
    (resolves : ∀ (caret : Caret) count?, motion.resolve window caret count? context =
      let offset := min caret.offset window.text.length
      let place := Number.repeated step (max (count?.getD 1) 1) offset
      if place = offset then none else some (land place))
    (landsAt : ∀ place, (land place).offset = place)
    (inside : ∀ place, place ≤ window.text.length → step place ≤ window.text.length)
    (leaves : ∀ count place, step place ≠ place → Number.repeated step count (step place) ≠ place)
    (positive : 0 < count) (caret : Caret) : Unfolds window context motion count caret := by
  have one := resolves caret none
  have all := resolves caret (some (count + 1))
  have others (caret : Caret) := resolves caret (some count)
  rw [Option.getD_none, Nat.max_self] at one
  rw [Option.getD_some, Nat.max_eq_left (Nat.le_add_left 1 count)] at all
  simp only [Option.getD_some, Nat.max_eq_left positive] at others
  dsimp only at one all
  rw [Number.repeated_succ] at one all
  have inText := Nat.min_le_right caret.offset window.text.length
  generalize here : min caret.offset window.text.length = offset at *
  rw [Number.repeated_zero] at one
  by_cases fixed : step offset = offset
  · have stays (count : Nat) := Number.repeated_of_fixed fixed count
    rw [if_pos fixed] at one
    rw [fixed, if_pos (stays count)] at all
    refine .of_none one all ?_
    rw [others, here, if_pos (stays count)]
  · rw [if_neg fixed] at one
    rw [if_neg (leaves count offset fixed)] at all
    refine .of_some one all ?_
    have there : min (caret.landAt (land (step offset))).offset window.text.length = step offset :=
      (congrArg (min · _) (landsAt _)).trans (Nat.min_eq_left (inside offset inText))
    rw [others, there]
    by_cases reached : Number.repeated step count (step offset) = step offset
    · exact .inr ⟨if_pos reached, congrArg land reached.symm⟩
    · exact .inl (if_neg reached)

theorem unfolds_wordBack (kind : WordKind) (positive : 0 < count) (caret : Caret) :
    Unfolds window context (.wordBack kind) count caret := by
  refine .of_repeated (kind.prevStart window.text) upTo (fun _ _ => rfl) (fun _ => rfl)
    (fun place inside => ?_) (fun count _ => Number.repeated_ne_of_le (kind.prevStart_le window.text) count)
    positive caret
  exact Nat.le_trans (kind.prevStart_le _ place) inside

theorem unfolds_wordEnd (kind : WordKind) (positive : 0 < count) (caret : Caret) :
    Unfolds window context (.wordEnd kind) count caret := by
  refine .of_repeated (kind.nextEnd window.text) (fun place => { offset := place, wise := .inclusive })
    (fun _ _ => rfl) (fun _ => rfl) (fun place inside => ?_) (fun count place moves => ?_) positive caret
  · rcases kind.nextEnd_spec window.text place with stays | ⟨_, c, found, _⟩
    · exact Nat.le_trans (Nat.le_of_eq stays) inside
    · exact Nat.le_of_lt (List.getElem?_eq_some_iff.mp found).1
  · have ahead := (kind.nextEnd_spec window.text place).resolve_left moves
    have further := kind.repeated_nextEnd window.text count (kind.nextEnd window.text place)
    rcases further with stays | further <;> omega

theorem unfolds_wordStart (kind : WordKind) (noOperator : context.operator = false) (positive : 0 < count)
    (caret : Caret) : Unfolds window context (.wordStart kind) count caret := by
  refine .of_repeated (window.text.wordStep kind context.pastEnd) upTo (fun caret count? => ?_) (fun _ => rfl)
    (fun place _ => window.text.wordStep_le kind context.pastEnd place)
    (fun count _ => window.text.repeated_wordStep_ne kind context.pastEnd count) positive caret
  obtain ⟨others, isCount⟩ := exists_count count?
  unfold resolve Window.wordTarget?
  dsimp only
  rw [noOperator, if_neg Bool.false_ne_true, Number.repeated_pair, isCount, ← Document.wordPlace_repeated]
  rfl

end Words

section Paragraphs

theorem unfolds_paragraphForward (plain : window.text.Plain) (noOperator : context.operator = false)
    (positive : 0 < count) (caret : Caret) : Unfolds window context .paragraphForward count caret := by
  refine .of_repeated (window.text.paragraphStep context.pastEnd) upTo (fun caret count? => ?_) (fun _ => rfl)
    (fun place _ => window.text.paragraphPlace_le context.pastEnd _)
    (fun count _ => Document.repeated_paragraphStep_ne plain context.pastEnd count) positive caret
  obtain ⟨others, isCount⟩ := exists_count count?
  have noLimit : (context.pastEnd || context.operator) = context.pastEnd := by
    rw [noOperator, Bool.or_false]
  unfold resolve
  dsimp only
  rw [isCount, Document.repeated_paragraphStep plain, noLimit]
  rfl

theorem unfolds_paragraphBackward (positive : 0 < count) (caret : Caret) :
    Unfolds window context .paragraphBackward count caret := by
  refine .of_repeated window.text.paragraphBack upTo (fun caret count? => ?_) (fun _ => rfl)
    (fun place _ => window.text.lineStart_le _)
    (fun count _ => Number.repeated_ne_of_le window.text.paragraphBack_le count) positive caret
  obtain ⟨others, isCount⟩ := exists_count count?
  generalize here : min caret.offset window.text.length = offset
  have stays : Number.repeated window.text.paragraphBack (others + 1) offset = offset ↔ offset = 0 := by
    rw [← window.text.paragraphBack_eq_iff]
    refine ⟨fun stays => Decidable.of_not_not fun moves => ?_,
      fun fixed => Number.repeated_of_fixed fixed _⟩
    rw [Number.repeated_succ] at stays
    exact Number.repeated_ne_of_le window.text.paragraphBack_le others moves stays
  unfold resolve
  dsimp only
  rw [isCount, here, if_congr stays rfl rfl, window.text.repeated_paragraphBack]

end Paragraphs

theorem Repeats.resolve_one (repeats : motion.Repeats) (caret : Caret) :
    motion.resolve window caret (some 1) context = motion.resolve window caret none context := by
  cases repeats <;> rfl

/-- One case for each motion. -/
theorem Repeats.unfolds (repeats : motion.Repeats) (plain : window.text.Plain)
    (noOperator : context.operator = false) (positive : 0 < count)
    (small : count + 1 + window.text.length ≤ Number.maxCount) (caret : Caret) :
    Unfolds window context motion count caret := by
  have within (caret : Caret) :
      window.text.lineOf (min caret.offset window.text.length) ≤ window.text.length :=
    Nat.le_trans (window.text.lineOf_le _) (Nat.min_le_right _ _)
  cases repeats with
  | left => exact unfolds_left positive caret
  | right => exact unfolds_right plain positive small caret
  | up => exact unfolds_vertical plain false (fun _ _ => rfl) positive small caret
  | down => exact unfolds_vertical plain true (fun _ _ => rfl) positive small caret
  | wordStart kind => exact unfolds_wordStart kind noOperator positive caret
  | wordBack kind => exact unfolds_wordBack kind positive caret
  | wordEnd kind => exact unfolds_wordEnd kind positive caret
  | paragraphForward => exact unfolds_paragraphForward plain noOperator positive caret
  | paragraphBackward => exact unfolds_paragraphBackward positive caret
  | nextLine =>
    refine unfolds_lineWise plain true (fun caret count? small => ?_) positive small caret
    have inText := within caret
    unfold resolve lineAway?
    dsimp only
    rw [Number.wrapAdd_of_le (by omega)]
    split <;> rfl
  | previousLine =>
    refine unfolds_lineWise plain false (fun caret count? _ => ?_) positive small caret
    unfold resolve lineAway?
    dsimp only
    split <;> rfl

/-- A count is a repetition: in a text in which only line feeds end lines, a motion with a count leads
nowhere just if one step does, and otherwise where as many steps lead, with the column that they keep. -/
theorem Repeats.resolve_count (repeats : motion.Repeats) (plain : window.text.Plain)
    (noOperator : context.operator = false) (positive : 0 < count)
    (small : count + window.text.length ≤ Number.maxCount) (caret : Caret) :
    (motion.resolve window caret (some count) context = none ↔
      motion.resolve window caret none context = none) ∧
    ∀ landing, motion.resolve window caret (some count) context = some landing →
      landing.offset = ((motion.carry window context none)^[count] caret).offset ∧
      landing.sticky? = ((motion.carry window context none)^[count] caret).sticky? := by
  obtain ⟨others, rfl⟩ := Nat.exists_eq_add_one_of_ne_zero (Nat.ne_of_gt positive)
  obtain ⟨isNone_iff, carried⟩ := carry_eq_iterate others repeats.resolve_one
    (fun steps caret first within => repeats.unfolds plain noOperator first (by omega) caret) caret
  refine ⟨isNone_iff, fun landing leads => ?_⟩
  rw [← carried, carry, leads]
  exact ⟨rfl, rfl⟩

/-- Five words further in a text of three words: the caret ends on the last character. -/
theorem Repeats.resolve_count_words :
    (Motion.wordStart .small).resolve { text := "ab cd\n\nef".toList } (.ofOffset 0) (some 5) {} =
        some (upTo 8) ∧
      (((Motion.wordStart .small).carry { text := "ab cd\n\nef".toList } {} none)^[5]
        (.ofOffset 0)).offset = 8 := by
  have plain : ({ text := "ab cd\n\nef".toList } : Window).text.Plain := by decide
  have leads : (Motion.wordStart .small).resolve { text := "ab cd\n\nef".toList } (.ofOffset 0) (some 5) {} =
      some (upTo 8) := by decide +kernel
  obtain ⟨offset, _⟩ :=
    (Repeats.resolve_count (.wordStart .small) plain rfl (by decide) (by decide) (.ofOffset 0)).2 _ leads
  exact ⟨leads, offset.symm⟩

end Motion

end ModalEdit

import Mathlib.Order.Bounds.Basic
import ModalEdit.Proofs.Document.Lines
import ModalEdit.Document.Word

/-!
The places where moves by word starts stop: the start of a run of characters that make up one word, and an
empty line. A move forward leads to the next of them, a move back to the one before, and so from a stop a move
forward and a move back lead to the stop again.

Forward the text is read character by character, and whether a place is a stop is told from the two
characters around it. That misses the empty lines behind breaks other than line feeds.
-/

set_option autoImplicit false

namespace ModalEdit

/-- Whether a place is the first behind another for which something holds, or `last` where there is none. -/
def IsNext (holds : Nat → Prop) (last place found : Nat) : Prop :=
  IsLeast {next | holds next ∧ place < next} found ∨ (∀ next, holds next → next ≤ place) ∧ found = last

/-- Whether a place is the last before another for which something holds, or the start where there is none. -/
def IsPrevious (holds : Nat → Prop) (place found : Nat) : Prop :=
  IsGreatest {before | holds before ∧ before < place} found ∨
    (∀ before, holds before → place ≤ before) ∧ found = 0

section Neighbours

variable {holds others : Nat → Prop} {last place found : Nat}

theorem IsNext.here (next : holds (place + 1)) : IsNext holds last place (place + 1) :=
  .inl ⟨⟨next, Nat.lt_succ_self place⟩, fun _ further => further.2⟩

theorem IsNext.further (no : ¬holds (place + 1)) (next : IsNext holds last (place + 1) found) :
    IsNext holds last place found := by
  have skips (other : Nat) (is : holds other) (behind : place < other) : place + 1 < other := by
    rcases Nat.lt_or_eq_of_le behind with further | rfl
    · exact further
    · exact absurd is no
  rcases next with ⟨⟨is, behind⟩, least⟩ | ⟨none, rfl⟩
  · refine .inl ⟨⟨is, Nat.lt_of_succ_lt behind⟩, ?_⟩
    intro other further
    exact least ⟨further.1, skips other further.1 further.2⟩
  · refine .inr ⟨fun other is => ?_, rfl⟩
    have before := none other is
    have notNext := skips other is
    omega

theorem IsNext.congr (same : ∀ other, place < other → (holds other ↔ others other))
    (next : IsNext holds last place found) : IsNext others last place found := by
  rcases next with ⟨⟨is, behind⟩, least⟩ | ⟨none, isLast⟩
  · refine .inl ⟨⟨(same found behind).mp is, behind⟩, ?_⟩
    intro other further
    exact least ⟨(same other further.2).mpr further.1, further.2⟩
  · refine .inr ⟨fun other is => Nat.not_lt.mp fun behind => ?_, isLast⟩
    exact Nat.not_lt.mpr (none other ((same other behind).mpr is)) behind

theorem IsPrevious.start (holds : Nat → Prop) : IsPrevious holds 0 0 :=
  .inr ⟨fun before _ => Nat.zero_le before, rfl⟩

theorem IsPrevious.here (is : holds place) : IsPrevious holds (place + 1) place :=
  .inl ⟨⟨is, Nat.lt_succ_self place⟩, fun _ earlier => Nat.le_of_lt_succ earlier.2⟩

/-- A place for which it does not hold is passed over. -/
theorem IsPrevious.further (no : ¬holds place) (previous : IsPrevious holds place found) :
    IsPrevious holds (place + 1) found := by
  have skips (other : Nat) (is : holds other) (behind : place ≤ other) : place + 1 ≤ other := by
    rcases Nat.lt_or_eq_of_le behind with further | rfl
    · exact further
    · exact absurd is no
  rcases previous with ⟨⟨is, before⟩, greatest⟩ | ⟨none, isStart⟩
  · refine .inl ⟨⟨is, Nat.lt_succ_of_lt before⟩, ?_⟩
    intro other earlier
    refine greatest ⟨earlier.1, Nat.not_le.mp fun behind => ?_⟩
    exact Nat.not_le.mpr earlier.2 (skips other earlier.1 behind)
  · exact .inr ⟨fun other is => skips other is (none other is), isStart⟩

/-- Where it does not hold for anything from a place on, it is the same to look back from further behind. -/
theorem IsPrevious.of_le {behind : Nat} (bounded : ∀ other, holds other → other < place)
    (ordered : place ≤ behind) (previous : IsPrevious holds place found) : IsPrevious holds behind found := by
  induction ordered with
  | refl => exact previous
  | @step between within ih => exact ih.further fun is => Nat.not_lt.mpr within (bounded between is)

/-- Back from the next place is the place itself. -/
theorem IsPrevious.eq_of_isNext {back : Nat} (is : holds place) (within : place < last)
    (next : IsNext holds last place found) (previous : IsPrevious holds found back) : back = place := by
  have behind : place < found := by
    rcases next with ⟨⟨_, behind⟩, _⟩ | ⟨_, rfl⟩
    · exact behind
    · exact within
  rcases previous with ⟨⟨isBack, before⟩, greatest⟩ | ⟨none, _⟩
  · refine Nat.le_antisymm (Nat.not_lt.mp fun further => ?_) (greatest ⟨is, behind⟩)
    -- A place between the two would be the next one.
    rcases next with ⟨_, least⟩ | ⟨isLast, _⟩
    · exact Nat.not_lt.mpr (least ⟨isBack, further⟩) before
    · exact Nat.not_lt.mpr (isLast back isBack) further
  · exact absurd behind (Nat.not_lt.mpr (none place is))

end Neighbours

namespace Document

variable {text : Document} {place : Nat} {c d : Char}

theorem exists_before (there : text[place + 1]? = some d) : ∃ c, text[place]? = some c := by
  have inside := (List.getElem?_eq_some_iff.mp there).1
  exact ⟨_, List.getElem?_eq_getElem (Nat.lt_of_succ_lt inside)⟩

/-- What holds of the character before a place, if there is one. -/
theorem forall_before_iff {holds : Char → Prop} (here : text[place]? = some c) :
    (∀ before e, place + 1 = before + 1 → text[before]? = some e → holds e) ↔ holds c := by
  constructor
  · exact fun all => all place c rfl here
  · intro isSo before e same found
    obtain rfl := Nat.succ.inj same
    rw [here] at found
    cases found
    exact isSo

end Document

namespace WordKind

variable {kind : WordKind} {text : Document} {place : Nat} {c d : Char}

/-- Whether a run of characters that make up one word starts at a place. -/
def StartsRun (kind : WordKind) (text : Document) (place : Nat) : Prop :=
  ∃ c, text[place]? = some c ∧ (kind.classOf c).isText = true ∧
    ∀ before d, place = before + 1 → text[before]? = some d → kind.classOf d ≠ kind.classOf c

/-- Where moves by word starts stop. -/
def IsStop (kind : WordKind) (text : Document) (place : Nat) : Prop :=
  kind.StartsRun text place ∨ text[place]? = some '\n' ∧ text.isEmptyLine (text.lineOf place) = true

section Classes

theorem classOf_eq_newline_iff : kind.classOf c = .newline ↔ c = '\n' := by
  unfold classOf
  constructor
  · intro newline
    by_cases same : c = '\n'
    · exact same
    · rw [if_neg same] at newline
      split at newline
      · cases newline
      · split at newline <;> cases newline
  · rintro rfl
    rfl

theorem not_isText_newline : ¬(kind.classOf '\n').isText = true := Bool.false_ne_true

theorem runLength_of_not_isText (gap : ¬(kind.classOf c).isText = true) (rest : List Char) :
    kind.runLength (c :: rest) = 0 :=
  if_neg gap

theorem gapToWord_of_isText (word : (kind.classOf c).isText = true) (rest : List Char) :
    kind.gapToWord (c :: rest) = 0 := by
  unfold gapToWord
  cases isClass : kind.classOf c with
  | keyword | punctuation => rfl
  | blank | newline =>
    rw [isClass] at word
    cases word

theorem gapToWord_of_not_isText (gap : ¬(kind.classOf c).isText = true) (rest : List Char) :
    kind.gapToWord (c :: rest) =
      if c = '\n' ∧ rest.head? = some '\n' then 1 else kind.gapToWord rest + 1 := by
  rw [gapToWord]
  cases isClass : kind.classOf c with
  | keyword | punctuation => exact absurd (congrArg WordClass.isText isClass) gap
  | blank =>
    have other : ¬(c = '\n' ∧ rest.head? = some '\n') := fun both =>
      nomatch isClass.symm.trans (classOf_eq_newline_iff.mpr both.1)
    rw [if_neg other]
    exact Nat.add_comm _ _
  | newline =>
    have newline := classOf_eq_newline_iff.mp isClass
    simp only [newline, true_and, Nat.add_comm 1]

end Classes

section Forward

/-- Whether a stop lies between two characters: a word begins with the second, or a line feed follows a line
feed. -/
def Opens (kind : WordKind) (c d : Char) : Prop :=
  (kind.classOf d).isText = true ∧ kind.classOf c ≠ kind.classOf d ∨ c = '\n' ∧ d = '\n'

instance (kind : WordKind) (c d : Char) : Decidable (kind.Opens c d) :=
  inferInstanceAs (Decidable (_ ∨ _))

/-- How far ahead a move forward leads in what is left of the text. -/
def leap (kind : WordKind) (rest : List Char) : Nat :=
  kind.runLength rest + kind.gapToWord (rest.drop (kind.runLength rest))

theorem nextStart_of_lt (inside : place < text.length) :
    kind.nextStart text place = place + kind.leap (text.drop place) := by
  rw [nextStart, if_neg (Nat.not_le.mpr inside), leap, Nat.add_assoc]

theorem leap_of_not_isText (gap : ¬(kind.classOf c).isText = true) (rest : List Char) :
    kind.leap (c :: rest) = kind.gapToWord (c :: rest) := by
  rw [leap, runLength_of_not_isText gap, Nat.zero_add, List.drop_zero]

theorem leap_singleton (kind : WordKind) (c : Char) : kind.leap [c] = 1 := by
  by_cases word : (kind.classOf c).isText = true
  · have run : kind.runLength [c] = 1 := if_pos word
    rw [leap, run]
    rfl
  · rw [leap_of_not_isText word, gapToWord_of_not_isText word, if_neg fun both => nomatch both.2]
    rfl

theorem opens_iff_of_isText (c : Char) (word : (kind.classOf d).isText = true) :
    kind.Opens c d ↔ kind.classOf c ≠ kind.classOf d := by
  unfold Opens
  rw [and_iff_right word]
  refine or_iff_left fun both => ?_
  rw [both.2] at word
  exact not_isText_newline word

theorem opens_iff_of_not_isText (c : Char) (gap : ¬(kind.classOf d).isText = true) :
    kind.Opens c d ↔ c = '\n' ∧ d = '\n' :=
  or_iff_right fun begins => gap begins.1

/-- A run ends before a character of another class. -/
theorem leap_of_isText (word : (kind.classOf c).isText = true) (differs : kind.classOf c ≠ kind.classOf d)
    (rest : List Char) : kind.leap (c :: d :: rest) = kind.gapToWord (d :: rest) + 1 := by
  have ends : ¬decide (kind.classOf d = kind.classOf c) = true := fun same =>
    differs (of_decide_eq_true same).symm
  have run : kind.runLength (c :: d :: rest) = 1 := by
    rw [runLength_cons, if_pos word, List.takeWhile_cons, if_neg ends]
    rfl
  rw [leap, run, List.drop_succ_cons, List.drop_zero, Nat.add_comm]

/-- Inside a run the next stop is the same from one character further. -/
theorem leap_of_same (word : (kind.classOf c).isText = true) (same : kind.classOf c = kind.classOf d)
    (rest : List Char) : kind.leap (c :: d :: rest) = kind.leap (d :: rest) + 1 := by
  have run : kind.runLength (c :: d :: rest) = kind.runLength (d :: rest) + 1 := by
    rw [runLength_cons, runLength_cons, ← same, if_pos word, if_pos word, List.takeWhile_cons,
      if_pos (decide_eq_true same.symm), List.length_cons]
    omega
  rw [leap, leap, run, List.drop_succ_cons]
  omega

/-- One character further the next stop is the same, unless a stop lies right there. -/
theorem leap_cons_cons (kind : WordKind) (c d : Char) (rest : List Char) :
    kind.leap (c :: d :: rest) = if kind.Opens c d then 1 else kind.leap (d :: rest) + 1 := by
  by_cases next : (kind.classOf d).isText = true
  · have opens := opens_iff_of_isText c next
    by_cases same : kind.classOf c = kind.classOf d
    · rw [if_neg fun differs => opens.mp differs same, leap_of_same (same ▸ next) same]
    · rw [if_pos (opens.mpr same)]
      by_cases word : (kind.classOf c).isText = true
      · rw [leap_of_isText word same, gapToWord_of_isText next]
      · rw [leap_of_not_isText word, gapToWord_of_not_isText word, gapToWord_of_isText next, ite_self]
  · have opens := opens_iff_of_not_isText c next
    rw [leap_of_not_isText next]
    by_cases word : (kind.classOf c).isText = true
    · have closed : ¬kind.Opens c d := fun both => by
        rw [(opens.mp both).1] at word
        exact not_isText_newline word
      rw [if_neg closed, leap_of_isText word fun same => next (same ▸ word)]
    · rw [leap_of_not_isText word, gapToWord_of_not_isText word]
      simp only [List.head?_cons, Option.some_inj, opens]

/-- Whether a stop lies between the two characters around a place. -/
def OpensAt (kind : WordKind) (text : Document) (place : Nat) : Prop :=
  ∃ before c d, place = before + 1 ∧ text[before]? = some c ∧ text[place]? = some d ∧ kind.Opens c d

theorem opensAt_succ_iff (first : text[place]? = some c) (second : text[place + 1]? = some d) :
    kind.OpensAt text (place + 1) ↔ kind.Opens c d := by
  constructor
  · rintro ⟨before, c', d', isNext, here, there, opens⟩
    obtain rfl := Nat.succ.inj isNext
    rw [first] at here
    rw [second] at there
    cases here
    cases there
    exact opens
  · exact fun opens => ⟨place, c, d, rfl, first, second, opens⟩

theorem OpensAt.lt_length (opens : kind.OpensAt text place) : place < text.length := by
  obtain ⟨_, _, _, _, _, here, _⟩ := opens
  exact (List.getElem?_eq_some_iff.mp here).1

/-- By induction on what is left of the text. -/
theorem isNext_leap (kind : WordKind) {rest : List Char} (left : text.drop place = rest)
    (nonempty : rest ≠ []) : IsNext (kind.OpensAt text) text.length place (place + kind.leap rest) := by
  induction rest generalizing place with
  | nil => exact absurd rfl nonempty
  | cons c rest ih =>
    have behind : text.drop (place + 1) = rest := by
      rw [← List.drop_drop, left]
      rfl
    have here : text[place]? = some c := by
      rw [← List.head?_drop, left]
      rfl
    cases rest with
    | nil =>
      have isLast : text.length = place + 1 := by
        have length := congrArg List.length left
        rw [List.length_drop, List.length_singleton] at length
        omega
      rw [leap_singleton]
      refine .inr ⟨fun other opens => ?_, isLast.symm⟩
      have inside := opens.lt_length
      omega
    | cons d rest =>
      have there : text[place + 1]? = some d := by
        rw [← List.head?_drop, behind]
        rfl
      have opensAt : kind.OpensAt text (place + 1) ↔ kind.Opens c d := opensAt_succ_iff here there
      rw [leap_cons_cons]
      by_cases opens : kind.Opens c d
      · rw [if_pos opens]
        exact .here (opensAt.mpr opens)
      · rw [if_neg opens, Nat.add_comm (kind.leap _), ← Nat.add_assoc]
        exact (ih behind (List.cons_ne_nil d rest)).further (mt opensAt.mp opens)

theorem isNext_nextStart (kind : WordKind) (text : Document) (place : Nat) :
    IsNext (kind.OpensAt text) text.length place (kind.nextStart text place) := by
  rcases Nat.lt_or_ge place text.length with inside | behind
  · rw [nextStart_of_lt inside]
    refine kind.isNext_leap rfl fun none => ?_
    have length := congrArg List.length none
    rw [List.length_drop, List.length_nil] at length
    omega
  · refine .inr ⟨fun other opens => ?_, kind.nextStart_of_le behind⟩
    exact Nat.le_trans (Nat.le_of_lt opens.lt_length) behind

theorem OpensAt.isStop (opens : kind.OpensAt text place) : kind.IsStop text place := by
  obtain ⟨before, c, d, rfl, here, there, ⟨word, differs⟩ | ⟨rfl, rfl⟩⟩ := opens
  · exact .inl ⟨d, there, word, (Document.forall_before_iff here).mpr differs⟩
  · refine .inr ⟨there, (Document.isEmptyLine_of_newline_iff there).mpr ?_⟩
    exact (Document.forall_before_iff here).mpr (Document.endsLine_newline _)

/-- Where only line feeds end lines, all stops behind the first character are found. -/
theorem opensAt_iff_isStop (plain : text.Plain) (positive : 0 < place) :
    kind.OpensAt text place ↔ kind.IsStop text place := by
  refine ⟨OpensAt.isStop, fun stop => ?_⟩
  obtain ⟨before, rfl⟩ := Nat.exists_eq_add_one_of_ne_zero (Nat.ne_of_gt positive)
  rcases stop with ⟨d, there, word, starts⟩ | ⟨there, empty⟩
  · obtain ⟨c, here⟩ := Document.exists_before there
    have differs := (Document.forall_before_iff here).mp starts
    exact (opensAt_succ_iff here there).mpr (.inl ⟨word, differs⟩)
  · obtain ⟨c, here⟩ := Document.exists_before there
    have ends := (Document.forall_before_iff here).mp ((Document.isEmptyLine_of_newline_iff there).mp empty)
    have newline := plain.eq_newline_of_endsLine (List.mem_of_getElem? here) ends
    exact (opensAt_succ_iff here there).mpr (.inr ⟨newline, rfl⟩)

end Forward

section Back

theorem IsStop.lt_length (stop : kind.IsStop text place) : place < text.length := by
  rcases stop with ⟨c, here, _⟩ | ⟨here, _⟩
  · exact (List.getElem?_eq_some_iff.mp here).1
  · exact (List.getElem?_eq_some_iff.mp here).1

theorem reverse_take_succ (here : text[place]? = some c) :
    (text.take (place + 1)).reverse = c :: (text.take place).reverse := by
  rw [List.take_add_one, here, Option.toList_some, List.reverse_append, List.reverse_singleton,
    List.singleton_append]

/-- No stop lies inside a run of characters of one class. -/
theorem not_isStop_succ (here : text[place]? = some c) (there : text[place + 1]? = some d)
    (word : (kind.classOf d).isText = true) (same : kind.classOf c = kind.classOf d) :
    ¬kind.IsStop text (place + 1) := by
  rintro (⟨e, found, _, starts⟩ | ⟨newline, _⟩)
  · rw [there] at found
    cases found
    exact (Document.forall_before_iff here).mp starts same
  · rw [there] at newline
    cases newline
    exact not_isText_newline word

/-- Back from a character of a word the first stop is where its run starts. By induction on the place of the
character. -/
theorem isPrevious_run (here : text[place]? = some c) (word : (kind.classOf c).isText = true) :
    IsPrevious (kind.IsStop text) (place + 1)
      ((text.take place).reverse.dropWhile (kind.classOf · = kind.classOf c)).length := by
  induction place generalizing c with
  | zero => exact .here (.inl ⟨c, here, word, fun _ _ isNext => nomatch isNext⟩)
  | succ place ih =>
    have inside := (List.getElem?_eq_some_iff.mp here).1
    obtain ⟨d, before⟩ := Document.exists_before here
    rw [reverse_take_succ before]
    by_cases same : kind.classOf d = kind.classOf c
    · rw [List.dropWhile_cons, if_pos (decide_eq_true same), ← same]
      exact (ih before (same ▸ word)).further (not_isStop_succ before here word same)
    · rw [List.dropWhile_cons, if_neg (mt of_decide_eq_true same), List.length_cons,
        List.length_reverse, List.length_take, Nat.min_eq_left (by omega)]
      exact .here (.inl ⟨c, here, word, (Document.forall_before_iff before).mpr same⟩)

theorem not_isStop_of_blank (here : text[place]? = some c) (blank : kind.classOf c = .blank) :
    ¬kind.IsStop text place := by
  rintro (⟨d, found, word, _⟩ | ⟨newline, _⟩)
  · rw [here] at found
    cases found
    rw [blank] at word
    cases word
  · rw [here] at newline
    cases newline
    cases blank

theorem isStop_of_newline_iff (newline : text[place]? = some '\n') :
    kind.IsStop text place ↔
      (text.take place).reverse.head?.all (Document.endsLine · (some '\n')) = true := by
  have empty : kind.IsStop text place ↔ text.isEmptyLine (text.lineOf place) = true := by
    constructor
    · rintro (⟨d, found, word, _⟩ | ⟨_, empty⟩)
      · rw [newline] at found
        cases found
        exact absurd word not_isText_newline
      · exact empty
    · exact fun empty => .inr ⟨newline, empty⟩
  rw [empty, Document.isEmptyLine_of_newline_iff newline]
  cases place with
  | zero => exact iff_of_true (fun _ _ isNext => nomatch isNext) rfl
  | succ place =>
    obtain ⟨d, before⟩ := Document.exists_before newline
    rw [reverse_take_succ before, List.head?_cons, Option.all_some]
    exact Document.forall_before_iff before

/-- By induction on the place: the character before it is passed over, or a stop. -/
theorem isPrevious_startBack (kind : WordKind) (inside : place ≤ text.length) :
    IsPrevious (kind.IsStop text) place (kind.startBack (text.take place).reverse) := by
  induction place with
  | zero => exact .start _
  | succ place ih =>
    have earlier := ih (Nat.le_of_succ_le inside)
    have here : text[place]? = some text[place] := List.getElem?_eq_getElem inside
    generalize text[place] = c at here
    rw [reverse_take_succ here, startBack]
    cases isClass : kind.classOf c with
    | keyword | punctuation =>
      have word : (kind.classOf c).isText = true := congrArg WordClass.isText isClass
      have run := isPrevious_run here word
      rwa [isClass] at run
    | blank => exact earlier.further (not_isStop_of_blank here isClass)
    | newline =>
      obtain rfl := classOf_eq_newline_iff.mp isClass
      have isStop : kind.IsStop text place ↔ _ := isStop_of_newline_iff here
      dsimp only
      split
      · rename_i empty
        rw [List.length_reverse, List.length_take, Nat.min_eq_left (by omega)]
        exact .here (isStop.mpr empty)
      · rename_i goesOn
        exact earlier.further (mt isStop.mp goesOn)

theorem isPrevious_prevStart (kind : WordKind) (text : Document) (place : Nat) :
    IsPrevious (kind.IsStop text) place (kind.prevStart text place) := by
  unfold prevStart
  rcases Nat.le_total place text.length with inside | behind
  · exact kind.isPrevious_startBack inside
  · have atEnd := kind.isPrevious_startBack (Nat.le_refl text.length)
    rw [List.take_of_length_le behind]
    rw [List.take_length] at atEnd
    exact atEnd.of_le (fun _ stop => stop.lt_length) behind

end Back

/-- In a text in which only line feeds end lines, a move forward leads to the next stop or to the end of the
text, a move back to the stop before or to the start of the text, and back from where a move forward leads
from a stop is the stop. -/
theorem nextStart_prevStart (plain : text.Plain) (kind : WordKind) :
    (∀ place, IsNext (kind.IsStop text) text.length place (kind.nextStart text place)) ∧
      (∀ place, IsPrevious (kind.IsStop text) place (kind.prevStart text place)) ∧
      ∀ place, kind.IsStop text place → kind.prevStart text (kind.nextStart text place) = place := by
  have forward (place : Nat) : IsNext (kind.IsStop text) text.length place (kind.nextStart text place) :=
    (kind.isNext_nextStart text place).congr fun other behind =>
      opensAt_iff_isStop plain (Nat.zero_lt_of_lt behind)
  refine ⟨forward, kind.isPrevious_prevStart text, fun place stop => ?_⟩
  exact (kind.isPrevious_prevStart text _).eq_of_isNext stop stop.lt_length (forward place)

/-- From an empty line to the word behind it, and back. -/
theorem nextStart_prevStart_emptyLine :
    let text : Document := "ab.\n\n c".toList
    text.Plain ∧ IsStop .small text 4 ∧ nextStart .small text 4 = 6 ∧
      prevStart .small text (nextStart .small text 4) = 4 := by
  intro text
  have plain : text.Plain := by decide
  have stop : IsStop .small text 4 := .inr ⟨by decide, by decide⟩
  have next : nextStart .small text 4 = 6 := by decide +kernel
  exact ⟨plain, stop, next, (nextStart_prevStart plain .small).2.2 4 stop⟩

end WordKind

end ModalEdit

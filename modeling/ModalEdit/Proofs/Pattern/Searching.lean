import ModalEdit.Proofs.Pattern.Literal

/-!
Searching for a text: the program that spells it out finds its leftmost occurrence. The threads at a
place are the matches begun so far, from left to right, and none of them comes to a step where
another one has been.
-/

set_option autoImplicit false

namespace ModalEdit.Pattern

variable {text : List Char} {subject : Array Char}

/-! ### Occurrences -/

/-- The first `count` characters of a text stand in the subject from a place on. -/
def AgreesAt (text : List Char) (subject : Array Char) (place count : Nat) : Prop :=
  ∀ i < count, subject[place + i]? = text[i]?

instance (place count : Nat) : Decidable (AgreesAt text subject place count) :=
  inferInstanceAs (Decidable (∀ i < count, subject[place + i]? = text[i]?))

/-- The text stands in the subject from a place on. -/
def OccursAt (text : List Char) (subject : Array Char) (place : Nat) : Prop :=
  AgreesAt text subject place text.length

theorem agreesAt_zero (place : Nat) : AgreesAt text subject place 0 := by
  intro i isBelow
  omega

theorem agreesAt_succ_iff (place count : Nat) :
    AgreesAt text subject place (count + 1) ↔
      AgreesAt text subject place count ∧ subject[place + count]? = text[count]? := by
  constructor
  · intro agrees
    exact ⟨fun i isBelow => agrees i (by omega), agrees count (by omega)⟩
  · intro agrees i isBelow
    by_cases isLast : i = count
    · rw [isLast]
      exact agrees.2
    · exact agrees.1 i (by omega)

/-- A match goes on behind a character if this is the one that comes next in the text. -/
theorem agreesAt_next_iff {place first : Nat} (notBefore : first ≤ place)
    (inside : place < subject.size) :
    AgreesAt text subject first (place + 1 - first) ↔
      AgreesAt text subject first (place - first) ∧ text[place - first]? = some subject[place] := by
  rw [Nat.sub_add_comm notBefore, agreesAt_succ_iff, Nat.add_sub_cancel' notBefore,
    Array.getElem?_eq_getElem inside, eq_comm (a := some _)]

theorem occursAt_iff (place : Nat) :
    OccursAt text subject place ↔ text <+: subject.toList.drop place := by
  rw [List.prefix_iff_getElem?]
  constructor
  · intro occurs i isBelow
    rw [List.getElem?_drop, Array.getElem?_toList, occurs i isBelow, List.getElem?_eq_getElem]
  · intro isPrefix i isBelow
    rw [← Array.getElem?_toList, ← List.getElem?_drop, isPrefix i isBelow,
      List.getElem?_eq_getElem]

theorem OccursAt.le_size {place : Nat} (occurs : OccursAt text subject place)
    (nonempty : text ≠ []) : place + text.length ≤ subject.size := by
  have positive := List.length_pos_iff.mpr nonempty
  have last := occurs (text.length - 1) (by omega)
  rw [List.getElem?_eq_getElem (by omega)] at last
  have inside := (Array.getElem?_eq_some_iff.mp last).1
  omega

/-- A text is part of another one behind a place if it occurs there or further right. -/
theorem isInfix_drop_iff (text : List Char) (subject : Array Char) (place : Nat) :
    text <:+: subject.toList.drop place ↔ ∃ first, place ≤ first ∧ OccursAt text subject first := by
  constructor
  · intro isInfix
    obtain ⟨before, behind, parts⟩ := isInfix
    refine ⟨place + before.length, by omega, ?_⟩
    rw [occursAt_iff, ← List.drop_drop, ← parts, List.append_assoc, List.drop_left]
    exact List.prefix_append _ _
  · intro occurs
    obtain ⟨first, notBefore, occurs⟩ := occurs
    rw [occursAt_iff] at occurs
    have isSuffix : subject.toList.drop first <:+ subject.toList.drop place := by
      rw [← Nat.add_sub_cancel' notBefore, ← List.drop_drop]
      exact List.drop_suffix _ _
    exact occurs.isInfix.trans isSuffix.isInfix

/-! ### Threads -/

/-- The thread of a match that starts at `first` and has come to a place. -/
def threadAt (text : List Char) (place first : Nat) : Thread :=
  ⟨(text.drop (place - first)).length, first⟩

/-- Where the matches start that have come to a place but not to their end, among those that start
from one place up to another. -/
def begun (text : List Char) (subject : Array Char) (start stop place : Nat) : List Nat :=
  (List.range' start (stop - start)).filter fun first =>
    place - first < text.length ∧ AgreesAt text subject first (place - first)

theorem mem_begun_iff (text : List Char) (subject : Array Char) (place : Nat) {start stop : Nat}
    (ordered : start ≤ stop) (first : Nat) :
    first ∈ begun text subject start stop place ↔
      (start ≤ first ∧ first < stop) ∧
        place - first < text.length ∧ AgreesAt text subject first (place - first) := by
  rw [begun, List.mem_filter, List.mem_range'_1, decide_eq_true_iff]
  have isEnd : start + (stop - start) = stop := by omega
  rw [isEnd]

theorem pairwise_begun (text : List Char) (subject : Array Char) (start stop place : Nat) :
    (begun text subject start stop place).Pairwise (· < ·) :=
  (List.pairwise_lt_range' (s := start) (n := stop - start)).filter _

/-- Behind a character that ends no occurrence, those matches go on that it belongs to. -/
theorem begun_next {start place : Nat} (inside : place < subject.size)
    (noEnd : ∀ first, start ≤ first → first + text.length = place + 1 →
      ¬ OccursAt text subject first) :
    begun text subject start (place + 1) (place + 1) =
      (begun text subject start (place + 1) place).filter fun first =>
        text[place - first]? = some subject[place] := by
  rw [begun, begun, List.filter_filter]
  apply List.filter_congr
  intro first isBetween
  rw [List.mem_range'_1] at isBetween
  rw [← Bool.decide_and, decide_eq_decide, agreesAt_next_iff (by omega) inside]
  constructor
  · intro goesOn
    exact ⟨goesOn.2.2, by omega, goesOn.2.1⟩
  · intro goesOn
    obtain ⟨isNext, unfinished, agrees⟩ := goesOn
    refine ⟨?_, agrees, isNext⟩
    by_cases ends : place + 1 - first = text.length
    · have occurs : OccursAt text subject first := by
        rw [OccursAt, ← ends, agreesAt_next_iff (by omega) inside]
        exact ⟨agrees, isNext⟩
      exact absurd occurs (noEnd first isBetween.1 (by omega))
    · omega

/-- The front holds exactly these threads, and no thread has come to a step from a bound on. -/
structure Front.Holds (front : Front) (threads : List Thread) (bound : Nat) : Prop where
  running : front.accepted? = .none
  threads : front.threads.toList = threads
  seen : ∀ number, front.seen.contains number = true → number < bound

theorem Front.Holds.none : Front.none.Holds [] 0 := by
  constructor
  · rfl
  · rfl
  · intro number isSeen
    simp [Front.none] at isSeen

theorem Front.Holds.mono {front : Front} {threads : List Thread} {bound larger : Nat}
    (holds : front.Holds threads bound) (grows : bound ≤ larger) : front.Holds threads larger :=
  ⟨holds.running, holds.threads,
    fun number isSeen => Nat.lt_of_lt_of_le (holds.seen number isSeen) grows⟩

theorem Front.Holds.isNew {front : Front} {threads : List Thread} {bound number : Nat}
    (holds : front.Holds threads bound) (above : bound ≤ number) :
    front.seen.contains number = false := by
  cases isSeen : front.seen.contains number with
  | false => rfl
  | true => exact absurd (holds.seen number isSeen) (Nat.not_lt.mpr above)

namespace Program

variable {program : Program} {front : Front} {threads : List Thread} {bound : Nat}

theorem enter_of_accepted {first : Nat} (ended : front.accepted? = some first) (program : Program)
    (subject : Array Char) (place other number : Nat) :
    program.enter subject place other number front = front := by
  rw [enter, ended]
  rfl

/-- A thread that comes to the last step ends its match. -/
theorem SpellsOut.enter_last (spells : program.SpellsOut text) (holds : front.Holds threads 0)
    (subject : Array Char) (place first : Nat) :
    (program.enter subject place first 0 front).accepted? = some first ∧
      (program.enter subject place first 0 front).threads.toList = threads := by
  have isLast : program.steps[0]? = some .accept := spells.steps [] List.nil_suffix
  simp only [enter, follow, holds.running, holds.isNew (Nat.le_refl 0), isLast,
    Option.isSome_none, Bool.false_eq_true, if_false]
  exact ⟨trivial, holds.threads⟩

/-- A thread that comes to another step waits there, if no thread has been so far up. -/
theorem SpellsOut.enter_waits (spells : program.SpellsOut text) {c : Char} {rest : List Char}
    (isRest : c :: rest <:+ text) (holds : front.Holds threads bound)
    (above : bound ≤ (c :: rest).length) (place first : Nat) :
    (program.enter subject place first (c :: rest).length front).Holds
      (threads ++ [⟨(c :: rest).length, first⟩]) ((c :: rest).length + 1) := by
  have takes : program.steps[(c :: rest).length]? = some (.take (.single c) rest.length) :=
    spells.steps (c :: rest) isRest
  simp only [enter, follow, holds.running, holds.isNew above, takes, Option.isSome_none,
    Bool.false_eq_true, if_false]
  constructor
  · rfl
  · show (front.threads.push _).toList = _
    rw [Array.toList_push, holds.threads]
  · intro number isSeen
    rw [Std.HashSet.contains_insert, Bool.or_eq_true] at isSeen
    rcases isSeen with isThis | isSeen
    · have same := eq_of_beq isThis
      omega
    · have isBelow := holds.seen number isSeen
      omega

/-- A thread goes on behind a character, if it waits for it. -/
def passOn (program : Program) (subject : Array Char) (place : Nat) (c : Char) (front : Front)
    (thread : Thread) : Front :=
  match program.steps[thread.step]? with
  | some (.take chars next) =>
    if chars.contains c then program.enter subject (place + 1) thread.first next front else front
  | _ => front

theorem advance_eq_foldl (place : Nat) (c : Char) (waiting : Array Thread) :
    program.advance subject place c waiting =
      waiting.toList.foldl (program.passOn subject place c) .none :=
  (Array.foldl_toList _).symm

theorem foldl_passOn_of_accepted {first : Nat} (ended : front.accepted? = some first) (place : Nat)
    (c : Char) (waiting : List Thread) :
    waiting.foldl (program.passOn subject place c) front = front := by
  induction waiting with
  | nil => rfl
  | cons thread rest ih =>
    have stays : program.passOn subject place c front thread = front := by
      unfold passOn
      split
      · split
        · exact enter_of_accepted ended program subject _ _ _
        · rfl
      · rfl
    rw [List.foldl_cons, stays, ih]

/-- The thread of a match that has not come to its end waits for the character behind what it has
matched. -/
theorem SpellsOut.passOn_threadAt (spells : program.SpellsOut text) {place first : Nat}
    (notBefore : first ≤ place) (unfinished : place - first < text.length) (c : Char)
    (front : Front) :
    program.passOn subject place c front (threadAt text place first) =
      if text[place - first]? = some c then
        program.enter subject (place + 1) first (text.drop (place + 1 - first)).length front
      else front := by
  have parts : text.drop (place - first) =
      text[place - first] :: text.drop (place + 1 - first) := by
    rw [Nat.sub_add_comm notBefore]
    exact List.drop_eq_getElem_cons unfinished
  have takes : program.steps[(threadAt text place first).step]? =
      some (.take (.single text[place - first]) (text.drop (place + 1 - first)).length) := by
    show program.steps[(text.drop (place - first)).length]? = _
    rw [spells.steps _ (List.drop_suffix _ _), parts]
    rfl
  rw [passOn, takes, List.getElem?_eq_getElem unfinished]
  simp only [CharSet.contains_single, beq_iff_eq, Option.some_inj, eq_comm (a := c)]
  rfl

/-- Threads that do not come to the end of their matches go on in their order. -/
theorem SpellsOut.foldl_passOn (spells : program.SpellsOut text) {place : Nat} {c : Char}
    (firsts : List Nat) (holds : front.Holds threads bound)
    (sorted : firsts.Pairwise (· < ·))
    (reached : ∀ first ∈ firsts, first ≤ place ∧ place - first < text.length)
    (above : ∀ first ∈ firsts, bound ≤ (text.drop (place + 1 - first)).length)
    (inside : bound ≤ text.length)
    (unfinished : ∀ first ∈ firsts, text[place - first]? = some c →
      place + 1 - first < text.length) :
    ((firsts.map (threadAt text place)).foldl (program.passOn subject place c) front).Holds
      (threads ++ (firsts.filter fun first => text[place - first]? = some c).map
        (threadAt text (place + 1))) text.length := by
  induction firsts generalizing front threads bound with
  | nil =>
    rw [List.filter_nil, List.map_nil, List.map_nil, List.append_nil]
    exact holds.mono inside
  | cons first rest ih =>
    obtain ⟨isLeast, sorted⟩ := List.pairwise_cons.mp sorted
    obtain ⟨⟨notBefore, begun⟩, reached⟩ := List.forall_mem_cons.mp reached
    obtain ⟨aboveFirst, above⟩ := List.forall_mem_cons.mp above
    obtain ⟨unfinishedFirst, unfinished⟩ := List.forall_mem_cons.mp unfinished
    rw [List.map_cons, List.foldl_cons, spells.passOn_threadAt notBefore begun]
    by_cases isNext : text[place - first]? = some c
    · have isBelow := unfinishedFirst isNext
      have parts := List.drop_eq_getElem_cons isBelow
      have waits : (program.enter subject (place + 1) first
          (text.drop (place + 1 - first)).length front).Holds
          (threads ++ [threadAt text (place + 1) first])
          ((text.drop (place + 1 - first)).length + 1) := by
        rw [threadAt]
        rw [parts] at aboveFirst ⊢
        exact spells.enter_waits (parts ▸ List.drop_suffix _ _) holds aboveFirst _ _
      simp only [List.filter_cons, isNext, decide_true, if_true, List.map_cons]
      rw [List.append_cons]
      apply ih waits sorted reached
      · intro later isLater
        have isRight := isLeast later isLater
        have notRight := (reached later isLater).1
        simp only [List.length_drop]
        omega
      · rw [List.length_drop]
        omega
      · exact unfinished
    · simp only [List.filter_cons, isNext, decide_false, Bool.false_eq_true, if_false]
      exact ih holds sorted reached above inside unfinished

/-- Behind a character that ends no occurrence, the threads are those of the matches that go on. -/
theorem SpellsOut.advance_running (spells : program.SpellsOut text) {start place : Nat}
    {waiting : Array Thread} (ordered : start ≤ place) (inside : place < subject.size)
    (isBegun : waiting.toList = (begun text subject start (place + 1) place).map (threadAt text place))
    (noEnd : ∀ first, start ≤ first → first + text.length = place + 1 →
      ¬ OccursAt text subject first) :
    (program.advance subject place subject[place] waiting).Holds
      ((begun text subject start (place + 1) (place + 1)).map (threadAt text (place + 1)))
      text.length := by
  have later : start ≤ place + 1 := by omega
  rw [advance_eq_foldl, isBegun, begun_next inside noEnd, ← List.nil_append (List.map _ _)]
  apply spells.foldl_passOn _ .none (pairwise_begun _ _ _ _ _)
  · intro first isBegun
    have within := (mem_begun_iff text subject place later first).mp isBegun
    omega
  · intro first _
    exact Nat.zero_le _
  · exact Nat.zero_le _
  · intro first isBegun isNext
    have goesOn : first ∈ begun text subject start (place + 1) (place + 1) := by
      rw [begun_next inside noEnd]
      exact List.mem_filter.mpr ⟨isBegun, decide_eq_true isNext⟩
    exact ((mem_begun_iff text subject (place + 1) later first).mp goesOn).2.1

/-- The occurrence that a character ends is that of the first thread, and ends all others. -/
theorem SpellsOut.advance_ended (spells : program.SpellsOut text) {start place first : Nat}
    {waiting : Array Thread} (ordered : start ≤ place) (inside : place < subject.size)
    (isBegun : waiting.toList = (begun text subject start (place + 1) place).map (threadAt text place))
    (nonempty : text ≠ []) (notBefore : start ≤ first) (ends : first + text.length = place + 1)
    (occurs : OccursAt text subject first) :
    (program.advance subject place subject[place] waiting).accepted? = some first ∧
      (program.advance subject place subject[place] waiting).threads.toList = [] := by
  have positive := List.length_pos_iff.mpr nonempty
  have later : start ≤ place + 1 := by omega
  have member (other : Nat) := mem_begun_iff text subject place later other
  have complete : place + 1 - first = text.length := by omega
  rw [OccursAt, ← complete, agreesAt_next_iff (by omega) inside] at occurs
  have isMember := (member first).mpr ⟨by omega, by omega, occurs.1⟩
  have isHead : ∃ rest, begun text subject start (place + 1) place = first :: rest := by
    have sorted := pairwise_begun text subject start (place + 1) place
    cases all : begun text subject start (place + 1) place with
    | nil =>
      rw [all] at isMember
      cases isMember
    | cons head rest =>
      rw [all] at isMember sorted
      have isBegun := (member head).mp (all ▸ List.mem_cons_self)
      rcases List.mem_cons.mp isMember with same | isLater
      · exact ⟨rest, by rw [same]⟩
      · have isRight := (List.pairwise_cons.mp sorted).1 first isLater
        omega
  obtain ⟨rest, all⟩ := isHead
  have nothingLeft : (text.drop (place + 1 - first)).length = 0 := by
    rw [List.length_drop]
    omega
  obtain ⟨accepted, threads⟩ := spells.enter_last Front.Holds.none subject (place + 1) first
  rw [advance_eq_foldl, isBegun, all, List.map_cons, List.foldl_cons,
    spells.passOn_threadAt (by omega) (by omega), if_pos occurs.2, nothingLeft,
    foldl_passOn_of_accepted accepted]
  exact ⟨accepted, threads⟩

/-! ### Searching -/

/-- The leftmost occurrence of a text that does not start before a place, or that there is none. -/
def IsLeftmost (text : List Char) (subject : Array Char) (start : Nat) : Option (Nat × Nat) → Prop
  | some (first, last) =>
    start ≤ first ∧ last = first + text.length ∧ OccursAt text subject first ∧
      ∀ other, start ≤ other → other < first → ¬ OccursAt text subject other
  | none => ∀ first, start ≤ first → ¬ OccursAt text subject first

/-- The search stops where a match has ended and no thread is left. -/
theorem searchFrom_of_ended {first place : Nat}
    (ended : (program.enter subject place place program.start front).accepted? = some first)
    (alone : (program.enter subject place place program.start front).threads.toList = []) :
    program.searchFrom subject place front none = some (first, place) := by
  have isEmpty : (program.enter subject place place program.start front).threads.isEmpty := by
    rw [← Array.isEmpty_toList, alone]
    rfl
  rw [searchFrom.eq_def]
  simp [ended, isEmpty]

/-- The thread that starts at a place comes behind those that have started before. -/
theorem SpellsOut.enter_start (spells : program.SpellsOut text) {start place : Nat}
    (ordered : start ≤ place) (nonempty : text ≠ [])
    (holds : front.Holds ((begun text subject start place place).map (threadAt text place))
      text.length) :
    (program.enter subject place place program.start front).Holds
      ((begun text subject start (place + 1) place).map (threadAt text place))
      (text.length + 1) := by
  have positive := List.length_pos_iff.mpr nonempty
  have oneMore : begun text subject start (place + 1) place =
      begun text subject start place place ++ [place] := by
    have isLast : place - place < text.length ∧ AgreesAt text subject place (place - place) := by
      rw [Nat.sub_self]
      exact ⟨positive, agreesAt_zero place⟩
    rw [begun, begun, Nat.sub_add_comm ordered, List.range'_1_concat, List.filter_append,
      Nat.add_sub_cancel' ordered]
    simp only [List.filter_cons, isLast, List.filter_nil]
    rfl
  have isStart : threadAt text place place = ⟨text.length, place⟩ := by
    rw [threadAt, Nat.sub_self, List.drop_zero]
  rw [oneMore, List.map_append, List.map_singleton, isStart, spells.start]
  match text, nonempty with
  | c :: rest, _ => exact spells.enter_waits List.suffix_rfl holds (Nat.le_refl _) place place

/-- The search goes on from place to place until an occurrence ends; the first one to end is the
leftmost one, as all are equally long. -/
theorem SpellsOut.searchFrom (spells : program.SpellsOut text) {start place : Nat}
    (ordered : start ≤ place) (inside : place ≤ subject.size)
    (holds : front.Holds ((begun text subject start place place).map (threadAt text place))
      text.length)
    (noneYet : ∀ first, start ≤ first → first < place → first + text.length ≤ place →
      ¬ OccursAt text subject first) :
    IsLeftmost text subject start (program.searchFrom subject place front none) := by
  by_cases isText : text = []
  · subst isText
    obtain ⟨ended, alone⟩ := spells.enter_last holds subject place place
    have isStart : program.start = 0 := spells.start
    have nothing : begun [] subject start place place = [] := by
      rw [begun, List.filter_eq_nil_iff]
      intro first _
      simp
    rw [← isStart] at ended alone
    rw [nothing] at alone
    rw [searchFrom_of_ended ended alone]
    refine ⟨ordered, rfl, agreesAt_zero place, ?_⟩
    intro other notBefore isLeft
    exact noneYet other notBefore isLeft (Nat.le_of_lt isLeft)
  · have positive := List.length_pos_iff.mpr isText
    generalize toGo : subject.size - place = count
    induction count generalizing place front with
    | zero =>
      have entered := spells.enter_start ordered isText holds
      have isEnd : ¬ place < subject.size := by omega
      rw [searchFrom.eq_def]
      simp only [Option.isNone_none, if_true, entered.running, isEnd, dite_false]
      intro first notBefore occurs
      have fits := occurs.le_size isText
      exact noneYet first notBefore (by omega) (by omega) occurs
    | succ count ih =>
      have entered := spells.enter_start ordered isText holds
      have isInside : place < subject.size := by omega
      rw [searchFrom.eq_def]
      simp only [Option.isNone_none, if_true, entered.running, isInside, dite_true,
        Option.isSome_none, Bool.and_false, Bool.false_eq_true, if_false]
      by_cases ends : ∃ first, start ≤ first ∧ first + text.length = place + 1 ∧
          OccursAt text subject first
      · obtain ⟨first, notBefore, ends, occurs⟩ := ends
        obtain ⟨ended, alone⟩ := spells.advance_ended ordered isInside entered.threads isText
          notBefore ends occurs
        have stays := enter_of_accepted ended program subject (place + 1) (place + 1) program.start
        rw [← stays] at ended alone
        rw [searchFrom_of_ended ended alone]
        refine ⟨notBefore, by rw [ends], occurs, ?_⟩
        intro other notBefore isLeft
        exact noneYet other notBefore (by omega) (by omega)
      · have noEnd (first : Nat) (notBefore : start ≤ first)
            (last : first + text.length = place + 1) : ¬ OccursAt text subject first := by
          intro occurs
          exact ends ⟨first, notBefore, last, occurs⟩
        apply ih (by omega) (by omega)
          (spells.advance_running ordered isInside entered.threads noEnd) _ (by omega)
        intro first notBefore _ last
        by_cases isLast : first + text.length = place + 1
        · exact noEnd first notBefore isLast
        · exact noneYet first notBefore (by omega) (by omega)

/-- The program of a text finds its leftmost occurrence from a place on. -/
theorem SpellsOut.search (spells : program.SpellsOut text) {place : Nat}
    (inside : place ≤ subject.size) :
    IsLeftmost text subject place (program.search subject place) := by
  have nothing : begun text subject place place place = [] := by
    rw [begun, Nat.sub_self]
    rfl
  apply spells.searchFrom (Nat.le_refl place) inside
  · rw [nothing]
    exact Front.Holds.none.mono (Nat.zero_le _)
  · intro first notBefore isLeft
    omega

end Program

end ModalEdit.Pattern

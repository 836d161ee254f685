/-!
Computations that ask questions and may get no answer. Such a computation has no result exactly where
it comes to a question without an answer, and only the answers to the questions that it comes to count.
One that asks itself has a result exactly where no chain of questions goes on forever.
-/

set_option autoImplicit false

namespace ModalEdit

namespace Asking

variable {Question Answer Inner Reply α β : Type}

/-- A computation and the questions that it asks, in order, up to the first that has no answer. -/
structure Asks (compute : (Question → Option Answer) → Option α)
    (asked : (Question → Option Answer) → List Question) : Prop where
  eq_none_iff : ∀ answer, compute answer = none ↔
    ∃ question ∈ asked answer, answer question = none
  congr : ∀ answer other, (∀ question ∈ asked answer, other question = answer question) →
    compute other = compute answer ∧ asked other = asked answer

namespace Asks

theorem pure (value : α) :
    Asks (fun _ : Question → Option Answer => some value) (fun _ => []) where
  eq_none_iff answer := by simp
  congr answer other _ := ⟨rfl, rfl⟩

theorem ask (question : Question) :
    Asks (fun answer : Question → Option Answer => answer question) (fun _ => [question]) where
  eq_none_iff answer := by simp
  congr answer other agree := ⟨agree question List.mem_cons_self, rfl⟩

/-- What has a result has had every question answered. -/
theorem answered {compute : (Question → Option Answer) → Option α}
    {asked : (Question → Option Answer) → List Question} (asks : Asks compute asked)
    {answer : Question → Option Answer} {value : α} (computed : compute answer = some value)
    {question : Question} (isAsked : question ∈ asked answer) :
    ∃ reply, answer question = some reply := by
  rw [← Option.ne_none_iff_exists']
  intro unanswered
  have isNone := (asks.eq_none_iff answer).mpr ⟨question, isAsked, unanswered⟩
  rw [computed] at isNone
  cases isNone

/-- A computation does not miss the answers to questions that it does not come to. -/
theorem restrict {compute : (Question → Option Answer) → Option α}
    {asked : (Question → Option Answer) → List Question} (asks : Asks compute asked)
    (answer : Question → Option Answer) : ∃ only : Question → Option Answer,
      compute only = compute answer ∧ ∀ question reply, only question = some reply →
        question ∈ asked answer ∧ answer question = some reply := by
  classical
  refine ⟨fun question => if question ∈ asked answer then answer question else none, ?_, ?_⟩
  · exact (asks.congr answer _ fun question isAsked => if_pos isAsked).1
  · intro question reply isReply
    dsimp only at isReply
    split at isReply
    · rename_i isAsked
      exact ⟨isAsked, isReply⟩
    · cases isReply

/-- A computation that goes on with the result of another asks its own questions behind those. -/
theorem bind {compute : (Question → Option Answer) → Option α}
    {next : α → (Question → Option Answer) → Option β}
    {asked : (Question → Option Answer) → List Question}
    {askedNext : α → (Question → Option Answer) → List Question} (first : Asks compute asked)
    (others : ∀ value, Asks (next value) (askedNext value)) :
    Asks (fun answer => (compute answer).bind fun value => next value answer)
      (fun answer => asked answer ++ (compute answer).elim [] fun value => askedNext value answer) where
  eq_none_iff answer := by
    cases result : compute answer with
    | none =>
      obtain ⟨question, member, unanswered⟩ := (first.eq_none_iff answer).mp result
      simp only [Option.bind_none, Option.elim_none, List.append_nil, true_iff]
      exact ⟨question, member, unanswered⟩
    | some value =>
      simp only [Option.bind_some, Option.elim_some, (others value).eq_none_iff answer,
        List.mem_append]
      constructor
      · rintro ⟨question, member, unanswered⟩
        exact ⟨question, Or.inr member, unanswered⟩
      · rintro ⟨question, before | member, unanswered⟩
        · obtain ⟨reply, answered⟩ := first.answered result before
          rw [unanswered] at answered
          cases answered
        · exact ⟨question, member, unanswered⟩
  congr answer other agree := by
    obtain ⟨sameResult, sameAsked⟩ := first.congr answer other fun question member =>
      agree question (List.mem_append_left _ member)
    simp only [sameResult, sameAsked]
    cases result : compute answer with
    | none => exact ⟨rfl, rfl⟩
    | some value =>
      obtain ⟨same, sameNext⟩ := (others value).congr answer other fun question member => by
        refine agree question (List.mem_append_right _ ?_)
        rw [result]
        exact member
      simp only [Option.bind_some, Option.elim_some, same, sameNext, and_self]

theorem map {compute : (Question → Option Answer) → Option α}
    {asked : (Question → Option Answer) → List Question} (asks : Asks compute asked)
    (f : α → β) : Asks (fun answer => (compute answer).map f) asked where
  eq_none_iff answer := by rw [Option.map_eq_none_iff, asks.eq_none_iff]
  congr answer other agree := by
    obtain ⟨same, sameAsked⟩ := asks.congr answer other agree
    exact ⟨congrArg (Option.map f) same, sameAsked⟩

/-- Where the answers are computed by asking further questions, those are asked in the end. -/
theorem comp {compute : (Inner → Option Reply) → Option α}
    {asked : (Inner → Option Reply) → List Inner}
    {reply : (Question → Option Answer) → Inner → Option Reply} {askedBy : Inner → List Question}
    (outer : Asks compute asked)
    (inner : ∀ question, Asks (fun answer => reply answer question) (fun _ => askedBy question)) :
    Asks (fun answer => compute (reply answer))
      (fun answer => (asked (reply answer)).flatMap askedBy) where
  eq_none_iff answer := by
    simp only [outer.eq_none_iff, (inner _).eq_none_iff, List.mem_flatMap]
    constructor
    · rintro ⟨asking, isAsked, question, member, unanswered⟩
      exact ⟨question, ⟨asking, isAsked, member⟩, unanswered⟩
    · rintro ⟨question, ⟨asking, isAsked, member⟩, unanswered⟩
      exact ⟨asking, isAsked, question, member, unanswered⟩
  congr answer other agree := by
    have sameReply : ∀ asking ∈ asked (reply answer), reply other asking = reply answer asking := by
      intro asking isAsked
      refine ((inner asking).congr answer other fun question member => ?_).1
      exact agree question (List.mem_flatMap.mpr ⟨asking, isAsked, member⟩)
    obtain ⟨same, sameAsked⟩ := outer.congr (reply answer) (reply other) sameReply
    exact ⟨same, congrArg (List.flatMap askedBy) sameAsked⟩

end Asks

section Recursion

/-- The answers of a computation that may ask itself so many levels deep. -/
def within (body : (Question → Option Answer) → Question → Option Answer) :
    Nat → Question → Option Answer
  | 0, _ => none
  | depth + 1, question => body (within body depth) question

/-- The answers of a computation that may ask itself as deeply as it likes. -/
noncomputable def settled (body : (Question → Option Answer) → Question → Option Answer)
    (question : Question) : Option Answer :=
  open Classical in
  if ends : ∃ depth, (within body depth question).isSome = true then
    within body ends.choose question
  else none

variable {body : (Question → Option Answer) → Question → Option Answer}
  {asked : Question → (Question → Option Answer) → List Question}
  (asks : ∀ question, Asks (fun answer => body answer question) (asked question))

include asks

/-- An answer stays the same however much deeper the computation may ask itself. -/
theorem within_succ {depth : Nat} {question : Question} {reply : Answer}
    (answered : within body depth question = some reply) :
    within body (depth + 1) question = some reply := by
  induction depth generalizing question reply with
  | zero => cases answered
  | succ depth ih =>
    have agree : ∀ later ∈ asked question (within body depth),
        within body (depth + 1) later = within body depth later := by
      intro later isAsked
      obtain ⟨reply, isReply⟩ := (asks question).answered answered isAsked
      rw [isReply, ih isReply]
    exact ((asks question).congr _ _ agree).1.trans answered

theorem within_le {depth deeper : Nat} (le : depth ≤ deeper) {question : Question} {reply : Answer}
    (answered : within body depth question = some reply) :
    within body deeper question = some reply := by
  induction le with
  | refl => exact answered
  | step _ ih => exact within_succ asks ih

theorem settled_of_within {depth : Nat} {question : Question} {reply : Answer}
    (answered : within body depth question = some reply) :
    settled body question = some reply := by
  have ends : ∃ depth, (within body depth question).isSome = true :=
    ⟨depth, Option.isSome_of_eq_some answered⟩
  unfold settled
  rw [dif_pos ends]
  obtain ⟨other, isOther⟩ := Option.isSome_iff_exists.mp ends.choose_spec
  rcases Nat.le_total depth ends.choose with le | le
  · exact within_le asks le answered
  · rw [isOther, ← within_le asks le isOther, answered]

theorem settled_eq_some_iff {question : Question} {reply : Answer} :
    settled body question = some reply ↔ ∃ depth, within body depth question = some reply := by
  constructor
  · intro isReply
    unfold settled at isReply
    split at isReply
    · exact ⟨_, isReply⟩
    · cases isReply
  · rintro ⟨depth, answered⟩
    exact settled_of_within asks answered

/-- A level that answers every question of a list that is answered at all. -/
theorem exists_level (questions : List Question)
    (ends : ∀ question ∈ questions, ∃ depth, (within body depth question).isSome = true) :
    ∃ depth, ∀ question ∈ questions, within body depth question = settled body question := by
  induction questions with
  | nil => exact ⟨0, nofun⟩
  | cons first rest ih =>
    obtain ⟨shallow, isSome⟩ := ends first List.mem_cons_self
    obtain ⟨deep, others⟩ := ih fun question member => ends question (List.mem_cons_of_mem first member)
    obtain ⟨reply, answered⟩ := Option.isSome_iff_exists.mp isSome
    refine ⟨max shallow deep, ?_⟩
    intro question member
    rcases List.mem_cons.mp member with rfl | member
    · rw [within_le asks (Nat.le_max_left ..) answered, settled_of_within asks answered]
    · obtain ⟨depth, isSome⟩ := ends question (List.mem_cons_of_mem first member)
      obtain ⟨reply, answered⟩ := Option.isSome_iff_exists.mp isSome
      have isSettled := settled_of_within asks answered
      rw [isSettled]
      exact within_le asks (Nat.le_max_right ..) ((others question member).trans isSettled)

section Outer

variable {compute : (Question → Option Answer) → Option α}
  {questions : (Question → Option Answer) → List Question} (outer : Asks compute questions)

include outer

/-- At a level that is deep enough for its result, another computation comes to the same questions as
without a bound. -/
theorem Asks.asked_within {depth : Nat} {value : α}
    (computed : compute (within body depth) = some value) :
    questions (settled body) = questions (within body depth) := by
  refine (outer.congr _ _ fun question isAsked => ?_).2
  obtain ⟨reply, isReply⟩ := outer.answered computed isAsked
  rw [isReply, settled_of_within asks isReply]

theorem Asks.answered_within {depth : Nat} {value : α}
    (computed : compute (within body depth) = some value) {question : Question}
    (isAsked : question ∈ questions (settled body)) :
    (within body depth question).isSome = true := by
  rw [outer.asked_within asks computed] at isAsked
  obtain ⟨reply, isReply⟩ := outer.answered computed isAsked
  exact Option.isSome_of_eq_some isReply

/-- Another computation that asks this one has a result at some level exactly where each of its questions
is answered at some level. -/
theorem Asks.ends_iff :
    (∃ depth, (compute (within body depth)).isSome = true) ↔
      ∀ question ∈ questions (settled body), ∃ depth, (within body depth question).isSome = true := by
  constructor
  · rintro ⟨depth, isSome⟩ question isAsked
    obtain ⟨value, computed⟩ := Option.isSome_iff_exists.mp isSome
    exact ⟨depth, outer.answered_within asks computed isAsked⟩
  · intro ends
    obtain ⟨depth, same⟩ := exists_level asks (questions (settled body)) ends
    refine ⟨depth, ?_⟩
    rw [(outer.congr (settled body) (within body depth) same).1, Option.isSome_iff_ne_none]
    intro isNone
    obtain ⟨question, isAsked, unanswered⟩ := (outer.eq_none_iff _).mp isNone
    obtain ⟨level, isSome⟩ := ends question isAsked
    obtain ⟨reply, answered⟩ := Option.isSome_iff_exists.mp isSome
    exact absurd (unanswered.symm.trans (settled_of_within asks answered)) nofun

/-- What another computation makes of this one stays the same at deeper levels. -/
theorem Asks.eq_of_le {depth deeper : Nat} (le : depth ≤ deeper) {value : α}
    (computed : compute (within body depth) = some value) :
    compute (within body deeper) = some value := by
  refine (outer.congr _ _ fun question isAsked => ?_).1.trans computed
  obtain ⟨reply, isReply⟩ := outer.answered computed isAsked
  rw [isReply, within_le asks le isReply]

end Outer

/-- A question has an answer at some level exactly where the questions that it leads to, and those that
they lead to, come to an end. -/
theorem exists_within_iff_acc {question : Question} :
    (∃ depth, (within body depth question).isSome = true) ↔
      Acc (fun later earlier => later ∈ asked earlier (settled body)) question := by
  constructor
  · rintro ⟨depth, isSome⟩
    induction depth generalizing question with
    | zero => cases isSome
    | succ depth ih =>
      obtain ⟨reply, answered⟩ := Option.isSome_iff_exists.mp isSome
      constructor
      intro later isAsked
      exact ih ((asks question).answered_within asks answered isAsked)
  · intro accessible
    induction accessible with
    | intro question _ ih =>
      obtain ⟨depth, isSome⟩ := ((asks question).ends_iff asks).mpr ih
      exact ⟨depth + 1, isSome⟩

end Recursion

end Asking

end ModalEdit

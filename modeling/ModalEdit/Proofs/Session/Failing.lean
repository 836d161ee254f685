import ModalEdit.Proofs.Session.Strokes
import ModalEdit.Session.Run

/-!
Lines that fail while keys are used. The keys that wait are dropped then. Those of a mapping that are used
without looking at mappings again do not wait: they go on to the last.
-/

set_option autoImplicit false

namespace ModalEdit

/-- A stroke whose key no mapping starts with, where it reaches the editor. -/
def Stroke.Plain (stroke : Stroke) : Prop :=
  stroke.session.mappings.Plain stroke.session.editor.mapModes stroke.key

instance (stroke : Stroke) : Decidable stroke.Plain :=
  inferInstanceAs (Decidable (∀ mapping ∈ stroke.session.mappings.within stroke.session.editor.mapModes,
    mapping.lhs.head? ≠ some stroke.key))

/-- A stroke that ends a command line that fails. -/
def Stroke.Fails (press : KeyRunner) (stroke : Stroke) : Prop :=
  ∃ left, stroke.answer press = some (left, .failed)

instance (press : KeyRunner) (stroke : Stroke) : Decidable (stroke.Fails press) :=
  decidable_of_iff ((stroke.answer press).any (·.2 = .failed) = true) <| by
    rw [Option.any_eq_true]
    constructor
    · rintro ⟨⟨left, result⟩, answered, failed⟩
      obtain rfl : result = .failed := of_decide_eq_true failed
      exact ⟨left, answered⟩
    · rintro ⟨left, answered⟩
      exact ⟨(left, .failed), answered, rfl⟩

namespace Session

section Runs

variable {press : KeyRunner} {session after : Session} {result answer : KeyResult} {failed ended : Bool}

/-- A command that has failed is not forgotten. -/
theorem pressAll_failed {keys : List Key}
    (pressed : pressAll press keys session result true = some (after, answer, ended)) :
    ended = true := by
  induction keys generalizing session result with
  | nil =>
    cases pressed
    rfl
  | cons key rest ih =>
    obtain ⟨⟨middle, others⟩, _, pressed⟩ := Option.bind_eq_some_iff.mp pressed
    exact ih pressed

/-- Keys that are all used make one stroke each. -/
theorem map_key_strokes {keys : List Key}
    (pressed : pressAll press keys session result failed = some (after, answer, ended)) :
    (strokes press keys session).map Stroke.key = keys := by
  induction keys generalizing session result failed with
  | nil => rfl
  | cons key rest ih =>
    obtain ⟨⟨middle, others⟩, taken, pressed⟩ := Option.bind_eq_some_iff.mp pressed
    rw [strokes, taken]
    exact congrArg (key :: ·) (ih pressed)

/-- The keys behind a stroke are used in what it leaves. -/
theorem pressAll_behind {keys : List Key} {before behind : List Stroke} {stroke : Stroke}
    {left : Session} (pressed : pressAll press keys session result failed = some (after, answer, ended))
    (made : strokes press keys session = before ++ stroke :: behind)
    (fails : stroke.answer press = some (left, .failed)) :
    pressAll press (behind.map Stroke.key) left .failed true = some (after, answer, ended) := by
  induction keys generalizing session result failed before with
  | nil => exact absurd made (by simp [strokes])
  | cons key rest ih =>
    obtain ⟨⟨middle, others⟩, taken, pressed⟩ := Option.bind_eq_some_iff.mp pressed
    rw [strokes, taken, Option.elim_some] at made
    dsimp only at pressed made
    cases before with
    | nil =>
      obtain ⟨rfl, rfl⟩ := List.cons.inj made
      obtain ⟨rfl, rfl⟩ := Prod.mk.inj (Option.some.inj (taken.symm.trans fails))
      rw [map_key_strokes pressed]
      simpa using pressed
    | cons first before => exact ih pressed (List.cons.inj made).2

/-- Keys that wait are dropped when a stroke fails. The strokes of its round go on. -/
theorem drain_failing {flush : Bool} {expansions : Nat} {keys waiting : List Key}
    {earlier later : List Round} {before behind : Round} {stroke : Stroke} {left : Session}
    (drained : drain press flush expansions keys session result = some (after, waiting, answer))
    (made : rounds press flush expansions keys session result =
      earlier ++ (before ++ stroke :: behind) :: later)
    (fails : stroke.answer press = some (left, .failed)) :
    later = [] ∧ waiting = [] ∧
      pressAll press (behind.map Stroke.key) left .failed true = some (after, answer, true) ∧
        (behind = [] ∨ ∃ begun : Session,
          ∃ mapping ∈ begun.mappings.within begun.editor.mapModes,
            (before ++ stroke :: behind).map Stroke.key = mapping.unmapped) := by
  induction expansions, keys, session, result using drain_induction flush generalizing earlier with
  | empty expansions session result =>
    rw [rounds_nil] at made
    exact absurd made (by simp)
  | wait expansions key rest session result waits =>
    rw [rounds_wait waits] at made
    exact absurd made (by simp)
  | raw expansions key rest session result isRaw ih =>
    rw [drain_raw isRaw] at drained
    obtain ⟨⟨middle, others⟩, taken, drained⟩ := Option.bind_eq_some_iff.mp drained
    rw [rounds_raw isRaw, taken, Option.elim_some] at made
    dsimp only at drained made
    cases earlier with
    | nil =>
      obtain ⟨alone, rest⟩ := List.cons.inj made
      obtain ⟨rfl, same⟩ | ⟨_, nothing⟩ := List.append_eq_singleton_iff.mp alone.symm
      case inr => cases nothing
      obtain ⟨rfl, rfl⟩ := List.cons.inj same
      obtain ⟨rfl, rfl⟩ := Prod.mk.inj (Option.some.inj (taken.symm.trans fails))
      rw [if_pos rfl] at drained rest
      cases drained
      exact ⟨rest.symm, rfl, rfl, Or.inl rfl⟩
    | cons first earlier =>
      have made := (List.cons.inj made).2
      by_cases failed : others = .failed
      · rw [if_pos failed] at made
        exact absurd made (by simp)
      · rw [if_neg failed] at drained made
        exact ih middle others drained made
  | spent key rest session result mapping consumed expands =>
    rw [rounds_spent expands] at made
    exact absurd made (by simp)
  | expand expansions key rest session result mapping member consumed expands ih =>
    rw [drain_expand expands] at drained
    obtain ⟨⟨middle, others, failed⟩, pressed, drained⟩ := Option.bind_eq_some_iff.mp drained
    rw [rounds_expand expands, pressed, Option.elim_some] at made
    dsimp only at drained made
    cases earlier with
    | nil =>
      obtain ⟨round, rest⟩ := List.cons.inj made
      have behindPressed := pressAll_behind pressed round fails
      have keys := map_key_strokes pressed
      rw [round] at keys
      -- The flag that a line has failed is what empties the keys that wait.
      obtain rfl := pressAll_failed behindPressed
      rw [if_pos rfl, drain_nil] at drained
      rw [if_pos rfl, rounds_nil] at rest
      cases drained
      exact ⟨rest.symm, rfl, behindPressed, Or.inr ⟨session, mapping, member, keys⟩⟩
    | cons first earlier => exact ih _ middle others drained (List.cons.inj made).2

/-- Keys that no mapping starts with are used one after the other. Where one of them fails, it is the last
or those behind it would be dropped. -/
theorem drain_plain {flush : Bool} {expansions : Nat} {keys : List Key} (rest : List Key)
    (plain : ∀ stroke ∈ strokes press keys session, stroke.Plain)
    (unfailing : ∀ stroke ∈ (strokes press keys session).dropLast, ¬stroke.Fails press) :
    drain press flush expansions (keys ++ rest) session result =
      (pressAll press keys session result false).bind fun (after, answer, failed) =>
        drain press flush expansions (if failed then [] else rest) after answer := by
  induction keys generalizing session result with
  | nil => rfl
  | cons key others ih =>
    have isRaw : session.mappings.resolve session.editor.mapModes (key :: (others ++ rest)) flush =
        .raw := MappingTable.resolve_plain (plain _ List.mem_cons_self) _
    rw [List.cons_append, drain_raw isRaw, pressAll, Option.bind_assoc]
    cases taken : press session key with
    | none => rfl
    | some answered =>
      obtain ⟨middle, answer⟩ := answered
      rw [strokes, taken] at plain unfailing
      dsimp only [Option.bind_some, Option.elim_some] at plain unfailing ⊢
      by_cases failed : answer = .failed
      · subst failed
        cases others with
        | nil => exact drain_nil.symm
        | cons next others => exact absurd ⟨middle, taken⟩ (unfailing _ List.mem_cons_self)
      · have flag : (false || answer == .failed) = false := by simpa using failed
        rw [if_neg failed, flag]
        refine ih (fun stroke member => plain stroke (List.mem_cons_of_mem _ member)) ?_
        intro stroke member
        have more : strokes press others middle ≠ [] := by
          intro none
          rw [none] at member
          cases member
        rw [List.dropLast_cons_of_ne_nil more] at unfailing
        exact unfailing stroke (List.mem_cons_of_mem _ member)

/-- A mapping whose result is not mapped again and one whose result could be are used alike, if no mapping
starts with a key of the result and no key of it but the last fails. -/
theorem drain_plain_expansion {flush : Bool} {expansions consumed : Nat} {key : Key}
    {rest : List Key} {mapping : Mapping}
    (member : mapping ∈ session.mappings.within session.editor.mapModes)
    (expands : session.mappings.resolve session.editor.mapModes (key :: rest) flush =
      mapping.expansion consumed)
    (plain : ∀ stroke ∈ strokes press mapping.rhs session, stroke.Plain)
    (unfailing : ∀ stroke ∈ (strokes press mapping.rhs session).dropLast, ¬stroke.Fails press) :
    drain press flush (expansions + 1) (key :: rest) session result =
      (pressAll press mapping.rhs session result false).bind fun (after, answer, failed) =>
        drain press flush expansions (if failed then [] else (key :: rest).drop consumed) after
          answer := by
  rw [drain_expand expands]
  rcases mapping.unmapped_cases with all | none | ⟨first, starts, others⟩
  · obtain ⟨unmapped, mapped⟩ := all
    rw [unmapped, mapped]
    rfl
  · obtain ⟨unmapped, mapped⟩ := none
    rw [unmapped, mapped]
    exact drain_plain _ plain unfailing
  · have made : Stroke.mk session first ∈ strokes press mapping.rhs session := by
      cases keys : mapping.rhs with
      | nil =>
        rw [keys] at others
        cases others
      | cons key rest =>
        rw [keys] at others
        cases others
        exact List.mem_cons_self
    exact absurd starts (plain _ made mapping member)

end Runs

/-- A key fails where it ends a command line that fails. -/
theorem pressKey_failed {run : LineRunner} {session left : Session} {key : Key}
    (taken : pressKey run session key = some (left, .failed)) :
    ∃ editor line ran error, session.editor.press key = (editor, .execute line) ∧
      run (collectReport { session with editor }) line = some (ran, .error error) ∧
        left = ran.fail error := by
  unfold pressKey at taken
  rcases pressed : session.editor.press key with ⟨editor, step⟩
  rw [pressed] at taken
  cases step with
  | execute line =>
    obtain ⟨⟨ran, result⟩, lineRan, ended⟩ := Option.map_eq_some_iff.mp taken
    cases result with
    | ok output? => cases ended
    | error error =>
      cases ended
      exact ⟨editor, line, ran, error, rfl, lineRan, rfl⟩
  | done | pending | rejected => cases taken

/-- What a typed key leads to where a stroke fails. -/
structure Broken (nesting : Nat) (before : Round) (stroke : Stroke) (behind : Round)
    (left after : Session) (answer : KeyResult) : Prop where
  /-- The stroke ended a line that failed. -/
  line : ∃ editor line ran error, stroke.session.editor.press stroke.key = (editor, .execute line) ∧
    runLine nesting (collectReport { stroke.session with editor }).clearStatus line =
        some (ran, .error error) ∧
      left = ran.fail error
  mode : left.editor.mode = .normal
  pending : left.editor.pending = {}
  /-- Nothing waits any more, and the strokes behind go on from what the line left. -/
  goesOn : ∃ last, pressAll (pressTyped nesting) (behind.map Stroke.key) left .failed true =
    some (last, answer, true) ∧ after = { last with typeahead := [] }
  /-- Without strokes behind, nothing else happens. -/
  stops : behind = [] → after = { left with typeahead := [] } ∧ answer = .failed
  /-- Strokes behind are those of keys that are used without looking at mappings again. -/
  unmapped : behind ≠ [] → ∃ begun : Session,
    ∃ mapping ∈ begun.mappings.within begun.editor.mapModes,
      (before ++ stroke :: behind).map Stroke.key = mapping.unmapped

/-- Where a line fails while a typed key is used, all keys that wait are dropped, and only keys that are
used without looking at mappings again go on behind it. So mappings whose result is not mapped again are
used like others, if no mapping starts with a key of the result and no key of it but the last fails. -/
theorem feed_failing (nesting : Nat) :
    (∀ (session after : Session) (key : Key) (answer : KeyResult),
      session.feed nesting key = some (after, answer) →
      ∀ (earlier later : List Round) (before behind : Round) (stroke : Stroke) (left : Session),
        session.feedRounds (pressTyped nesting) key = earlier ++ (before ++ stroke :: behind) :: later →
        stroke.answer (pressTyped nesting) = some (left, .failed) →
          later = [] ∧ Broken nesting before stroke behind left after answer) ∧
    (∀ (session : Session) (flush : Bool) (expansions consumed : Nat) (key : Key) (rest : List Key)
        (result : KeyResult),
      ∀ mapping ∈ session.mappings.within session.editor.mapModes,
        session.mappings.resolve session.editor.mapModes (key :: rest) flush =
          mapping.expansion consumed →
        (∀ stroke ∈ strokes (pressTyped nesting) mapping.rhs session, stroke.Plain) →
        (∀ stroke ∈ (strokes (pressTyped nesting) mapping.rhs session).dropLast,
          ¬stroke.Fails (pressTyped nesting)) →
        drain (pressTyped nesting) flush (expansions + 1) (key :: rest) session result =
          (pressAll (pressTyped nesting) mapping.rhs session result false).bind
            fun (after, answer, failed) =>
              drain (pressTyped nesting) flush expansions
                (if failed then [] else (key :: rest).drop consumed) after answer) := by
  constructor
  · intro session after key answer fed earlier later before behind stroke left made fails
    obtain ⟨⟨last, waiting, ended⟩, drained, same⟩ := Option.map_eq_some_iff.mp fed
    obtain ⟨isLast, dropped, goesOn, unmapped⟩ := drain_failing drained made fails
    cases same
    have keyFails : pressKey (fun session line => runLine nesting session.clearStatus line)
      stroke.session stroke.key = some (left, .failed) := fails
    obtain ⟨editor, line, ran, error, pressed, lineRan, left_eq⟩ := pressKey_failed keyFails
    refine ⟨isLast, ⟨editor, line, ran, error, pressed, lineRan, left_eq⟩, ?_, ?_,
      ⟨last, goesOn, by rw [dropped]⟩, ?_, unmapped.resolve_left⟩
    · rw [left_eq]
      rfl
    · rw [left_eq]
      rfl
    · rintro rfl
      cases goesOn
      exact ⟨by rw [dropped], rfl⟩
  · intro session flush expansions consumed key rest result mapping member expands plain unfailing
    exact drain_plain_expansion member expands plain unfailing

/-- A key that is not mapped again goes on behind a line that fails, and a result that is plain is used as
it is. -/
theorem feed_failing_unmapped :
    let window : Window := { text := ['a', 'b'] }
    let failing : Mapping :=
      ⟨.single .normal, [.ofChar 'Q'], [.ofChar ':', .ofChar 'q', .enter, .ofChar 'x'], true⟩
    let plain : Mapping := ⟨.single .normal, [.ofChar 'Q'], [.ofChar 'x'], false⟩
    let session := { ofWindow window with mappings := ⟨[failing]⟩ }
    let other := { ofWindow window with mappings := ⟨[plain]⟩ }
    (∃ after answer before stroke behind left, session.feed 1 (.ofChar 'Q') = some (after, answer) ∧
      session.feedRounds (pressTyped 1) (.ofChar 'Q') = [before ++ [stroke, behind]] ∧
      Broken 1 before stroke [behind] left after answer ∧ after.text = ['b']) ∧
    drain (pressTyped 1) false 1 [.ofChar 'Q', .ofChar 'x'] other .consumed =
      (pressAll (pressTyped 1) plain.rhs other .consumed false).bind fun (after, answer, failed) =>
        drain (pressTyped 1) false 0 (if failed then [] else [.ofChar 'x']) after answer := by
  intro window failing plain session other
  obtain ⟨breaks, alike⟩ := feed_failing 1
  constructor
  · have typed : (session.feed 1 (.ofChar 'Q')).any (fun answer => answer.1.text = ['b']) = true := by
      decide +kernel
    have keys : (session.feedRounds (pressTyped 1) (.ofChar 'Q')).map (·.map Stroke.key) =
        [failing.rhs] := by
      decide +kernel
    have fails : ((session.feedRounds (pressTyped 1) (.ofChar 'Q')).flatten[2]?.bind
        (Stroke.answer (pressTyped 1))).any (·.2 = .failed) = true := by
      decide +kernel
    obtain ⟨⟨after, answer⟩, fed, text⟩ := (Option.any_eq_true _ _).mp typed
    obtain ⟨round, made, keys⟩ := List.map_eq_singleton_iff.mp keys
    obtain ⟨first, round, rfl, _, keys⟩ := List.map_eq_cons_iff.mp keys
    obtain ⟨second, round, rfl, _, keys⟩ := List.map_eq_cons_iff.mp keys
    obtain ⟨stroke, round, rfl, _, keys⟩ := List.map_eq_cons_iff.mp keys
    obtain ⟨behind, round, rfl, _, keys⟩ := List.map_eq_cons_iff.mp keys
    obtain rfl := List.map_eq_nil_iff.mp keys
    rw [made] at fails
    obtain ⟨⟨left, result⟩, answered, failed⟩ := (Option.any_eq_true _ _).mp fails
    obtain rfl : result = .failed := of_decide_eq_true failed
    obtain ⟨_, broken⟩ :=
      breaks session after (.ofChar 'Q') answer fed [] [] [first, second] [behind] stroke left made answered
    exact ⟨after, answer, [first, second], stroke, behind, left, fed, made, broken,
      of_decide_eq_true text⟩
  · exact alike other false 0 1 (.ofChar 'Q') [.ofChar 'x'] .consumed plain (by decide +kernel)
      (by decide +kernel) (by decide +kernel) (by decide +kernel)

end Session

end ModalEdit

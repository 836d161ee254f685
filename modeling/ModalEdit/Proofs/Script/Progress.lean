import ModalEdit.Proofs.Script.Descent

/-!
The descent always makes progress. Every function that succeeds goes over a token at least and stays
within the tokens. Every loop and every cycle of calls leaves fewer tokens or binds tighter, so all of them
end, and with what the readers of expressions find.
-/

set_option autoImplicit false

namespace ModalEdit.Script

variable {α β : Type} {source : List Char} {tokens : List Token}

/-! ### What a call does -/

namespace Found

/-- What has been found behind what has been collected before. -/
def behind (taken : List α) (found : Found (List α)) : Found (List α) :=
  found.andThen fun trees rest => .ok (taken ++ trees, rest)

@[simp]
theorem behind_ok (taken trees : List α) (rest : List Token) :
    behind taken (.ok (trees, rest)) = .ok (taken ++ trees, rest) := rfl

theorem andThen_andThen {γ : Type} (first : Found α) (second : α → List Token → Found β)
    (third : β → List Token → Found γ) :
    (first.andThen second).andThen third =
      first.andThen fun tree rest => (second tree rest).andThen third := by
  rcases first with _ | ⟨tree, rest⟩ <;> rfl

theorem behind_nil (found : Found (List α)) : found.behind [] = found := by
  rcases found with _ | ⟨trees, rest⟩ <;> rfl

theorem behind_andThen (taken : List β) (first : Found α) (next : α → List Token → Found (List β)) :
    (first.andThen next).behind taken = first.andThen fun tree rest => (next tree rest).behind taken := by
  rcases first with _ | ⟨tree, rest⟩ <;> rfl

theorem behind_cons (taken : List α) (tree : α) (found : Found (List α)) :
    (found.andThen fun trees rest => .ok (tree :: trees, rest)).behind taken =
      found.behind (taken ++ [tree]) := by
  rcases found with _ | ⟨trees, rest⟩
  · rfl
  · simp

end Found

/-- A walk has ended within the bounds, with what the readers find there; or both fail alike. -/
inductive Follows (tokens : List Token) (low high : Nat) :
    Option (Except ScriptError (α × Nat)) → Found α → Prop
  | ok {tree : α} {next : Nat} (above : low ≤ next) (below : next ≤ high) :
      Follows tokens low high (some (.ok (tree, next))) (.ok (tree, tokens.drop next))
  | error (failure : ScriptError) : Follows tokens low high (some (.error failure)) (.error failure)

namespace Follows

variable {low high low' high' place : Nat} {outcome : Option (Except ScriptError (α × Nat))}
  {first : Found α}

theorem mono (follows : Follows tokens low high outcome first) (lower : low' ≤ low)
    (higher : high ≤ high') : Follows tokens low' high' outcome first := by
  cases follows with
  | ok above below => exact .ok (Nat.le_trans lower above) (Nat.le_trans below higher)
  | error failure => exact .error failure

theorem stays (tokens : List Token) (place : Nat) (tree : α) :
    Follows tokens place (max place tokens.length) (some (.ok (tree, place)))
      (.ok (tree, tokens.drop place)) :=
  .ok (Nat.le_refl _) (Nat.le_max_left _ _)

theorem ended (follows : Follows tokens low high outcome first) : ∃ result, outcome = some result := by
  cases follows with
  | ok => exact ⟨_, rfl⟩
  | error => exact ⟨_, rfl⟩

theorem map_eq {result : Except ScriptError (α × Nat)}
    (follows : Follows tokens low high (some result) first) :
    (result.map fun (tree, next) => (tree, tokens.drop next)) = first := by
  cases follows <;> rfl

theorem within {tree : α} {next : Nat}
    (follows : Follows tokens low high (some (.ok (tree, next))) first) : low ≤ next ∧ next ≤ high := by
  cases follows with
  | ok above below => exact ⟨above, below⟩

/-- Within the tokens, what is left tells where the walk has ended. -/
theorem unique {other : Option (Except ScriptError (α × Nat))}
    (follows : Follows tokens low high outcome first) (others : Follows tokens low high other first)
    (bounded : high ≤ tokens.length ∨ high ≤ low) : outcome = other := by
  generalize same : first = second at others
  cases follows with
  | error failure =>
    cases others with
    | ok => cases same
    | error failure => rw [Except.error.inj same]
  | @ok tree next above below =>
    cases others with
    | error => cases same
    | @ok tree' next' above' below' =>
      obtain ⟨sameTree, sameRest⟩ := Prod.mk.inj (Except.ok.inj same)
      have lengths := congrArg List.length sameRest
      rw [List.length_drop, List.length_drop] at lengths
      have sameNext : next = next' := by omega
      rw [sameTree, sameNext]

/-- What goes on from wherever the first walk has ended. -/
theorem bind {walk : Walk α} {next : α → Walk β} {reading : α → List Token → Found β}
    (follows : Follows tokens low high (walk place) first)
    (goesOn : ∀ tree reached, low ≤ reached → reached ≤ high →
      Follows tokens low' high' (next tree reached) (reading tree (tokens.drop reached))) :
    Follows tokens low' high' ((walk >>= next) place) (first.andThen reading) := by
  rw [Walk.bind_apply]
  generalize walk place = outcome at follows
  cases follows with
  | ok above below => exact goesOn _ _ above below
  | error failure => exact .error failure

end Follows

/-- Expressions one after the other, with nothing left behind them. -/
theorem found_readSequence (tokens : List Token) :
    ((readSequence source tokens).map fun trees => (trees, []) : Found (List Expr)) =
      if tokens.isEmpty then .ok ([], [])
      else
        (readLevel source .ternary tokens).andThen fun tree rest =>
          Found.andThen ((readSequence source rest).map fun trees => (trees, [])) fun trees rest =>
            .ok (tree :: trees, rest) := by
  rw [readSequence, readLevel]
  split_ifs
  · rfl
  · rcases readTernary source tokens with _ | ⟨tree, rest, -⟩
    · rfl
    · dsimp only
      rw [found_ok, Found.andThen_ok]
      cases readSequence source rest <;> rfl

/-- How loose a level is. -/
def Level.looseness : Level → Nat
  | ternary => 8
  | .or => 7
  | .and => 6
  | comparison => 5
  | sum => 4
  | product => 3
  | unary => 2
  | .suffix => 1
  | atom => 0

namespace Call

/-- From one and the same place, a call calls those of less rank only. -/
def rank : Call → Nat
  | .level own => own.looseness
  | rest _ _ => 0
  | arguments => 10
  | _ => 9

/-- A bound on how many calls can be inside one another, from the number of tokens left. -/
def bound (call : Call) (left : Nat) : Nat :=
  11 * left + call.rank

/-- Whether a call that succeeds goes over a token. What goes on with an expression may be nothing. -/
def takes : Call → Bool
  | rest _ _ => false
  | sequence _ => false
  | _ => true

/-- What the readers find. -/
def read (source : List Char) : (call : Call) → List Token → Found call.Answer
  | .level own, tokens => readLevel source own tokens
  | rest own tree, tokens => readRest source own tree tokens
  | subscript target, tokens => found (readSubscript source target tokens)
  | arguments, tokens => found (readArguments source tokens)
  | argumentList taken, tokens => (found (readArgumentList source tokens)).behind taken
  | items opened taken, tokens => (found (readItems source opened tokens)).behind taken
  | entries opened literalKeys taken, tokens =>
    (found (readEntries source opened literalKeys tokens)).behind taken
  | sequence taken, tokens =>
    Found.behind taken ((readSequence source tokens).map fun trees => (trees, []))

/-- The first place at which a call can end. -/
def least (call : Call) (place : Nat) : Nat :=
  if call.takes then place + 1 else place

/-- The last place at which a call can end. What takes nothing stays where it is, behind the end too. -/
def most (call : Call) (place length : Nat) : Nat :=
  if call.takes then length else max place length

/-- A walk from the place does what the call has to do there. -/
def Done (source : List Char) (tokens : List Token) (call : Call) (place : Nat)
    (walk : Walk call.Answer) : Prop :=
  Follows tokens (call.least place) (call.most place tokens.length) (walk place)
    (call.read source (tokens.drop place))

theorem rank_lt (call : Call) : call.rank < 11 := by
  cases call with
  | level own => cases own <;> decide
  | _ => simp [rank]

end Call

/-- The calls that one from the place makes do what they have to do: all of those from further behind,
and those of less rank from the place itself. -/
structure Ready (source : List Char) (tokens : List Token) (walk : (call : Call) → Walk call.Answer)
    (rank place : Nat) : Prop where
  same : ∀ call : Call, call.rank < rank → call.Done source tokens place (walk call)
  further : ∀ (call : Call) (reached : Nat), place < reached → reached ≤ tokens.length →
    call.Done source tokens reached (walk call)

namespace Ready

variable {walk : (call : Call) → Walk call.Answer} {rank place reached : Nat}

section

variable (ready : Ready source tokens walk rank place)
include ready

theorem level_same {own : Level} (less : own.looseness < rank) :
    Follows tokens (place + 1) tokens.length (walk (.level own) place)
      (readLevel source own (tokens.drop place)) :=
  ready.same (.level own) less

theorem takes_further {call : Call} (takes : call.takes = true) (behind : place < reached)
    (within : reached ≤ tokens.length) :
    Follows tokens (place + 1) tokens.length (walk call reached)
      (call.read source (tokens.drop reached)) := by
  have done := ready.further call reached behind within
  rw [Call.Done, Call.least, Call.most, if_pos takes, if_pos takes] at done
  exact done.mono (Nat.succ_le_succ (Nat.le_of_lt behind)) (Nat.le_refl _)

theorem level_further (own : Level) (behind : place < reached) (within : reached ≤ tokens.length) :
    Follows tokens (place + 1) tokens.length (walk (.level own) reached)
      (readLevel source own (tokens.drop reached)) :=
  takes_further ready rfl behind within

theorem rest_further (own : Level) (tree : Expr) (behind : place < reached)
    (within : reached ≤ tokens.length) :
    Follows tokens (place + 1) tokens.length (walk (.rest own tree) reached)
      (readRest source own tree (tokens.drop reached)) :=
  Follows.mono (ready.further (.rest own tree) reached behind within) behind
    (Nat.max_le.mpr ⟨within, Nat.le_refl _⟩)

end

/-! ### One call -/

/-- A level in the middle reads what binds tighter, then what goes on with it. -/
theorem done_level {own : Level} (notUnary : own ≠ .unary) (notAtom : own ≠ .atom)
    (ready : Ready source tokens walk own.looseness place) :
    (Call.level own).Done source tokens place (body source tokens walk (.level own)) := by
  have isBody : body source tokens walk (.level own) =
      walk (.level own.tighter) >>= fun tree => walk (.rest own tree) := by
    cases own <;> first | contradiction | rfl
  have less : own.tighter.looseness < own.looseness := by
    cases own <;> first | contradiction | decide
  change Follows tokens (place + 1) tokens.length _ (readLevel source own _)
  rw [isBody, readLevel_eq source notUnary notAtom]
  exact (ready.level_same less).bind fun tree reached behind within =>
    ready.rest_further own tree behind within

theorem done_unary (ready : Ready source tokens walk Level.unary.looseness place) :
    (Call.level .unary).Done source tokens place (body source tokens walk (.level .unary)) := by
  change Follows tokens (place + 1) tokens.length _ (readLevel source .unary _)
  rw [body, Walk.peek?_bind]
  have tighter : Follows tokens (place + 1) tokens.length (walk (.level .suffix) place)
      (readLevel source .suffix (tokens.drop place)) := ready.level_same (by decide)
  rcases Option.eq_none_or_eq_some tokens[place]? with is | ⟨token, is⟩
  · simp only [is]
    rw [Walk.drop_of_getElem?_eq_none is] at tighter ⊢
    rw [readLevel_eq source (by decide) (by decide), Level.tighter, readLevel_atom_nil] at tighter
    rw [readLevel_unary_nil]
    exact tighter
  · simp only [is, Option.map_some, Option.bind_some]
    rw [Walk.drop_of_getElem?_eq_some is] at tighter ⊢
    rw [readLevel_unary_cons]
    cases unaryOperator? token.kind with
    | none => exact tighter
    | some operator =>
      have within := Walk.lt_length_of_getElem?_eq_some is
      dsimp only
      rw [Walk.modify_bind]
      refine (ready.level_further .unary (Nat.lt_succ_self _) within).bind fun _ _ behind within => ?_
      exact .ok behind within

theorem done_atom (ready : Ready source tokens walk Level.atom.looseness place) :
    (Call.level .atom).Done source tokens place (body source tokens walk (.level .atom)) := by
  change Follows tokens (place + 1) tokens.length _ (readLevel source .atom _)
  rw [body, Walk.get_bind, Walk.advance?_bind]
  rcases Option.eq_none_or_eq_some tokens[place]? with is | ⟨token, is⟩
  · simp only [is]
    rw [Walk.drop_of_getElem?_eq_none is, readLevel_atom_nil]
    exact .error _
  have within := Walk.lt_length_of_getElem?_eq_some is
  have items (opened : String) :
      Follows tokens (place + 1) tokens.length (walk (.items opened []) (place + 1))
        (found (readItems source opened (tokens.drop (place + 1)))) := by
    have done := ready.further (.items opened []) _ (Nat.lt_succ_self _) within
    rw [Call.Done, Call.read, Found.behind_nil] at done
    exact done.mono (Nat.le_succ _) (Nat.le_refl _)
  have entries (opened : String) (literalKeys : Bool) :
      Follows tokens (place + 1) tokens.length (walk (.entries opened literalKeys []) (place + 1))
        (found (readEntries source opened literalKeys (tokens.drop (place + 1)))) := by
    have done := ready.further (.entries opened literalKeys []) _ (Nat.lt_succ_self _) within
    rw [Call.Done, Call.read, Found.behind_nil] at done
    exact done.mono (Nat.le_succ _) (Nat.le_refl _)
  simp only [is]
  rw [Walk.drop_of_getElem?_eq_some is, readLevel_atom_cons]
  cases simpleAtom? token.kind with
  | some atom => exact .ok (Nat.le_refl _) within
  | none =>
    cases token.kind with
    | mark sign =>
      cases sign with
      | openParen =>
        refine (ready.level_further .ternary (Nat.lt_succ_self _) within).bind
          fun inner reached behind within => ?_
        rw [Walk.expect_bind, Walk.behindMark?_drop]
        split_ifs with closes
        · exact .ok (Nat.le_succ_of_le behind) closes.lt_length
        · exact .error _
      | openBracket => exact (items _).bind fun _ _ behind within => .ok behind within
      | openBrace => exact (entries _ false).bind fun _ _ behind within => .ok behind within
      | openLiteralBrace => exact (entries _ true).bind fun _ _ behind within => .ok behind within
      | _ => exact .error _
    | _ => exact .error _

/-- The branches of a condition, if there are any. -/
theorem done_rest_ternary (condition : Expr) (ready : Ready source tokens walk rank place) :
    (Call.rest .ternary condition).Done source tokens place
      (body source tokens walk (.rest .ternary condition)) := by
  change Follows tokens place (max place tokens.length) _ (readRest source .ternary condition _)
  rw [body, readRest, Walk.eat_ite, Walk.behindMark?_drop]
  split_ifs with question
  · refine Follows.mono ?_ (Nat.le_succ place) (Nat.le_max_right _ _)
    refine (ready.level_further .ternary (Nat.lt_succ_self _) question.lt_length).bind
      fun yes afterYes behind within => ?_
    rw [Walk.expect_bind, Walk.behindMark?_drop]
    split_ifs with colon
    · refine (ready.level_further .ternary (Nat.lt_succ_of_lt behind) colon.lt_length).bind
        fun no after behind within => ?_
      exact .ok behind within
    · exact .error _
  · exact .stays tokens place _

/-- A comparison and its right side, if there is one. -/
theorem done_rest_comparison (left : Expr) (ready : Ready source tokens walk rank place) :
    (Call.rest .comparison left).Done source tokens place
      (body source tokens walk (.rest .comparison left)) := by
  change Follows tokens place (max place tokens.length) _ (readRest source .comparison left _)
  rw [body, readRest, Walk.peek?_bind]
  have stays := Follows.stays tokens place left
  rcases Option.eq_none_or_eq_some tokens[place]? with is | ⟨token, is⟩
  · simp only [is]
    rw [Walk.drop_of_getElem?_eq_none is] at stays ⊢
    exact stays
  · simp only [is, Option.map_some]
    rw [Walk.drop_of_getElem?_eq_some is] at stays ⊢
    rw [behindComparison?, takeComparison?]
    cases token.kind with
    | compare operator case =>
      dsimp only [Option.map_some]
      rw [Walk.modify_bind]
      have within := Walk.lt_length_of_getElem?_eq_some is
      refine Follows.mono ?_ (Nat.le_succ place) (Nat.le_max_right _ _)
      refine (ready.level_further .sum (Nat.lt_succ_self _) within).bind fun right after behind within => ?_
      exact .ok behind within
    | _ => exact stays

/-- Nothing goes on with an operand or an atom by itself. -/
theorem done_rest_of_no_operator {own : Level} (is : own = .unary ∨ own = .atom) (tree : Expr) :
    (Call.rest own tree).Done source tokens place (body source tokens walk (.rest own tree)) := by
  have isBody : body source tokens walk (.rest own tree) place = some (.ok (tree, place)) := by
    rcases is with rfl | rfl
    all_goals
      rw [body, Walk.peek?_bind]
      · cases tokens[place]? <;> rfl
      all_goals exact nofun
  have isRead : readRest source own tree (tokens.drop place) = .ok (tree, tokens.drop place) := by
    rcases is with rfl | rfl <;> rfl
  rw [Call.Done, Call.read, isBody, isRead]
  exact .stays tokens place _

/-- The loop of a level at which operators group to the left. -/
theorem done_rest_of_chains {own : Level} (chains : own.Chains) (left : Expr)
    (ready : Ready source tokens walk rank place) :
    (Call.rest own left).Done source tokens place (body source tokens walk (.rest own left)) := by
  change Follows tokens place (max place tokens.length) _ (readRest source own left _)
  have isLoop : own ≠ .ternary ∧ own ≠ .comparison ∧ own ≠ .suffix := by
    revert chains
    cases own <;> decide
  rw [body, Walk.peek?_bind]
  · have stays := Follows.stays tokens place left
    rcases Option.eq_none_or_eq_some tokens[place]? with is | ⟨token, is⟩
    · simp only [is]
      rw [Walk.drop_of_getElem?_eq_none is] at stays ⊢
      rw [readRest_nil source chains]
      exact stays
    · simp only [is, Option.map_some, Option.bind_some]
      rw [Walk.drop_of_getElem?_eq_some is] at stays ⊢
      rw [readRest_cons source chains]
      cases own.operator? token.kind with
      | none => exact stays
      | some operator =>
        dsimp only
        rw [Walk.modify_bind]
        have within := Walk.lt_length_of_getElem?_eq_some is
        refine Follows.mono ?_ (Nat.le_succ place) (Nat.le_max_right _ _)
        refine (ready.level_further own.tighter (Nat.lt_succ_self _) within).bind
          fun right reached behind within => ?_
        exact ready.rest_further own _ behind within
  · exact isLoop.1
  · exact isLoop.2.1
  · exact isLoop.2.2

/-- The loop over subscripts, calls and members. -/
theorem done_rest_suffix (target : Expr) (ready : Ready source tokens walk rank place) :
    (Call.rest .suffix target).Done source tokens place
      (body source tokens walk (.rest .suffix target)) := by
  change Follows tokens place (max place tokens.length) _ (readRest source .suffix target _)
  rw [body, Walk.bind_apply, readRest_suffix]
  have goesOn {value : Expr} {reached : Nat} (behind : place < reached)
      (within : reached ≤ tokens.length) :
      Follows tokens place (max place tokens.length) (walk (.rest .suffix value) reached)
        (readRest source .suffix value (tokens.drop reached)) :=
    (ready.rest_further .suffix value behind within).mono (Nat.le_succ place) (Nat.le_max_right _ _)
  obtain ⟨within, run, bracket⟩ | ⟨noBracket, ⟨within, run, paren⟩ | ⟨noParen, member⟩⟩ :=
    Walk.suffix?_cases tokens place
  · rw [run, bracket]
    exact (ready.further (.subscript target) _ (Nat.lt_succ_self _) within).bind
      fun value reached behind within => goesOn (Nat.lt_of_succ_lt behind) within
  · rw [run, noBracket, paren]
    exact (ready.further .arguments _ (Nat.lt_succ_self _) within).bind
      fun arguments reached behind within => goesOn (Nat.lt_of_succ_lt behind) within
  · rw [noBracket, noParen]
    obtain ⟨key, within, run, member⟩ | ⟨run, noMember⟩ := member
    · rw [run, member]
      exact goesOn (by omega) within
    · rw [run, noMember]
      exact .stays tokens place _

/-- The end of a slice, behind its colon. -/
theorem slice_follows (target : Expr) (first : Option Expr)
    (ready : Ready source tokens walk rank place) (behind : place < reached)
    (within : reached ≤ tokens.length) :
    Follows tokens (place + 1) tokens.length
      ((Walk.optional tokens .closeBracket (walk (.level .ternary)) >>= fun last => do
        Walk.expect tokens .closeBracket .missingBracket
        return Expr.slice target first last) reached)
      ((found (readSliceEnd source (tokens.drop reached))).andThen fun last rest =>
        .ok (Expr.slice target first last, rest)) := by
  rw [Walk.optional_bind, found_readSliceEnd, Walk.behindMark?_drop]
  split_ifs with closes
  · rw [Walk.expect_bind, if_pos closes]
    exact .ok (Nat.le_succ_of_le behind) closes.lt_length
  · rw [Found.andThen_andThen]
    refine (ready.level_further .ternary behind within).bind fun last after behind within => ?_
    rw [Walk.expect_bind, Walk.behindMark?_drop]
    split_ifs with closes
    · exact .ok (Nat.le_succ_of_le behind) closes.lt_length
    · exact .error _

theorem done_subscript (target : Expr) (ready : Ready source tokens walk 9 place) :
    (Call.subscript target).Done source tokens place
      (body source tokens walk (.subscript target)) := by
  change Follows tokens (place + 1) tokens.length _ (found (readSubscript source target _))
  rw [body, Walk.optional_bind, found_readSubscript, Walk.behindMark?_drop]
  by_cases colon : Walk.At tokens place .colon
  · rw [if_pos colon, if_pos colon, Walk.eat_ite, if_pos colon]
    exact ready.slice_follows target none (Nat.lt_succ_self _) colon.lt_length
  · rw [if_neg colon, if_neg colon]
    refine (ready.level_same (by decide)).bind fun first reached behind within => ?_
    rw [Walk.eat_ite, Walk.behindMark?_drop]
    split_ifs with colon
    · exact ready.slice_follows target (some first) (Nat.lt_succ_of_lt behind) colon.lt_length
    · rw [Walk.expect_bind, Walk.behindMark?_drop]
      split_ifs with closes
      · exact .ok (Nat.le_succ_of_le behind) closes.lt_length
      · exact .error _

theorem done_arguments (ready : Ready source tokens walk 10 place) :
    Call.arguments.Done source tokens place (body source tokens walk .arguments) := by
  change Follows tokens (place + 1) tokens.length _ (found (readArguments source _))
  rw [body, Walk.eat_ite, found_readArguments, Walk.behindMark?_drop]
  split_ifs with closes
  · exact .ok (Nat.le_refl _) closes.lt_length
  · have list := ready.same (.argumentList []) (by decide)
    rw [Call.Done, Call.read, Found.behind_nil] at list
    exact list

/-- The loop over arguments. -/
theorem done_argumentList (taken : List Expr) (ready : Ready source tokens walk 9 place) :
    (Call.argumentList taken).Done source tokens place
      (body source tokens walk (.argumentList taken)) := by
  change Follows tokens (place + 1) tokens.length _ (Found.behind taken (found (readArgumentList source _)))
  rw [body, found_readArgumentList, Found.behind_andThen]
  refine (ready.level_same (by decide)).bind fun argument reached behind within => ?_
  rw [Walk.eat_ite, Walk.behindMark?_drop]
  split_ifs with closes
  · exact .ok (Nat.le_succ_of_le behind) closes.lt_length
  · rw [Walk.expect_bind, Walk.behindMark?_drop]
    split_ifs with comma
    · dsimp only
      rw [Found.behind_cons]
      exact ready.takes_further rfl (Nat.lt_succ_of_lt behind) comma.lt_length
    · exact .error _

theorem isEmpty_drop : (tokens.drop place).isEmpty = true ↔ tokens.length ≤ place := by
  rw [List.isEmpty_iff, List.drop_eq_nil_iff]

/-- The loop over the items of a list. -/
theorem done_items (opened : String) (taken : List Expr) (ready : Ready source tokens walk 9 place) :
    (Call.items opened taken).Done source tokens place
      (body source tokens walk (.items opened taken)) := by
  change Follows tokens (place + 1) tokens.length _ (Found.behind taken (found (readItems source opened _)))
  rw [body, Walk.eat_ite, Walk.atEnd_ite, found_readItems, Walk.behindMark?_drop]
  by_cases closes : Walk.At tokens place .closeBracket
  · rw [if_pos closes, if_pos closes]
    dsimp only
    rw [Found.behind_ok, List.append_nil]
    exact .ok (Nat.le_refl _) closes.lt_length
  rw [if_neg closes, if_neg closes]
  simp only [isEmpty_drop]
  split_ifs with ended
  · exact .error _
  rw [Found.behind_andThen]
  refine (ready.level_same (by decide)).bind fun item reached behind within => ?_
  rw [Walk.separate_bind, Walk.behindMark?_drop, Walk.behindMark?_drop]
  by_cases comma : Walk.At tokens reached .comma
  · rw [if_pos comma, if_pos comma]
    dsimp only
    rw [Found.behind_cons]
    exact ready.takes_further rfl (Nat.lt_succ_of_lt behind) comma.lt_length
  rw [if_neg comma, if_neg comma]
  split_ifs with closes
  · have more : Follows tokens (place + 1) tokens.length (walk (.items opened (taken ++ [item])) reached)
        (Found.behind (taken ++ [item]) (found (readItems source opened (tokens.drop reached)))) :=
      ready.takes_further rfl behind within
    rw [found_readItems, Walk.behindMark?_drop, if_pos closes] at more
    simpa using more
  · exact .error _

/-- The key of an entry is a token at least. -/
theorem key_follows (literal : Bool) (ready : Ready source tokens walk 9 place) :
    Follows tokens (place + 1) tokens.length
      (Walk.key tokens source literal (walk (.level .ternary)) place)
      (found (readKey source literal (tokens.drop place))) := by
  cases literal with
  | false =>
    rw [found_readKey_expr]
    exact ready.level_same (by decide)
  | true =>
    rw [Walk.key, if_pos rfl, Walk.advance?_bind, found_readKey_literal]
    rcases Option.eq_none_or_eq_some tokens[place]? with is | ⟨token, is⟩
    · simp only [is]
      rw [Walk.drop_of_getElem?_eq_none is]
      exact .error _
    · simp only [is, Option.bind_some]
      rw [Walk.drop_of_getElem?_eq_some is]
      dsimp only
      cases literalKey? token.kind with
      | none => exact .error _
      | some key => exact .ok (Nat.le_refl _) (Walk.lt_length_of_getElem?_eq_some is)

/-- The loop over the entries of a dictionary. -/
theorem done_entries (opened : String) (literalKeys : Bool) (taken : List (Expr × Expr))
    (ready : Ready source tokens walk 9 place) :
    (Call.entries opened literalKeys taken).Done source tokens place
      (body source tokens walk (.entries opened literalKeys taken)) := by
  change Follows tokens (place + 1) tokens.length _
    (Found.behind taken (found (readEntries source opened literalKeys _)))
  rw [body, Walk.eat_ite, Walk.atEnd_ite, found_readEntries, Walk.behindMark?_drop]
  by_cases closes : Walk.At tokens place .closeBrace
  · rw [if_pos closes, if_pos closes]
    dsimp only
    rw [Found.behind_ok, List.append_nil]
    exact .ok (Nat.le_refl _) closes.lt_length
  rw [if_neg closes, if_neg closes]
  simp only [isEmpty_drop]
  split_ifs with ended
  · exact .error _
  rw [Found.behind_andThen]
  refine (ready.key_follows literalKeys).bind fun key reached behind within => ?_
  rw [Walk.eat_ite, Walk.behindMark?_drop]
  split_ifs with colon
  · dsimp only
    rw [Found.behind_andThen]
    refine (ready.level_further .ternary (Nat.lt_succ_of_lt behind) colon.lt_length).bind
      fun value reached behind within => ?_
    rw [Walk.separate_bind, Walk.behindMark?_drop, Walk.behindMark?_drop]
    by_cases comma : Walk.At tokens reached .comma
    · rw [if_pos comma, if_pos comma]
      dsimp only
      rw [Found.behind_cons]
      exact ready.takes_further rfl (Nat.lt_succ_of_lt behind) comma.lt_length
    rw [if_neg comma, if_neg comma]
    split_ifs with closes
    · have more : Follows tokens (place + 1) tokens.length
          (walk (.entries opened literalKeys (taken ++ [(key, value)])) reached)
          (Found.behind (taken ++ [(key, value)])
            (found (readEntries source opened literalKeys (tokens.drop reached)))) :=
        ready.takes_further rfl behind within
      rw [found_readEntries, Walk.behindMark?_drop, if_pos closes] at more
      simpa using more
    · exact .error _
  · exact .error _

/-- The loop over expressions one after the other. -/
theorem done_sequence (taken : List Expr) (ready : Ready source tokens walk 9 place) :
    (Call.sequence taken).Done source tokens place
      (body source tokens walk (.sequence taken)) := by
  change Follows tokens place (max place tokens.length) _ _
  rw [body, Walk.atEnd_ite, Call.read, found_readSequence]
  simp only [isEmpty_drop]
  split_ifs with ended
  · have stays := Follows.stays tokens place taken
    rw [List.drop_eq_nil_of_le ended] at stays
    rw [Found.behind_ok, List.append_nil]
    exact stays
  · rw [Found.behind_andThen]
    refine (ready.level_same (by decide)).bind fun tree reached behind within => ?_
    rw [Found.behind_cons]
    refine Follows.mono (ready.further (.sequence (taken ++ [tree])) reached behind within)
      (Nat.le_of_lt behind) ?_
    exact Nat.max_le.mpr ⟨Nat.le_trans within (Nat.le_max_right _ _), Nat.le_max_right _ _⟩

/-- One call of any kind. -/
theorem done_body {call : Call} (ready : Ready source tokens walk call.rank place) :
    call.Done source tokens place (body source tokens walk call) := by
  cases call with
  | level own =>
    by_cases isUnary : own = .unary
    · subst isUnary
      exact ready.done_unary
    by_cases isAtom : own = .atom
    · subst isAtom
      exact ready.done_atom
    exact ready.done_level isUnary isAtom
  | rest own tree =>
    cases own with
    | ternary => exact ready.done_rest_ternary tree
    | comparison => exact ready.done_rest_comparison tree
    | suffix => exact ready.done_rest_suffix tree
    | unary => exact done_rest_of_no_operator (.inl rfl) tree
    | atom => exact done_rest_of_no_operator (.inr rfl) tree
    | _ => exact ready.done_rest_of_chains (by decide) tree
  | subscript target => exact ready.done_subscript target
  | arguments => exact ready.done_arguments
  | argumentList taken => exact ready.done_argumentList taken
  | items opened taken => exact ready.done_items opened taken
  | entries opened literalKeys taken => exact ready.done_entries opened literalKeys taken
  | sequence taken => exact ready.done_sequence taken

end Ready

/-! ### All calls -/

/-- With calls inside one another up to its bound, every call does what it has to do. -/
theorem Call.done_descend {depth : Nat} : ∀ (call : Call) (place : Nat),
    call.bound (tokens.length - place) < depth →
      call.Done source tokens place (descend source tokens depth call) := by
  induction depth with
  | zero => exact fun call place less => absurd less (Nat.not_lt_zero _)
  | succ depth ih =>
    intro call place less
    refine Ready.done_body ⟨fun other smaller => ih other place ?_,
      fun other reached behind within => ih other reached ?_⟩
    · simp only [Call.bound] at less ⊢
      omega
    · have small := other.rank_lt
      simp only [Call.bound] at less ⊢
      omega

/-- From every place in any tokens, every call ends, with no more than `Call.bound` calls inside it: eleven
for each token left, and its rank. It finds what the readers find. If it succeeds, it has gone over a token
at least and is not past the end. Only what goes on with an expression, and expressions one after the
other, may stay where they are. -/
theorem descent_progresses (source : List Char) (tokens : List Token) (call : Call) (place : Nat) :
    ∃ outcome : Except ScriptError (call.Answer × Nat),
      (∀ depth, call.bound (tokens.length - place) < depth →
        descend source tokens depth call place = some outcome) ∧
      (outcome.map fun (tree, next) => (tree, tokens.drop next)) = call.read source (tokens.drop place) ∧
      ∀ tree next, outcome = .ok (tree, next) →
        if call.takes then place < next ∧ next ≤ tokens.length
        else place ≤ next ∧ next ≤ max place tokens.length := by
  have done {depth : Nat} (deep : call.bound (tokens.length - place) < depth) :
      call.Done source tokens place (descend source tokens depth call) :=
    call.done_descend place deep
  have bounded : call.most place tokens.length ≤ tokens.length ∨
      call.most place tokens.length ≤ call.least place := by
    unfold Call.most Call.least
    split_ifs
    · exact .inl (Nat.le_refl _)
    · omega
  have first := done (Nat.lt_succ_self _)
  obtain ⟨outcome, ran⟩ := Follows.ended first
  rw [Call.Done, ran] at first
  refine ⟨outcome, fun depth deep => (first.unique (done deep) bounded).symm, first.map_eq, ?_⟩
  rintro tree next rfl
  have within := first.within
  unfold Call.least Call.most at within
  split_ifs at within ⊢
  · exact within
  · exact within

end ModalEdit.Script

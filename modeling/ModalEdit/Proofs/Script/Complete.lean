import ModalEdit.Proofs.Script.Sound

/-!
The readers are complete: they take every phrase of the grammar and give its tree. A reader takes as much
as it can, so an expression is read as far as nothing of its level goes on behind it.
-/

set_option autoImplicit false

namespace ModalEdit.Script

/-- How tight a level binds. -/
def Level.rank : Level → Nat
  | ternary => 0
  | .or => 1
  | .and => 2
  | comparison => 3
  | sum => 4
  | product => 5
  | unary => 6
  | .suffix => 7
  | atom => 8

theorem Level.rank_le_tighter (level : Level) : level.rank ≤ level.tighter.rank := by
  cases level <;> decide

/-- A mark stands for one operator only. -/
theorem BinaryOperator.eq_of_marks {first second : BinaryOperator} {sign : Mark}
    (listed : sign ∈ first.marks) (listedToo : sign ∈ second.marks) : first = second := by
  cases first <;> cases second <;> simp_all [BinaryOperator.marks]

/-- The tokens go on with an expression of the level. -/
inductive Continues : Level → List Token → Prop
  | ternary {question : Token} {rest : List Token} :
      question.Is .question → Continues .ternary (question :: rest)
  | binary {token : Token} {rest : List Token} {operator : BinaryOperator} {sign : Mark} :
      sign ∈ operator.marks → token.Is sign → Continues operator.level (token :: rest)
  | compare {token : Token} {rest : List Token} {operator : Comparison} {case : CaseMode} :
      token.kind = .compare operator case → Continues .comparison (token :: rest)
  | bracket {opening : Token} {rest : List Token} :
      opening.IsTight .openBracket → Continues .suffix (opening :: rest)
  | paren {opening : Token} {rest : List Token} :
      opening.IsTight .openParen → Continues .suffix (opening :: rest)
  | member {tokens : List Token} : StartsMember tokens → Continues .suffix tokens

theorem Continues.of_mark {level : Level} {token : Token} {sign : Mark} {rest : List Token}
    (continues : Continues level (token :: rest)) (is : token.Is sign) :
    (sign = .question ∧ level = .ternary) ∨
      (∃ operator : BinaryOperator, sign ∈ operator.marks ∧ operator.level = level) ∨
      (sign = .openBracket ∨ sign = .openParen) ∨ (sign = .dot ∧ StartsMember (token :: rest)) := by
  have same {other : Mark} (isOther : token.Is other) : sign = other :=
    TokenKind.mark.inj (is.symm.trans isOther)
  cases continues with
  | ternary isQuestion => exact .inl ⟨same isQuestion, rfl⟩
  | binary listed isOperator => exact .inr (.inl ⟨_, same isOperator ▸ listed, rfl⟩)
  | compare isComparison => exact absurd (is.symm.trans isComparison) (by simp)
  | bracket opens => exact .inr (.inr (.inl (.inl (same opens.1))))
  | paren opens => exact .inr (.inr (.inl (.inr (same opens.1))))
  | member starts =>
    obtain ⟨dot, _, _, _, tokensEq, isDot, _⟩ := id starts
    cases tokensEq
    exact .inr (.inr (.inr ⟨same isDot.1, starts⟩))

/-- Nothing of the level goes on, nor of a tighter one. -/
def Level.Stops (level : Level) (rest : List Token) : Prop :=
  ∀ other, level.rank ≤ other.rank → ¬ Continues other rest

/-- The marks that end an expression. -/
def Mark.Closes (sign : Mark) : Prop :=
  sign ∈ [.closeParen, .closeBracket, .closeBrace, .comma, .colon]

instance (sign : Mark) : Decidable sign.Closes :=
  inferInstanceAs (Decidable (sign ∈ [.closeParen, .closeBracket, .closeBrace, .comma, .colon]))

namespace Level

theorem Stops.tighter {level : Level} {rest : List Token} (stops : level.Stops rest) :
    level.tighter.Stops rest :=
  fun other tight => stops other (Nat.le_trans level.rank_le_tighter tight)

theorem stops_atom (rest : List Token) : atom.Stops rest := by
  intro other tight continues
  cases continues with
  | @binary _ _ operator => cases operator <;> contradiction
  | _ => contradiction

theorem stops_nil (level : Level) : level.Stops [] := by
  rintro _ _ (_ | _ | _ | _ | _ | ⟨_, _, _, _, ⟨⟩, _⟩)

theorem stops_of_closes (level : Level) {token : Token} {sign : Mark} (is : token.Is sign)
    (closes : sign.Closes) (rest : List Token) : level.Stops (token :: rest) := by
  intro other _ continues
  rcases continues.of_mark is with ⟨rfl, _⟩ | ⟨operator, listed, _⟩ | (rfl | rfl) | ⟨rfl, _⟩
  · exact absurd closes (by decide)
  · revert closes listed
    cases operator <;> cases sign <;> decide
  · exact absurd closes (by decide)
  · exact absurd closes (by decide)
  · exact absurd closes (by decide)

theorem stops_of_question {token : Token} (is : token.Is .question) (rest : List Token) :
    Level.or.Stops (token :: rest) := by
  intro other tight continues
  rcases continues.of_mark is with ⟨_, rfl⟩ | ⟨operator, listed, _⟩ | (is | is) | ⟨is, _⟩
  · contradiction
  · revert listed
    cases operator <;> decide
  all_goals contradiction

theorem stops_of_compare {token : Token} {operator : Comparison} {case : CaseMode}
    (is : token.kind = .compare operator case) (rest : List Token) : sum.Stops (token :: rest) := by
  intro other tight continues
  have notMark {sign : Mark} (isMark : token.Is sign) : False := by
    simp [Token.Is, is] at isMark
  cases continues with
  | ternary isMark => exact notMark isMark
  | binary _ isMark => exact notMark isMark
  | compare => contradiction
  | bracket opens => exact notMark opens.1
  | paren opens => exact notMark opens.1
  | member starts =>
    obtain ⟨dot, _, _, _, tokensEq, isDot, _⟩ := starts
    cases tokensEq
    exact notMark isDot.1

theorem stops_of_operator {token : Token} {operator : BinaryOperator} {sign : Mark}
    (listed : sign ∈ operator.marks) (is : token.Is sign) {rest : List Token}
    (noMember : ¬ StartsMember (token :: rest)) :
    operator.level.tighter.Stops (token :: rest) := by
  intro other tight continues
  rcases continues.of_mark is with
    ⟨rfl, _⟩ | ⟨operator', listed', rfl⟩ | (rfl | rfl) | ⟨_, starts⟩
  · revert listed
    cases operator <;> decide
  · cases BinaryOperator.eq_of_marks listed listed'
    revert tight
    cases operator <;> decide
  · revert listed
    cases operator <;> decide
  · revert listed
    cases operator <;> decide
  · exact noMember starts

end Level

section Taking

variable {sign other : Mark} {token : Token} {rest : List Token}

theorem behindMark?_of_is (is : token.Is sign) : behindMark? sign (token :: rest) = some rest :=
  behindMark?_eq_some_iff.mpr ⟨token, rfl, is⟩

theorem behindMark?_of_is_other (is : token.Is other) (apart : other ≠ sign) :
    behindMark? sign (token :: rest) = none := by
  refine behindMark?_eq_none ?_
  rintro _ _ ⟨⟩ isSign
  exact apart (TokenKind.mark.inj (is.symm.trans isSign))

theorem behindTightMark?_of_isTight (tight : token.IsTight sign) :
    behindTightMark? sign (token :: rest) = some rest :=
  behindTightMark?_eq_some_iff.mpr ⟨token, rfl, tight⟩

theorem behindTightMark?_of_is_other (is : token.Is other) (apart : other ≠ sign) :
    behindTightMark? sign (token :: rest) = none := by
  refine behindTightMark?_eq_none ?_
  rintro _ _ ⟨⟩ isSign
  exact apart (TokenKind.mark.inj (is.symm.trans isSign.1))

end Taking

section Readers

variable (source : List Char)

theorem readRest_of_stops {level : Level} {rest : List Token} (stops : level.Stops rest)
    (tree : Expr) : readRest source level tree rest = .ok (tree, rest) := by
  have none := stops level (Nat.le_refl _)
  have chain (chains : level.Chains) : readRest source level tree rest = .ok (tree, rest) := by
    cases rest with
    | nil => exact readRest_nil source chains tree
    | cons token rest =>
      rw [readRest_cons source chains]
      cases stands : level.operator? token.kind with
      | none => rfl
      | some operator =>
        obtain ⟨rfl, sign, listed, is⟩ := Level.operator?_eq_some_iff.mp stands
        exact absurd (.binary listed is) none
  cases level with
  | or => exact chain (by decide)
  | and => exact chain (by decide)
  | sum => exact chain (by decide)
  | product => exact chain (by decide)
  | unary => rfl
  | atom => rfl
  | ternary =>
    cases taken : behindMark? .question rest with
    | none => rw [readRest, taken]
    | some _ =>
      obtain ⟨question, rfl, is⟩ := behindMark?_eq_some_iff.mp taken
      exact absurd (.ternary is) none
  | comparison =>
    cases taken : behindComparison? rest with
    | none => rw [readRest, taken]
    | some _ =>
      obtain ⟨token, rfl, is⟩ := behindComparison?_eq_some_iff.mp taken
      exact absurd (.compare is) none
  | suffix =>
    have noBracket : behindTightMark? .openBracket rest = Option.none :=
      behindTightMark?_eq_none fun _ _ split opens => none (split ▸ .bracket opens)
    have noParen : behindTightMark? .openParen rest = Option.none :=
      behindTightMark?_eq_none fun _ _ split opens => none (split ▸ .paren opens)
    have noMember : behindMember? rest = Option.none :=
      behindMember?_eq_none_iff.mpr fun starts => none (.member starts)
    rw [readRest_suffix, noBracket, noParen, noMember]

/-- No expression begins with a mark that ends one. -/
theorem readLevel_of_closes {token : Token} {sign : Mark} (is : token.Is sign)
    (closes : sign.Closes) (level : Level) (rest : List Token) :
    readLevel source level (token :: rest) = .error (invalidSource source) := by
  simp only [Mark.Closes, List.mem_cons, List.not_mem_nil, or_false] at closes
  have atom : readLevel source .atom (token :: rest) = .error (invalidSource source) := by
    rw [readLevel_atom_cons, show token.kind = .mark sign from is]
    rcases closes with rfl | rfl | rfl | rfl | rfl <;> rfl
  have suffix : readLevel source .suffix (token :: rest) = .error (invalidSource source) := by
    rw [readLevel_eq source (by decide) (by decide), Level.tighter, atom, Found.andThen_error]
  have unary : readLevel source .unary (token :: rest) = .error (invalidSource source) := by
    rw [readLevel_unary_cons, show token.kind = .mark sign from is]
    rcases closes with rfl | rfl | rfl | rfl | rfl <;> exact suffix
  cases level with
  | atom => exact atom
  | suffix => exact suffix
  | unary => exact unary
  | _ => simp [readLevel_eq, Level.tighter, unary]

theorem behindMark?_of_read {level : Level} {tokens : List Token} {read : Expr × List Token}
    (ok : readLevel source level tokens = .ok read) {sign : Mark} (closes : sign.Closes) :
    behindMark? sign tokens = none := by
  refine behindMark?_eq_none ?_
  rintro token rest rfl is
  rw [readLevel_of_closes source is closes] at ok
  cases ok

theorem readLevel_unary_of_suffix {tokens : List Token} {read : Expr × List Token}
    (ok : readLevel source .suffix tokens = .ok read) :
    readLevel source .unary tokens = .ok read := by
  cases tokens with
  | nil =>
    rw [readLevel_eq source (by decide) (by decide), Level.tighter, readLevel_atom_nil] at ok
    cases ok
  | cons token rest =>
    rw [readLevel_unary_cons]
    cases stands : unaryOperator? token.kind with
    | none => exact ok
    | some operator =>
      rw [readLevel_eq source (by decide) (by decide), Level.tighter, readLevel_atom_cons,
        unaryOperator?_eq_some_iff.mp stands] at ok
      cases operator <;> cases ok

theorem found_readItems_of_closes {token : Token} (is : token.Is .closeBracket) (opened : String)
    (rest : List Token) : found (readItems source opened (token :: rest)) = .ok ([], rest) := by
  rw [found_readItems, behindMark?_of_is is]

theorem found_readEntries_of_closes {token : Token} (is : token.Is .closeBrace) (opened : String)
    (literalKeys : Bool) (rest : List Token) :
    found (readEntries source opened literalKeys (token :: rest)) = .ok ([], rest) := by
  rw [found_readEntries, behindMark?_of_is is]

theorem readArguments_of_list {tokens : List Token} {read : List Expr × List Token}
    (ok : found (readArgumentList source tokens) = .ok read) :
    found (readArguments source tokens) = .ok read := by
  rw [found_readArguments]
  cases closes : behindMark? .closeParen tokens with
  | none => exact ok
  | some _ =>
    obtain ⟨token, rfl, is⟩ := behindMark?_eq_some_iff.mp closes
    rw [found_readArgumentList, readLevel_of_closes source is (by decide)] at ok
    cases ok

end Readers

/-! ### What each phrase comes to -/

/-- The levels at which expressions group to the left. -/
def Level.GroupsLeft (level : Level) : Prop :=
  level.Chains ∨ level = .suffix

instance (level : Level) : Decidable level.GroupsLeft :=
  inferInstanceAs (Decidable (level.Chains ∨ level = .suffix))

/-- The tokens are read as an expression of the level, as far as nothing goes on behind them. -/
structure ReadsExpr (source : List Char) (level : Level) (tokens : List Token) (tree : Expr) :
    Prop where
  whole : ∀ rest, level.Stops rest → readLevel source level (tokens ++ rest) = .ok (tree, rest)
  /-- Where expressions group to the left, this one can be the left part of a longer one. -/
  goesOn : level.GroupsLeft → ∀ rest, level.tighter.Stops rest →
    readLevel source level (tokens ++ rest) = readRest source level tree rest

/-- The tokens are read as the arguments of a call and as the items of a list. -/
structure ReadsSequence (source : List Char) (tokens : List Token) (trees : List Expr) :
    Prop where
  arguments : ∀ closing rest, closing.Is .closeParen →
    found (readArgumentList source (tokens ++ closing :: rest)) = .ok (trees, rest)
  items : ∀ opened (comma? : Option Token) closing rest, (∀ comma ∈ comma?, comma.Is .comma) →
    closing.Is .closeBracket →
    found (readItems source opened (tokens ++ (comma?.toList ++ closing :: rest))) =
      .ok (trees, rest)

/-- The tokens are read as either bound of a slice. -/
structure ReadsBound (source : List Char) (tokens : List Token) (tree : Option Expr) :
    Prop where
  first : ∀ target colon rest, colon.Is .colon →
    found (readSubscript source target (tokens ++ colon :: rest)) =
      (found (readSliceEnd source rest)).andThen fun last after => .ok (.slice target tree last, after)
  last : ∀ closing rest, closing.Is .closeBracket →
    found (readSliceEnd source (tokens ++ closing :: rest)) = .ok (tree, rest)

/-- The tokens are read as the key of an entry, and not taken for the end of a dictionary. -/
structure ReadsKey (source : List Char) (literal : Bool) (tokens : List Token) (tree : Expr) :
    Prop where
  whole : ∀ colon rest, colon.Is .colon →
    found (readKey source literal (tokens ++ colon :: rest)) = .ok (tree, colon :: rest)
  notClosing : ∀ colon rest, colon.Is .colon →
    behindMark? .closeBrace (tokens ++ colon :: rest) = none

def ReadsEntries (source : List Char) (literalKeys : Bool) (tokens : List Token)
    (entries : List (Expr × Expr)) : Prop :=
  ∀ opened (comma? : Option Token) closing rest, (∀ comma ∈ comma?, comma.Is .comma) →
    closing.Is .closeBrace →
    found (readEntries source opened literalKeys (tokens ++ (comma?.toList ++ closing :: rest))) =
      .ok (entries, rest)

section Cases

variable {source : List Char}

namespace ReadsExpr

variable {level : Level} {tokens : List Token} {tree : Expr}

theorem of_goesOn
    (goesOn : ∀ rest, level.tighter.Stops rest →
      readLevel source level (tokens ++ rest) = readRest source level tree rest) :
    ReadsExpr source level tokens tree where
  whole rest stops := by rw [goesOn rest stops.tighter, readRest_of_stops source stops]
  goesOn _ := goesOn

theorem of_tighter (tighter : ReadsExpr source level.tighter tokens tree) :
    ReadsExpr source level tokens tree := by
  by_cases isAtom : level = .atom
  · subst isAtom
    exact tighter
  -- A unary expression is told by its first token, so it has no rest to be read.
  by_cases isUnary : level = .unary
  · subst isUnary
    exact ⟨fun rest stops => readLevel_unary_of_suffix source (tighter.whole rest stops.tighter),
      fun groups => absurd groups (by decide)⟩
  · refine of_goesOn fun rest stops => ?_
    rw [readLevel_eq source isUnary isAtom, tighter.whole rest stops, Found.andThen_ok]

/-- What ends an expression does not begin one. -/
theorem not_closing (reads : ReadsExpr source level tokens tree) {closing : Token} {sign : Mark}
    (is : closing.Is sign) (ends : sign.Closes) {other : Mark} (closes : other.Closes)
    (rest : List Token) : behindMark? other (tokens ++ closing :: rest) = none :=
  behindMark?_of_read source
    (reads.whole (closing :: rest) (level.stops_of_closes is ends rest)) closes

theorem before_closing (reads : ReadsExpr source level tokens tree) {closing : Token}
    {sign : Mark} (is : closing.Is sign) (ends : sign.Closes) (rest : List Token) :
    readLevel source level (tokens ++ closing :: rest) = .ok (tree, closing :: rest) :=
  reads.whole (closing :: rest) (level.stops_of_closes is ends rest)

end ReadsExpr

theorem StartsMember.of_append {token : Token} {right rest : List Token}
    (starts : StartsMember (token :: (right ++ rest))) (nonempty : right ≠ []) :
    StartsMember (token :: right) := by
  obtain ⟨dot, name, key, behind, tokensEq, tight⟩ := starts
  cases right with
  | nil => contradiction
  | cons head right =>
    simp only [List.cons_append, List.cons.injEq] at tokensEq
    obtain ⟨rfl, rfl, rfl⟩ := tokensEq
    exact ⟨token, head, key, right, rfl, tight⟩

theorem readsExpr_ternary {condition yes no : List Token} {question colon : Token} {c y n : Expr}
    (readsCondition : ReadsExpr source .or condition c) (isQuestion : question.Is .question)
    (readsYes : ReadsExpr source .ternary yes y) (isColon : colon.Is .colon)
    (readsNo : ReadsExpr source .ternary no n) :
    ReadsExpr source .ternary (condition ++ question :: yes ++ colon :: no) (.ternary c y n) where
  whole rest stops := by
    simp only [List.append_assoc, List.cons_append]
    rw [readLevel_eq source (by decide) (by decide), Level.tighter,
      readsCondition.whole _ (Level.stops_of_question isQuestion _), Found.andThen_ok, readRest,
      behindMark?_of_is isQuestion]
    dsimp only
    rw [readsYes.before_closing isColon (by decide), Found.andThen_ok, behindMark?_of_is isColon]
    dsimp only
    rw [readsNo.whole rest stops, Found.andThen_ok]
  goesOn groups := absurd groups (by decide)

theorem readsExpr_binary {left right : List Token} {token : Token} {operator : BinaryOperator}
    {sign : Mark} {l r : Expr} (readsLeft : ReadsExpr source operator.level left l)
    (listed : sign ∈ operator.marks) (is : token.Is sign)
    (noMember : ¬ StartsMember (token :: right)) (nonempty : right ≠ [])
    (readsRight : ReadsExpr source operator.level.tighter right r) :
    ReadsExpr source operator.level (left ++ token :: right) (.binary operator l r) := by
  refine ReadsExpr.of_goesOn fun rest stops => ?_
  have stands : operator.level.operator? token.kind = some operator :=
    Level.operator?_eq_some_iff.mpr ⟨rfl, sign, listed, is⟩
  -- Were the dot that of a member, the left operand would take it and the name behind it.
  have stopsLeft : operator.level.tighter.Stops (token :: (right ++ rest)) :=
    Level.stops_of_operator listed is fun starts => noMember (starts.of_append nonempty)
  rw [List.append_assoc, List.cons_append,
    readsLeft.goesOn (.inl operator.chains_level) _ stopsLeft,
    readRest_cons source operator.chains_level, stands]
  dsimp only
  rw [readsRight.whole rest stops, Found.andThen_ok]

theorem readsExpr_compare {left right : List Token} {token : Token} {operator : Comparison}
    {case : CaseMode} {l r : Expr} (readsLeft : ReadsExpr source .sum left l)
    (is : token.kind = .compare operator case) (readsRight : ReadsExpr source .sum right r) :
    ReadsExpr source .comparison (left ++ token :: right) (.compare operator case l r) where
  whole rest stops := by
    rw [List.append_assoc, List.cons_append, readLevel_eq source (by decide) (by decide),
      Level.tighter, readsLeft.whole _ (Level.stops_of_compare is _), Found.andThen_ok, readRest,
      behindComparison?_eq_some_iff.mpr ⟨token, rfl, is⟩]
    dsimp only
    rw [readsRight.whole rest stops.tighter, Found.andThen_ok]
  goesOn groups := absurd groups (by decide)

theorem readsExpr_unary {token : Token} {operand : List Token} {operator : UnaryOperator}
    {x : Expr} (is : token.Is operator.mark) (reads : ReadsExpr source .unary operand x) :
    ReadsExpr source .unary (token :: operand) (.unary operator x) where
  whole rest stops := by
    rw [List.cons_append, readLevel_unary_cons, unaryOperator?_eq_some_iff.mpr is]
    dsimp only
    rw [reads.whole rest stops, Found.andThen_ok]
  goesOn groups := absurd groups (by decide)

section Postfix

variable {target : List Token} {t : Expr} {opening closing : Token}

/-- What a bracket opens is read as a subscript, and more may go on behind it. -/
theorem readsExpr_subscript {inside : List Token} {whole : Expr}
    (readsTarget : ReadsExpr source .suffix target t) (opens : opening.IsTight .openBracket)
    (subscript : ∀ rest, found (readSubscript source t (inside ++ rest)) = .ok (whole, rest)) :
    ReadsExpr source .suffix (target ++ opening :: inside) whole := by
  refine ReadsExpr.of_goesOn fun rest _ => ?_
  rw [List.append_assoc, List.cons_append,
    readsTarget.goesOn (.inr rfl) _ (Level.stops_atom _), readRest_suffix,
    behindTightMark?_of_isTight opens]
  dsimp only
  rw [subscript, Found.andThen_ok]

theorem readsExpr_index {position : List Token} {p : Expr}
    (readsTarget : ReadsExpr source .suffix target t) (opens : opening.IsTight .openBracket)
    (readsPosition : ReadsExpr source .ternary position p) (closes : closing.Is .closeBracket) :
    ReadsExpr source .suffix (target ++ opening :: position ++ [closing]) (.index t p) := by
  rw [List.append_assoc, List.cons_append]
  refine readsExpr_subscript readsTarget opens fun rest => ?_
  rw [List.append_assoc, List.singleton_append, found_readSubscript,
    readsPosition.not_closing closes (by decide) (by decide)]
  dsimp only
  rw [readsPosition.before_closing closes (by decide), Found.andThen_ok,
    behindMark?_of_is_other closes (by decide), behindMark?_of_is closes]

theorem readsExpr_slice {first last : List Token} {colon : Token} {f l : Option Expr}
    (readsTarget : ReadsExpr source .suffix target t) (opens : opening.IsTight .openBracket)
    (readsFirst : ReadsBound source first f) (isColon : colon.Is .colon)
    (readsLast : ReadsBound source last l) (closes : closing.Is .closeBracket) :
    ReadsExpr source .suffix (target ++ opening :: first ++ colon :: last ++ [closing])
      (.slice t f l) := by
  rw [List.append_assoc, List.append_assoc, List.cons_append, List.cons_append]
  refine readsExpr_subscript readsTarget opens fun rest => ?_
  rw [List.append_assoc, List.cons_append, List.append_assoc, List.singleton_append,
    readsFirst.first t colon _ isColon, readsLast.last closing rest closes, Found.andThen_ok]

/-- What a parenthesis opens is read as arguments, and more may go on behind it. -/
theorem readsExpr_arguments {inside : List Token} {items : List Expr}
    (readsTarget : ReadsExpr source .suffix target t) (opens : opening.IsTight .openParen)
    (arguments : ∀ rest, found (readArguments source (inside ++ rest)) = .ok (items, rest)) :
    ReadsExpr source .suffix (target ++ opening :: inside) (.call t items) := by
  refine ReadsExpr.of_goesOn fun rest _ => ?_
  rw [List.append_assoc, List.cons_append,
    readsTarget.goesOn (.inr rfl) _ (Level.stops_atom _), readRest_suffix,
    behindTightMark?_of_is_other opens.1 (by decide)]
  dsimp only
  rw [behindTightMark?_of_isTight opens]
  dsimp only
  rw [arguments, Found.andThen_ok]

theorem readsExpr_emptyCall (readsTarget : ReadsExpr source .suffix target t)
    (opens : opening.IsTight .openParen) (closes : closing.Is .closeParen) :
    ReadsExpr source .suffix (target ++ [opening, closing]) (.call t []) := by
  refine readsExpr_arguments readsTarget opens fun rest => ?_
  rw [List.singleton_append, found_readArguments, behindMark?_of_is closes]

theorem readsExpr_call {arguments : List Token} {items : List Expr}
    (readsTarget : ReadsExpr source .suffix target t) (opens : opening.IsTight .openParen)
    (readsArguments : ReadsSequence source arguments items) (closes : closing.Is .closeParen) :
    ReadsExpr source .suffix (target ++ opening :: arguments ++ [closing]) (.call t items) := by
  rw [List.append_assoc, List.cons_append]
  refine readsExpr_arguments readsTarget opens fun rest => ?_
  rw [List.append_assoc, List.singleton_append]
  exact readArguments_of_list source (readsArguments.arguments closing rest closes)

theorem readsExpr_member {dot name : Token} {key : String}
    (readsTarget : ReadsExpr source .suffix target t) (isDot : dot.IsTight .dot)
    (tight : name.spaced = false) (names : name.kind.NamesMember key) :
    ReadsExpr source .suffix (target ++ [dot, name]) (.member t key) := by
  refine ReadsExpr.of_goesOn fun rest _ => ?_
  have member : behindMember? (dot :: name :: rest) = some (key, rest) :=
    behindMember?_eq_some_iff.mpr ⟨dot, name, rfl, isDot, tight, names⟩
  simp only [List.append_assoc, List.cons_append, List.nil_append]
  rw [readsTarget.goesOn (.inr rfl) _ (Level.stops_atom _), readRest_suffix,
    behindTightMark?_of_is_other isDot.1 (by decide)]
  dsimp only
  rw [behindTightMark?_of_is_other isDot.1 (by decide)]
  dsimp only
  rw [member]

end Postfix

section Atom

variable {opening closing : Token}

/-- What an atom takes does not depend on what comes behind it. -/
theorem readsExpr_atom {tokens : List Token} {tree : Expr}
    (reads : ∀ rest, readLevel source .atom (tokens ++ rest) = .ok (tree, rest)) :
    ReadsExpr source .atom tokens tree :=
  ⟨fun rest _ => reads rest, fun groups => absurd groups (by decide)⟩

theorem readsExpr_literal {token : Token} {tree : Expr} (denotes : token.kind.Denotes tree) :
    ReadsExpr source .atom [token] tree := by
  refine readsExpr_atom fun rest => ?_
  rw [List.singleton_append, readLevel_atom_cons, simpleAtom?_eq_some_iff.mpr denotes]

theorem readsExpr_parens {inside : List Token} {tree : Expr} (opens : opening.Is .openParen)
    (reads : ReadsExpr source .ternary inside tree) (closes : closing.Is .closeParen) :
    ReadsExpr source .atom (opening :: inside ++ [closing]) tree := by
  refine readsExpr_atom fun rest => ?_
  simp only [List.append_assoc, List.cons_append, List.nil_append]
  rw [readLevel_atom_cons, show opening.kind = _ from opens]
  dsimp only [simpleAtom?]
  rw [reads.before_closing closes (by decide), Found.andThen_ok, behindMark?_of_is closes]

theorem readsExpr_list {inside : List Token} {items : List Expr} (opens : opening.Is .openBracket)
    (reads : ∀ opened rest, found (readItems source opened (inside ++ rest)) = .ok (items, rest)) :
    ReadsExpr source .atom (opening :: inside) (.list items) := by
  refine readsExpr_atom fun rest => ?_
  rw [List.cons_append, readLevel_atom_cons, show opening.kind = _ from opens]
  dsimp only [simpleAtom?]
  rw [reads, Found.andThen_ok]

theorem readsExpr_dict {inside : List Token} {literalKeys : Bool} {entries : List (Expr × Expr)}
    (opens : opening.Is (openingBrace literalKeys))
    (reads : ∀ opened rest,
      found (readEntries source opened literalKeys (inside ++ rest)) = .ok (entries, rest)) :
    ReadsExpr source .atom (opening :: inside) (.dict entries) := by
  refine readsExpr_atom fun rest => ?_
  rw [List.cons_append, readLevel_atom_cons, show opening.kind = _ from opens]
  cases literalKeys with
  | false =>
    rw [show openingBrace false = .openBrace from rfl]
    dsimp only [simpleAtom?]
    rw [reads, Found.andThen_ok]
  | true =>
    rw [show openingBrace true = .openLiteralBrace from rfl]
    dsimp only [simpleAtom?]
    rw [reads, Found.andThen_ok]

end Atom

theorem readsSequence_one {tokens : List Token} {tree : Expr}
    (reads : ReadsExpr source .ternary tokens tree) : ReadsSequence source tokens [tree] where
  arguments closing rest closes := by
    rw [found_readArgumentList, reads.before_closing closes (by decide), Found.andThen_ok,
      behindMark?_of_is closes]
  items opened comma? closing rest commas closes := by
    cases comma? with
    | none =>
      rw [Option.toList_none, List.nil_append, found_readItems,
        reads.not_closing closes (by decide) (by decide)]
      dsimp only
      rw [if_neg (by simp), reads.before_closing closes (by decide), Found.andThen_ok,
        behindMark?_of_is_other closes (by decide)]
      dsimp only
      rw [behindMark?_of_is closes]
    | some comma =>
      have isComma := commas comma rfl
      rw [Option.toList_some, List.singleton_append, found_readItems,
        reads.not_closing isComma (by decide) (by decide)]
      dsimp only
      rw [if_neg (by simp), reads.before_closing isComma (by decide), Found.andThen_ok,
        behindMark?_of_is isComma]
      dsimp only
      rw [found_readItems_of_closes source closes, Found.andThen_ok]

theorem readsSequence_more {tokens rest : List Token} {comma : Token} {tree : Expr}
    {trees : List Expr} (reads : ReadsExpr source .ternary tokens tree) (isComma : comma.Is .comma)
    (others : ReadsSequence source rest trees) :
    ReadsSequence source (tokens ++ comma :: rest) (tree :: trees) where
  arguments closing behind closes := by
    rw [List.append_assoc, List.cons_append, found_readArgumentList,
      reads.before_closing isComma (by decide), Found.andThen_ok,
      behindMark?_of_is_other isComma (by decide)]
    dsimp only
    rw [behindMark?_of_is isComma]
    dsimp only
    rw [others.arguments closing behind closes, Found.andThen_ok]
  items opened comma? closing behind commas closes := by
    rw [List.append_assoc, List.cons_append, found_readItems,
      reads.not_closing isComma (by decide) (by decide)]
    dsimp only
    rw [if_neg (by simp), reads.before_closing isComma (by decide), Found.andThen_ok,
      behindMark?_of_is isComma]
    dsimp only
    rw [others.items opened comma? closing behind commas closes, Found.andThen_ok]

theorem readsBound_none : ReadsBound source [] none where
  first target colon rest isColon := by
    rw [List.nil_append, found_readSubscript, behindMark?_of_is isColon]
  last closing rest closes := by
    rw [List.nil_append, found_readSliceEnd, behindMark?_of_is closes]

theorem readsBound_some {tokens : List Token} {tree : Expr}
    (reads : ReadsExpr source .ternary tokens tree) : ReadsBound source tokens (some tree) where
  first target colon rest isColon := by
    rw [found_readSubscript, reads.not_closing isColon (by decide) (by decide)]
    dsimp only
    rw [reads.before_closing isColon (by decide), Found.andThen_ok, behindMark?_of_is isColon]
  last closing rest closes := by
    rw [found_readSliceEnd, reads.not_closing closes (by decide) (by decide)]
    dsimp only
    rw [reads.before_closing closes (by decide), Found.andThen_ok, behindMark?_of_is closes]

theorem readsKey_expr {tokens : List Token} {tree : Expr}
    (reads : ReadsExpr source .ternary tokens tree) : ReadsKey source false tokens tree where
  whole colon rest isColon := by
    rw [found_readKey_expr, reads.before_closing isColon (by decide)]
  notClosing colon rest isColon := reads.not_closing isColon (by decide) (by decide) rest

theorem readsKey_literal {token : Token} {name : String} (isKey : token.kind.IsKey name) :
    ReadsKey source true [token] (.str name) where
  whole colon rest _ := by
    rw [List.singleton_append, found_readKey_literal]
    dsimp only
    rw [literalKey?_eq_some_iff.mpr isKey]
  notClosing colon rest _ := by
    refine behindMark?_eq_none ?_
    rintro _ _ ⟨⟩ is
    rw [show token.kind = _ from is] at isKey
    rcases isKey with ⟨⟨⟩⟩

theorem readsEntries_one {key value : List Token} {colon : Token} {literalKeys : Bool}
    {k v : Expr} (readsKey : ReadsKey source literalKeys key k) (isColon : colon.Is .colon)
    (readsValue : ReadsExpr source .ternary value v) :
    ReadsEntries source literalKeys (key ++ colon :: value) [(k, v)] := by
  intro opened comma? closing rest commas closes
  rw [List.append_assoc, List.cons_append, found_readEntries, readsKey.notClosing colon _ isColon]
  dsimp only
  rw [if_neg (by simp), readsKey.whole colon _ isColon, Found.andThen_ok,
    behindMark?_of_is isColon]
  dsimp only
  cases comma? with
  | none =>
    rw [Option.toList_none, List.nil_append, readsValue.before_closing closes (by decide),
      Found.andThen_ok, behindMark?_of_is_other closes (by decide)]
    dsimp only
    rw [behindMark?_of_is closes]
  | some comma =>
    have isComma := commas comma rfl
    rw [Option.toList_some, List.singleton_append, readsValue.before_closing isComma (by decide),
      Found.andThen_ok, behindMark?_of_is isComma]
    dsimp only
    rw [found_readEntries_of_closes source closes, Found.andThen_ok]

theorem readsEntries_more {key value rest : List Token} {colon comma : Token} {literalKeys : Bool}
    {k v : Expr} {entries : List (Expr × Expr)} (readsKey : ReadsKey source literalKeys key k)
    (isColon : colon.Is .colon) (readsValue : ReadsExpr source .ternary value v)
    (isComma : comma.Is .comma) (others : ReadsEntries source literalKeys rest entries) :
    ReadsEntries source literalKeys (key ++ colon :: value ++ comma :: rest) ((k, v) :: entries) := by
  intro opened comma? closing behind commas closes
  rw [List.append_assoc, List.append_assoc, List.cons_append, List.cons_append, found_readEntries,
    readsKey.notClosing colon _ isColon]
  dsimp only
  rw [if_neg (by simp), readsKey.whole colon _ isColon, Found.andThen_ok,
    behindMark?_of_is isColon]
  dsimp only
  rw [readsValue.before_closing isComma (by decide), Found.andThen_ok, behindMark?_of_is isComma]
  dsimp only
  rw [others opened comma? closing behind commas closes, Found.andThen_ok]

end Cases

/-- What a phrase is read as. -/
def Reads (source : List Char) (phrase : Phrase) (tokens : List Token) (tree : phrase.Tree) : Prop :=
  match phrase, tree with
  | .expr level, tree => ReadsExpr source level tokens tree
  | .sequence, trees => ReadsSequence source tokens trees
  | .bound, tree => ReadsBound source tokens tree
  | .key literal, tree => ReadsKey source literal tokens tree
  | .entries literalKeys, entries => ReadsEntries source literalKeys tokens entries

theorem Derives.reads (source : List Char) {phrase : Phrase} {tokens : List Token}
    {tree : phrase.Tree} (derives : Derives phrase tokens tree) : Reads source phrase tokens tree := by
  induction derives with
  | tighter _ reads => exact reads.of_tighter
  | ternary _ isQuestion _ isColon _ condition yes no =>
    exact readsExpr_ternary condition isQuestion yes isColon no
  | binary _ listed is noMember derivesRight left right =>
    exact readsExpr_binary left listed is noMember (derivesRight.ne_nil (by simp)) right
  | compare _ is _ left right => exact readsExpr_compare left is right
  | unary is _ operand => exact readsExpr_unary is operand
  | index _ opens _ closes target position => exact readsExpr_index target opens position closes
  | slice _ opens _ isColon _ closes target first last =>
    exact readsExpr_slice target opens first isColon last closes
  | emptyCall _ opens closes target => exact readsExpr_emptyCall target opens closes
  | call _ opens _ closes target arguments => exact readsExpr_call target opens arguments closes
  | member _ isDot tight names target => exact readsExpr_member target isDot tight names
  | literal denotes => exact readsExpr_literal denotes
  | parens opens _ closes inside => exact readsExpr_parens opens inside closes
  | emptyList opens closes =>
    exact readsExpr_list opens fun opened rest => found_readItems_of_closes source closes opened rest
  | list opens _ commas closes inside =>
    show ReadsExpr source .atom (_ :: (_ ++ _ ++ [_])) _
    refine readsExpr_list opens fun opened rest => ?_
    rw [List.append_assoc, List.append_assoc, List.singleton_append]
    exact inside.items opened _ _ rest commas closes
  | emptyDict opens closes =>
    exact readsExpr_dict opens fun opened rest =>
      found_readEntries_of_closes source closes opened _ rest
  | dict opens _ commas closes inside =>
    show ReadsExpr source .atom (_ :: (_ ++ _ ++ [_])) _
    refine readsExpr_dict opens fun opened rest => ?_
    rw [List.append_assoc, List.append_assoc, List.singleton_append]
    exact inside opened _ _ rest commas closes
  | one _ reads => exact readsSequence_one reads
  | more _ isComma _ reads others => exact readsSequence_more reads isComma others
  | noBound => exact readsBound_none
  | bound _ reads => exact readsBound_some reads
  | key _ reads => exact readsKey_expr reads
  | literalKey isKey => exact readsKey_literal isKey
  | entry _ isColon _ key value => exact readsEntries_one key isColon value
  | moreEntries _ isColon _ isComma _ key value others =>
    exact readsEntries_more key isColon value isComma others

/-! ### The grammar and nothing else

The reader of expressions accepts the grammar and nothing else, and the grammar gives each expression
one tree.
-/

theorem Expr.ofTokens_eq (source : List Char) (tokens : List Token) :
    Expr.ofTokens source tokens =
      match readLevel source .ternary tokens with
      | .error error => .error error
      | .ok (expr, rest) =>
        if rest.isEmpty then .ok expr
        else .error (.trailingCharacters (restOfSource source rest)) := by
  unfold Expr.ofTokens readLevel
  cases readTernary source tokens <;> rfl

theorem Expr.ofTokens_eq_ok_iff (source : List Char) (tokens : List Token) (tree : Expr) :
    Expr.ofTokens source tokens = .ok tree ↔ Derives (.expr .ternary) tokens tree := by
  rw [Expr.ofTokens_eq]
  constructor
  · intro accepted
    have sound := soundAt source .ternary tokens
    unfold SoundAt at sound
    revert sound accepted
    match readLevel source .ternary tokens with
    | .error error => exact fun accepted => nomatch accepted
    | .ok (found, rest) =>
      rintro accepted ⟨⟨taken, rfl, derives⟩, _⟩
      cases rest with
      | nil =>
        cases accepted
        simpa using derives
      | cons token rest => cases accepted
  · intro derives
    have reads : ReadsExpr source .ternary tokens tree := derives.reads source
    have whole := reads.whole [] (Level.stops_nil _)
    rw [List.append_nil] at whole
    rw [whole]
    rfl

/-- The grammar is unambiguous: a reader gives one tree only. -/
theorem Derives.unique {tokens : List Token} {tree other : Expr}
    (derives : Derives (.expr .ternary) tokens tree)
    (derivesOther : Derives (.expr .ternary) tokens other) : tree = other := by
  have read := (Expr.ofTokens_eq_ok_iff [] tokens tree).mpr derives
  have readOther := (Expr.ofTokens_eq_ok_iff [] tokens other).mpr derivesOther
  exact Except.ok.inj (read.symm.trans readOther)

theorem Expr.isSyntax_of_ofTokens {source : List Char} {tokens : List Token} {error : ScriptError}
    (refused : Expr.ofTokens source tokens = .error error) : error.IsSyntax := by
  rw [Expr.ofTokens_eq] at refused
  have sound := soundAt source .ternary tokens
  unfold SoundAt at sound
  revert sound refused
  match readLevel source .ternary tokens with
  | .error error =>
    rintro ⟨⟩ isSyntax
    exact isSyntax
  | .ok (found, rest) =>
    intro refused _
    dsimp only at refused
    split at refused <;> cases refused
    exact ⟨"E488", by decide, rfl⟩

theorem Expr.parse_eq_ok_iff (source : List Char) (tree : Expr) :
    Expr.parse source = .ok tree ↔
      ∃ tokens, tokenize source = .ok tokens ∧ Derives (.expr .ternary) tokens tree := by
  simp only [Expr.parse, ← Expr.ofTokens_eq_ok_iff source]
  cases tokenize source with
  | error error => simp [bind, Except.bind]
  | ok tokens => simp [bind, Except.bind]

/-- Tokens are accepted with a tree just where they derive it, and no tokens derive two. What is refused
has a number of `ScriptError.syntaxCodes`. -/
theorem Expr.accepts_just_derived (source : List Char) :
    (∀ tokens tree,
      Expr.ofTokens source tokens = .ok tree ↔ Derives (.expr .ternary) tokens tree) ∧
    (∀ tokens tree other, Derives (.expr .ternary) tokens tree →
      Derives (.expr .ternary) tokens other → tree = other) ∧
    (∀ tokens error, Expr.ofTokens source tokens = .error error →
      ∃ code ∈ ["E15", "E110", "E111", "E488", "E697", "E720", "E723"], error.code? = some code) ∧
    ∀ tree, Expr.parse source = .ok tree ↔
      ∃ tokens, tokenize source = .ok tokens ∧ Derives (.expr .ternary) tokens tree :=
  ⟨Expr.ofTokens_eq_ok_iff source, fun _ _ _ => Derives.unique,
    fun _ _ => Expr.isSyntax_of_ofTokens, Expr.parse_eq_ok_iff source⟩

/-- The tokens of `1-2-3` group to the left, and no other way. -/
theorem Expr.accepts_just_derived_subtraction :
    let tokens := [⟨.number 1, 0, false⟩, ⟨.mark .minus, 1, false⟩, ⟨.number 2, 2, false⟩,
      ⟨.mark .minus, 3, false⟩, ⟨.number 3, 4, false⟩]
    Expr.ofTokens [] tokens =
        .ok (.binary .subtract (.binary .subtract (.number 1) (.number 2)) (.number 3)) ∧
      ¬ Derives (.expr .ternary) tokens
        (.binary .subtract (.number 1) (.binary .subtract (.number 2) (.number 3))) := by
  intro tokens
  have number (value : Int64) (start : Nat) :
      Derives (.expr .product) [⟨.number value, start, false⟩] (.number value) :=
    .tighter (.tighter (.tighter (.literal (.number value))))
  have subtract {left right : List Token} {l r : Expr} (start : Nat)
      (derivesLeft : Derives (.expr .sum) left l) (derivesRight : Derives (.expr .product) right r) :
      Derives (.expr .sum) (left ++ ⟨.mark .minus, start, false⟩ :: right)
        (.binary .subtract l r) := by
    refine @Derives.binary _ _ _ .subtract .minus _ _ derivesLeft (by decide) rfl ?_ derivesRight
    rintro ⟨dot, _, _, _, tokensEq, isDot, _⟩
    cases tokensEq
    cases isDot.1
  have derives : Derives (.expr .ternary) tokens
      (.binary .subtract (.binary .subtract (.number 1) (.number 2)) (.number 3)) :=
    .loosest (subtract 3 (subtract 1 (.tighter (number 1 0)) (number 2 2)) (number 3 4))
  refine ⟨((Expr.accepts_just_derived []).1 tokens _).mpr derives, fun other => ?_⟩
  have same := (Expr.accepts_just_derived []).2.1 tokens _ _ derives other
  simp at same

end ModalEdit.Script

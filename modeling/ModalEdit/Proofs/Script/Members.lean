import ModalEdit.Proofs.Script.Complete
import ModalEdit.Proofs.Script.Naming
import ModalEdit.Proofs.Script.Operands
import ModalEdit.Script.Eval

/-!
Members of values that are no dictionary. A dot and a name without a blank between them and what they follow
belong to the operand right in front of them, and join it to the variable of that name; a dot between
blanks joins all of the sum in front of it to all of the product behind it.
-/

set_option autoImplicit false

namespace ModalEdit.Script

/-! ### Phrases further on -/

section Later

variable (count : Nat)

theorem StartsMember.of_later {tokens : List Token} (starts : StartsMember (tokens.map (·.later count))) :
    StartsMember tokens := by
  obtain ⟨dot, name, key, rest, split, isDot, tight, names⟩ := starts
  match tokens, split with
  | first :: second :: behind, split =>
    cases split
    exact ⟨first, second, key, behind, rfl, isDot, tight, names⟩

/-- Where tokens stand is no part of what they are. -/
theorem Derives.later {phrase : Phrase} {tokens : List Token} {tree : phrase.Tree}
    (derives : Derives phrase tokens tree) : Derives phrase (tokens.map (·.later count)) tree := by
  have commas (comma? : Option Token) : comma?.toList.map (·.later count) =
      (comma?.map (·.later count)).toList := by
    cases comma? <;> rfl
  have isComma {comma? : Option Token} (commas : ∀ comma ∈ comma?, comma.Is .comma) :
      ∀ comma ∈ comma?.map (·.later count), comma.Is .comma := by
    intro comma member
    obtain ⟨before, listed, rfl⟩ := Option.mem_map.mp member
    exact commas before listed
  induction derives <;> try simp only [List.map_append, List.map_cons, List.map_nil, commas]
  case tighter ih => exact .tighter ih
  case ternary question _ colon _ ihCondition ihYes ihNo =>
    exact .ternary ihCondition question ihYes colon ihNo
  case binary listed is apart _ ihLeft ihRight =>
    refine .binary ihLeft listed is (fun starts => apart (StartsMember.of_later count ?_)) ihRight
    exact starts
  case compare is _ ihLeft ihRight => exact .compare ihLeft is ihRight
  case unary is _ ih => exact .unary is ih
  case index opens _ closes ihTarget ihPosition => exact .index ihTarget opens ihPosition closes
  case slice opens _ colon _ closes ihTarget ihFirst ihLast =>
    exact .slice ihTarget opens ihFirst colon ihLast closes
  case emptyCall opens closes ih => exact .emptyCall ih opens closes
  case call opens _ closes ihTarget ihArguments => exact .call ihTarget opens ihArguments closes
  case member dot tight names ih => exact .member ih dot tight names
  case literal denotes => exact .literal denotes
  case parens opens _ closes ih => exact .parens opens ih closes
  case emptyList opens closes => exact .emptyList opens closes
  case list opens _ commas closes ih => exact .list opens ih (isComma commas) closes
  case emptyDict opens closes => exact .emptyDict opens closes
  case dict opens _ commas closes ih => exact .dict opens ih (isComma commas) closes
  case one ih => exact .one ih
  case more comma _ ihOne ihMore => exact .more ihOne comma ihMore
  case noBound => exact .noBound
  case bound ih => exact .bound ih
  case key ih => exact .key ih
  case literalKey isKey => exact .literalKey isKey
  case entry colon _ ihKey ihValue => exact .entry ihKey colon ihValue
  case moreEntries colon _ comma _ ihKey ihValue ihMore =>
    exact .moreEntries ihKey colon ihValue comma ihMore

/-- Neither is a blank in front of the first one. -/
theorem Derives.again {phrase : Phrase} {tokens : List Token} {tree : phrase.Tree}
    (derives : Derives phrase tokens tree) {first other : Token} {rest : List Token}
    (isTokens : tokens = first :: rest) (same : other.kind = first.kind) :
    Derives phrase (other :: rest) tree := by
  induction derives generalizing rest with
  | tighter _ ih => exact .tighter (ih isTokens)
  -- What comes first in a phrase of several parts is not empty, so it is what begins with the token.
  | ternary condition question yes colon no ih _ _ =>
    rw [List.append_assoc] at isTokens
    obtain ⟨others, rfl, rfl⟩ := condition.exists_of_append (Phrase.expr_ne_bound _) isTokens
    simpa using Derives.ternary (ih rfl) question yes colon no
  | binary left listed is apart right ih _ =>
    obtain ⟨others, rfl, rfl⟩ := left.exists_of_append (Phrase.expr_ne_bound _) isTokens
    exact .binary (ih rfl) listed is apart right
  | compare left is right ih _ =>
    obtain ⟨others, rfl, rfl⟩ := left.exists_of_append (Phrase.expr_ne_bound _) isTokens
    exact .compare (ih rfl) is right
  | unary is operand _ =>
    cases isTokens
    exact .unary (same.trans is) operand
  | index target opens position closes ih _ =>
    rw [List.append_assoc] at isTokens
    obtain ⟨others, rfl, rfl⟩ := target.exists_of_append (Phrase.expr_ne_bound _) isTokens
    simpa using Derives.index (ih rfl) opens position closes
  | slice target opens first colon last closes ih _ _ =>
    simp only [List.append_assoc] at isTokens
    obtain ⟨others, rfl, rfl⟩ := target.exists_of_append (Phrase.expr_ne_bound _) isTokens
    simpa using Derives.slice (ih rfl) opens first colon last closes
  | emptyCall target opens closes ih =>
    obtain ⟨others, rfl, rfl⟩ := target.exists_of_append (Phrase.expr_ne_bound _) isTokens
    exact .emptyCall (ih rfl) opens closes
  | call target opens arguments closes ih _ =>
    rw [List.append_assoc] at isTokens
    obtain ⟨others, rfl, rfl⟩ := target.exists_of_append (Phrase.expr_ne_bound _) isTokens
    simpa using Derives.call (ih rfl) opens arguments closes
  | member target dot tight names ih =>
    obtain ⟨others, rfl, rfl⟩ := target.exists_of_append (Phrase.expr_ne_bound _) isTokens
    exact .member (ih rfl) dot tight names
  | literal denotes =>
    cases isTokens
    exact .literal (same ▸ denotes)
  | parens opens inside closes _ =>
    cases isTokens
    exact .parens (same.trans opens) inside closes
  | emptyList opens closes =>
    cases isTokens
    exact .emptyList (same.trans opens) closes
  | list opens inside commas closes _ =>
    cases isTokens
    exact .list (same.trans opens) inside commas closes
  | emptyDict opens closes =>
    cases isTokens
    exact .emptyDict (same.trans opens) closes
  | dict opens inside commas closes _ =>
    cases isTokens
    exact .dict (same.trans opens) inside commas closes
  | one _ ih => exact .one (ih isTokens)
  | more one comma more ih _ =>
    obtain ⟨others, rfl, rfl⟩ := one.exists_of_append (Phrase.expr_ne_bound _) isTokens
    exact .more (ih rfl) comma more
  | noBound => cases isTokens
  | bound _ ih => exact .bound (ih isTokens)
  | key _ ih => exact .key (ih isTokens)
  | literalKey isKey =>
    cases isTokens
    exact .literalKey (same ▸ isKey)
  | entry key colon value ih _ =>
    obtain ⟨others, rfl, rfl⟩ := key.exists_of_append nofun isTokens
    exact .entry (ih rfl) colon value
  | moreEntries key colon value comma more ih _ _ =>
    rw [List.append_assoc] at isTokens
    obtain ⟨others, rfl, rfl⟩ := key.exists_of_append nofun isTokens
    simpa using Derives.moreEntries (ih rfl) colon value comma more

theorem Suffixes.later {tokens : List Token} {suffixes : List Suffix}
    (suffixed : Suffixes tokens suffixes) : Suffixes (tokens.map (·.later count)) suffixes := by
  induction suffixed <;> simp only [List.map_append, List.map_cons, List.map_nil]
  case none => exact .none
  case index opens position closes ih => exact .index ih opens (position.later count) closes
  case slice opens first colon last closes ih =>
    exact .slice ih opens (first.later count) colon (last.later count) closes
  case emptyCall opens closes ih => exact .emptyCall ih opens closes
  case call opens arguments closes ih => exact .call ih opens (arguments.later count) closes
  case member dot tight names ih => exact .member ih dot tight names

theorem Factors.later {tokens : List Token} {factors : List (BinaryOperator × Expr)}
    (factored : Factors tokens factors) : Factors (tokens.map (·.later count)) factors := by
  induction factored <;> simp only [List.map_append, List.map_cons, List.map_nil]
  case none => exact .none
  case factor product listed is right ih => exact .factor ih product listed is (right.later count)

end Later

/-! ### Regrouping -/

section Regrouping

variable {tokens : List Token} {name : Token} {more : List Token} {left right : Expr}

/-- A sum and a product behind it, of which the first operand has gone to the last operand of the sum. -/
def LastOperand.joined (last : LastOperand tokens left) (first : FirstName name more right)
    (inner : Expr) : Expr :=
  .behind last.term?
    ((Expr.behind last.factor? ((inner.withSuffixes first.suffixes).withSigns last.signs)).withFactors
      first.factors)

/-- Behind a sum a tight dot and a name are a member of its last operand. -/
theorem LastOperand.derives_joined (last : LastOperand tokens left)
    (first : FirstName name more right) {dot : Token} (isDot : dot.IsTight .dot)
    (tight : name.spaced = false) (count : Nat) :
    Derives (.expr .sum) (tokens ++ dot :: (name :: more).map (·.later count))
      (last.joined first (.member last.operand first.key)) := by
  have nonempty : last.operandTokens ≠ [] := last.derives.ne_nil nofun
  have member : Derives (.expr .suffix) (last.operandTokens ++ [dot, name.later count])
      (.member last.operand first.key) := .member last.derives isDot tight first.names
  have signed := last.signed.derives (.tighter ((first.suffixed.later count).derives member))
  have product := last.factor.derives (by simp [nonempty]) (dot :: name.later count :: _)
    (by simpa [Level.tighter] using signed)
  have factored := (first.factored.later count).derives product
  have sum := last.term.derives (by simp [nonempty]) (dot :: name.later count :: _)
    (by simpa [Level.tighter] using factored)
  have whole : tokens ++ dot :: (name :: more).map (·.later count) =
      last.termTokens ++ (last.factorTokens ++ (last.signTokens ++ last.operandTokens) ++
        dot :: name.later count ::
          (first.suffixTokens.map (·.later count) ++ first.factorTokens.map (·.later count))) := by
    simp [last.isTokens, first.isTokens]
  rw [whole]
  exact sum

/-- It does not matter whether a blank comes before the name. -/
theorem FirstName.derives_again (first : FirstName name more right) (other : Token)
    (same : other.kind = name.kind) (count : Nat) :
    Derives (.expr .product) (other :: more.map (·.later count)) right := by
  obtain ⟨key, x, suffixes, factors, suffixTokens, factorTokens, rfl, rfl, -, denotes, suffixed,
    factored⟩ := first
  rw [← same] at denotes
  have target := (suffixed.later count).derives (.tighter (.literal denotes))
  simpa using (factored.later count).derives (.tighter (.tighter target))

end Regrouping

/-! ### Values -/

section Values

variable {environment : Environment} {x y : Expr}

/-- The expression has a value, and it is no dictionary. -/
def Expr.IsPlain (environment : Environment) (x : Expr) : Prop :=
  ∃ value, x.eval environment = .ok value ∧ value.type ≠ .dict

theorem type_ne_dict_of_unary {operator : UnaryOperator} {operand value : Value}
    (applied : operator.apply operand = .ok value) : operand.type ≠ .dict := by
  cases operand with
  | dict entries => cases operator <;> cases applied
  | _ => nofun

theorem type_ne_dict_of_binary {operator : BinaryOperator} {l r value : Value}
    (notAnd : operator ≠ .and) (notOr : operator ≠ .or)
    (applied : operator.apply l r = .ok value) : r.type ≠ .dict := by
  cases r with
  | dict entries =>
    cases operator with
    | and => exact absurd rfl notAnd
    | or => exact absurd rfl notOr
    | _ => cases l <;> cases applied
  | _ => nofun

theorem Expr.eval_unary (operator : UnaryOperator) (operand : Expr) :
    (Expr.unary operator operand).eval environment = (operand.eval environment).bind operator.apply :=
  rfl

theorem Expr.eval_binary {operator : BinaryOperator} (notAnd : operator ≠ .and) (notOr : operator ≠ .or)
    (left right : Expr) :
    (Expr.binary operator left right).eval environment =
      (left.eval environment).bind fun l => (right.eval environment).bind (operator.apply l) := by
  cases operator with
  | and => exact absurd rfl notAnd
  | or => exact absurd rfl notOr
  | _ => rfl

theorem Expr.IsPlain.of_unary {operator : UnaryOperator}
    (plain : (Expr.unary operator x).IsPlain environment) : x.IsPlain environment := by
  obtain ⟨value, evaluates, -⟩ := plain
  rw [Expr.eval_unary] at evaluates
  cases operand : x.eval environment with
  | error error =>
    rw [operand] at evaluates
    cases evaluates
  | ok found =>
    rw [operand] at evaluates
    exact ⟨found, operand, type_ne_dict_of_unary evaluates⟩

theorem Expr.IsPlain.of_binary {operator : BinaryOperator} {left : Expr} (notAnd : operator ≠ .and)
    (notOr : operator ≠ .or) (plain : (Expr.binary operator left x).IsPlain environment) :
    x.IsPlain environment := by
  obtain ⟨value, evaluates, -⟩ := plain
  rw [Expr.eval_binary notAnd notOr] at evaluates
  cases isLeft : left.eval environment with
  | error error =>
    rw [isLeft] at evaluates
    cases evaluates
  | ok l =>
    cases isRight : x.eval environment with
    | error error =>
      rw [isLeft, isRight] at evaluates
      cases evaluates
    | ok r =>
      rw [isLeft, isRight] at evaluates
      exact ⟨r, isRight, type_ne_dict_of_binary notAnd notOr evaluates⟩

theorem Expr.IsPlain.of_withSigns {signs : List UnaryOperator}
    (plain : (x.withSigns signs).IsPlain environment) : x.IsPlain environment := by
  induction signs with
  | nil => exact plain
  | cons operator signs ih => exact ih (of_unary plain)

theorem BinaryOperator.ne_of_level {operator : BinaryOperator}
    (arithmetic : operator.level = .sum ∨ operator.level = .product) :
    operator ≠ .and ∧ operator ≠ .or := by
  cases operator <;> simp [BinaryOperator.level] at arithmetic ⊢

theorem Before.arithmetic {level : Level} {tokens next : List Token}
    {left? : Option (BinaryOperator × Expr)} (before : Before level tokens left? next)
    (isLevel : level = .sum ∨ level = .product) :
    ∀ left ∈ left?, left.1 ≠ .and ∧ left.1 ≠ .or := by
  cases before with
  | none => nofun
  | some =>
    rintro _ ⟨⟩
    exact BinaryOperator.ne_of_level isLevel

theorem Factors.arithmetic {tokens : List Token} {factors : List (BinaryOperator × Expr)}
    (factored : Factors tokens factors) : ∀ factor ∈ factors, factor.1 ≠ .and ∧ factor.1 ≠ .or := by
  induction factored with
  | none => nofun
  | factor _ product _ _ _ ih =>
    intro factor member
    rcases List.mem_append.mp member with before | last
    · exact ih factor before
    · rw [List.mem_singleton.mp last]
      exact BinaryOperator.ne_of_level (.inr product)

theorem Expr.IsPlain.of_behind {left? : Option (BinaryOperator × Expr)}
    (arithmetic : ∀ left ∈ left?, left.1 ≠ .and ∧ left.1 ≠ .or)
    (plain : (Expr.behind left? x).IsPlain environment) : x.IsPlain environment := by
  cases left? with
  | none => exact plain
  | some left =>
    obtain ⟨notAnd, notOr⟩ := arithmetic left rfl
    exact of_binary notAnd notOr plain

/-- Only its last operand, if any, can make a sum a dictionary. -/
theorem LastOperand.isPlain {tokens : List Token} {left : Expr} (last : LastOperand tokens left)
    (plain : left.IsPlain environment) : last.operand.IsPlain environment := by
  rw [last.isTree] at plain
  exact ((plain.of_behind (last.term.arithmetic (.inl rfl))).of_behind
    (last.factor.arithmetic (.inr rfl))).of_withSigns

/-- A name by itself, which a call takes for the name of a function. -/
def Expr.IsVar : Expr → Prop
  | .var _ => True
  | _ => False

/-- What a suffix makes of a value. -/
def Suffix.apply (environment : Environment) : Suffix → Value → Except ScriptError Value
  | .index position, value => do value.index (← position.eval environment)
  | .slice first last, value => do
    let first ← evalBound environment first
    value.slice first (← evalBound environment last)
  | .call arguments, value => do
    let name ← calleeOfValue value
    callFunction environment name (← evalItems environment arguments)
  | .member key, value => memberOf environment value key

theorem Expr.eval_withSuffix (notVar : ¬ x.IsVar) (suffix : Suffix) :
    (x.withSuffix suffix).eval environment = (x.eval environment).bind (suffix.apply environment) := by
  cases suffix with
  | call arguments =>
    cases x with
    | var => exact absurd trivial notVar
    | _ => rfl
  | _ => rfl

theorem Expr.eval_withSuffixes (same : x.eval environment = y.eval environment) (xNot : ¬ x.IsVar)
    (yNot : ¬ y.IsVar) (suffixes : List Suffix) :
    (x.withSuffixes suffixes).eval environment = (y.withSuffixes suffixes).eval environment := by
  induction suffixes generalizing x y with
  | nil => exact same
  | cons suffix suffixes ih =>
    have one : (x.withSuffix suffix).eval environment = (y.withSuffix suffix).eval environment := by
      rw [eval_withSuffix xNot, eval_withSuffix yNot, same]
    refine ih one ?_ ?_
    · cases suffix <;> exact id
    · cases suffix <;> exact id

theorem Expr.eval_withSigns (same : x.eval environment = y.eval environment)
    (signs : List UnaryOperator) :
    (x.withSigns signs).eval environment = (y.withSigns signs).eval environment := by
  induction signs with
  | nil => exact same
  | cons operator signs ih =>
    show (Expr.unary operator (x.withSigns signs)).eval environment =
      (Expr.unary operator (y.withSigns signs)).eval environment
    rw [eval_unary, eval_unary, ih]

theorem Expr.eval_behind {left? : Option (BinaryOperator × Expr)}
    (arithmetic : ∀ left ∈ left?, left.1 ≠ .and ∧ left.1 ≠ .or)
    (same : x.eval environment = y.eval environment) :
    (Expr.behind left? x).eval environment = (Expr.behind left? y).eval environment := by
  cases left? with
  | none => exact same
  | some left =>
    obtain ⟨notAnd, notOr⟩ := arithmetic left rfl
    rw [behind, behind, eval_binary notAnd notOr, eval_binary notAnd notOr, same]

theorem Expr.eval_withFactors {factors : List (BinaryOperator × Expr)}
    (arithmetic : ∀ factor ∈ factors, factor.1 ≠ .and ∧ factor.1 ≠ .or)
    (same : x.eval environment = y.eval environment) :
    (x.withFactors factors).eval environment = (y.withFactors factors).eval environment := by
  induction factors generalizing x y with
  | nil => exact same
  | cons factor factors ih =>
    obtain ⟨notAnd, notOr⟩ := arithmetic factor List.mem_cons_self
    refine ih (fun later member => arithmetic later (List.mem_cons_of_mem factor member)) ?_
    rw [eval_binary notAnd notOr, eval_binary notAnd notOr, same]

theorem LastOperand.eval_joined {tokens more : List Token} {name : Token} {left right : Expr}
    (last : LastOperand tokens left) (first : FirstName name more right)
    (same : x.eval environment = y.eval environment) (xNot : ¬ x.IsVar) (yNot : ¬ y.IsVar) :
    (last.joined first x).eval environment = (last.joined first y).eval environment :=
  Expr.eval_behind (last.term.arithmetic (.inl rfl)) (Expr.eval_withFactors first.factored.arithmetic
    (Expr.eval_behind (last.factor.arithmetic (.inr rfl)) (Expr.eval_withSigns
      (Expr.eval_withSuffixes same xNot yNot _) _)))

theorem Expr.eval_concat (left right : Expr) :
    (Expr.binary .concat left right).eval environment =
      (left.eval environment).bind fun l =>
        (right.eval environment).bind (BinaryOperator.joinTexts l) :=
  rfl

theorem memberOf_of_ne_dict {target : Value} (notDict : target.type ≠ .dict) (key : String) :
    memberOf environment target key =
      (if key.toList.all Char.isDigit then .ok (.string key) else environment.variable key).bind
        (BinaryOperator.joinTexts target) := by
  cases target with
  | dict => exact absurd rfl notDict
  | _ =>
    unfold memberOf
    dsimp only
    split <;> rfl

/-- A member of a value that is no dictionary is the value joined to what the name of the member is on its
own. -/
theorem Expr.eval_member {kind : TokenKind} {text rest : List Char} {key : String} {name : Expr}
    (read : TokenKind.read text = .ok (kind, rest)) (names : kind.NamesMember key)
    (denotes : kind.Denotes name) (plain : x.IsPlain environment) :
    (Expr.member x key).eval environment = (Expr.binary .concat x name).eval environment := by
  obtain ⟨value, evaluates, notDict⟩ := plain
  have member : (Expr.member x key).eval environment =
      (x.eval environment).bind (memberOf environment · key) := rfl
  rw [member, eval_concat, evaluates]
  show memberOf environment value key = (name.eval environment).bind (BinaryOperator.joinTexts value)
  rw [memberOf_of_ne_dict notDict]
  rcases TokenKind.names_digits read names with ⟨number, rfl, digits⟩ | ⟨rfl, digits⟩
  · cases names
    cases denotes
    rw [if_pos digits]
    rfl
  · cases denotes
    rw [if_neg (Bool.eq_false_iff.mp digits)]
    rfl

theorem exists_of_joinTexts {l r value : Value}
    (joined : BinaryOperator.joinTexts l r = .ok value) :
    ∃ first second, l.toText = .ok first ∧ r.toText = .ok second ∧
      value = .string (first ++ second) := by
  unfold BinaryOperator.joinTexts at joined
  cases isFirst : l.toText with
  | error error =>
    rw [isFirst] at joined
    cases joined
  | ok first =>
    cases isSecond : r.toText with
    | error error =>
      rw [isFirst, isSecond] at joined
      cases joined
    | ok second =>
      rw [isFirst, isSecond] at joined
      cases joined
      exact ⟨first, second, rfl, rfl, rfl⟩

theorem joinTexts_of_texts {l r : Value} {first second : String} (isFirst : l.toText = .ok first)
    (isSecond : r.toText = .ok second) :
    BinaryOperator.joinTexts l r = .ok (.string (first ++ second)) := by
  unfold BinaryOperator.joinTexts
  rw [isFirst, isSecond]
  rfl

theorem joinTexts_of_error {l r : Value} {first : String} {error : ScriptError}
    (isFirst : l.toText = .ok first) (fails : r.toText = .error error) :
    BinaryOperator.joinTexts l r = .error error := by
  unfold BinaryOperator.joinTexts
  rw [isFirst, fails]
  rfl

/-- Texts that are joined group either way. -/
theorem Expr.eval_concat_assoc {left name : Expr} {value : Value}
    (evaluates : (Expr.binary .concat left x).eval environment = .ok value) :
    (Expr.binary .concat left (.binary .concat x name)).eval environment =
      (Expr.binary .concat (.binary .concat left x) name).eval environment := by
  rw [eval_concat (.binary .concat left x), evaluates]
  simp only [eval_concat] at evaluates ⊢
  cases isLeft : left.eval environment with
  | error error =>
    rw [isLeft] at evaluates
    cases evaluates
  | ok l =>
    cases isRight : x.eval environment with
    | error error =>
      rw [isLeft, isRight] at evaluates
      cases evaluates
    | ok r =>
      rw [isLeft, isRight] at evaluates
      obtain ⟨first, second, isFirst, isSecond, rfl⟩ := exists_of_joinTexts evaluates
      cases name.eval environment with
      | error error => rfl
      | ok n =>
        show (BinaryOperator.joinTexts r n).bind (BinaryOperator.joinTexts l) =
          BinaryOperator.joinTexts (.string (first ++ second)) n
        cases isThird : n.toText with
        | error error =>
          rw [joinTexts_of_error isSecond isThird, joinTexts_of_error rfl isThird]
          rfl
        | ok third =>
          rw [joinTexts_of_texts isSecond isThird, joinTexts_of_texts rfl isThird, String.append_assoc]
          exact joinTexts_of_texts isFirst rfl

/-- Nothing but dots joins the last operand of a sum to what stands in front of it. -/
def LastOperand.JoinsOnly {tokens : List Token} {left : Expr} (last : LastOperand tokens left) : Prop :=
  last.factor? = none ∧ last.signs = [] ∧ ∀ term ∈ last.term?, term.1 = .concat

theorem LastOperand.eval_joined_concat {tokens more : List Token} {name : Token} {left right : Expr}
    {last : LastOperand tokens left} {first : FirstName name more right} (joins : last.JoinsOnly)
    (noSuffix : first.suffixes = []) (noFactor : first.factors = []) {value : Value}
    (evaluates : left.eval environment = .ok value) :
    (last.joined first (.binary .concat last.operand first.first)).eval environment =
      (Expr.binary .concat left right).eval environment := by
  obtain ⟨noLeft, noSign, dots⟩ := joins
  have isRight : right = first.first := by
    have isTree := first.isTree
    rwa [noSuffix, noFactor] at isTree
  have isLeft : left = .behind last.term? last.operand := by
    have isTree := last.isTree
    rwa [noLeft, noSign] at isTree
  have wholeLeft : (Expr.behind last.term? last.operand).eval environment = .ok value :=
    (congrArg (Expr.eval environment) isLeft).symm.trans evaluates
  have whole : Expr.binary .concat left right =
      .binary .concat (.behind last.term? last.operand) first.first :=
    congrArg₂ (Expr.binary .concat) isLeft isRight
  rw [whole]
  unfold joined
  rw [noLeft, noSign, noSuffix, noFactor]
  cases isTerm : last.term? with
  | none => rfl
  | some term =>
    obtain ⟨operator, front⟩ := term
    cases dots _ isTerm
    rw [isTerm] at wholeLeft
    exact Expr.eval_concat_assoc wholeLeft

end Values

section Dots

variable {a b : List Char} {tokens : List Token} {name : Token} {more : List Token} {key : String}
  {left right : Expr}

theorem parse_dot (read : tokenize a = .ok tokens)
    (trimmed : ∀ c ∈ a.getLast?, isSeparator c = false)
    (ends : ∀ token ∈ tokens.getLast?, ¬ Fuses token.kind (a.drop token.start) ('.' :: b))
    (readName : tokenize b = .ok (name :: more)) (tight : name.spaced = false)
    (last : LastOperand tokens left) (first : FirstName name more right) :
    Expr.parse (a ++ '.' :: b) = .ok (last.joined first (.member last.operand first.key)) := by
  refine (Expr.parse_eq_ok_iff _ _).mpr
    ⟨_, tokenize_dot read trimmed ends readName tight first.names, ?_⟩
  exact (last.derives_joined first ⟨rfl, rfl⟩ tight _).loosest

theorem parse_spaced_dot (read : tokenize a = .ok tokens)
    (trimmed : ∀ c ∈ a.getLast?, isSeparator c = false)
    (ends : ∀ token ∈ tokens.getLast?, ¬ Fuses token.kind (a.drop token.start) ('.' :: b))
    (readName : tokenize b = .ok (name :: more)) (tight : name.spaced = false)
    (derives : Derives (.expr .sum) tokens left) (first : FirstName name more right) :
    Expr.parse (a ++ ' ' :: '.' :: ' ' :: b) = .ok (.binary .concat left right) := by
  refine (Expr.parse_eq_ok_iff _ _).mpr
    ⟨_, tokenize_spaced_dot read trimmed ends readName tight first.names, ?_⟩
  have apart (behind : List Token) :
      ¬ StartsMember (⟨.mark .dot, a.length + 1, true⟩ :: behind) := by
    rintro ⟨dot, _, _, _, split, isDot, -⟩
    cases split
    cases isDot.2
  have product := first.derives_again ⟨name.kind, a.length + 3, true⟩ rfl (a.length + 3)
  have sum := @Derives.binary tokens _ ⟨.mark .dot, a.length + 1, true⟩ .concat .dot left right derives
    List.mem_cons_self rfl (apart _) product
  exact sum.loosest

/-- A tight dot and a name belong to the last operand in front of them, unless the last token there takes
the dot, and a dot between blanks joins all that stands on its sides. On a value that is no dictionary the
member is the operand joined to the name, so both give the same value or error where nothing goes on with
the name, and where nothing stands in front of the operand but what other dots join to it. -/
theorem Environment.dot_regroups (environment : Environment) {value : Value}
    (read : tokenize a = .ok tokens) (derives : Derives (.expr .sum) tokens left)
    (trimmed : ∀ c ∈ a.getLast?, isSeparator c = false)
    (readName : tokenize b = .ok (name :: more))
    (derivesName : Derives (.expr .product) (name :: more) right)
    (names : name.kind.NamesMember key) (tight : name.spaced = false)
    (ends : ∀ token ∈ tokens.getLast?, ¬ Fuses token.kind (a.drop token.start) ('.' :: b))
    (evaluates : left.eval environment = .ok value) (noDict : value.type ≠ .dict) :
    Nonempty (LastOperand tokens left) ∧ Nonempty (FirstName name more right) ∧
    Expr.parse (a ++ ' ' :: '.' :: ' ' :: b) = .ok (.binary .concat left right) ∧
    ∀ (last : LastOperand tokens left) (first : FirstName name more right),
      Expr.parse (a ++ '.' :: b) = .ok (last.joined first (.member last.operand first.key)) ∧
      (last.joined first (.member last.operand first.key)).eval environment =
        (last.joined first (.binary .concat last.operand first.first)).eval environment ∧
      (last.JoinsOnly → first.suffixes = [] → first.factors = [] →
        (last.joined first (.member last.operand first.key)).eval environment =
          (Expr.binary .concat left right).eval environment) := by
  obtain ⟨someFirst⟩ := FirstName.nonempty derivesName names
  obtain ⟨_, _, _, -, -, -, taken, -⟩ := exists_of_namesMember readName tight names
  refine ⟨LastOperand.nonempty derives, ⟨someFirst⟩,
    parse_spaced_dot read trimmed ends readName tight derives someFirst, fun last first => ?_⟩
  have plain : last.operand.IsPlain environment := last.isPlain ⟨value, evaluates, noDict⟩
  have member : (last.joined first (.member last.operand first.key)).eval environment =
      (last.joined first (.binary .concat last.operand first.first)).eval environment :=
    last.eval_joined first (Expr.eval_member taken first.names first.denotes plain) id id
  refine ⟨parse_dot read trimmed ends readName tight last first, member, ?_⟩
  intro joins noSuffix noFactor
  exact member.trans (LastOperand.eval_joined_concat joins noSuffix noFactor evaluates)

/-- `'a'.len('b')` joins `'a'` to the variable `len` and calls that, and `'a' . len('b')` calls the
function. -/
theorem Environment.dot_regroups_call :
    let tight : Expr := .call (.member (.str "a") "len") [.str "b"]
    let spaced : Expr := .binary .concat (.str "a") (.call (.var "len") [.str "b"])
    Expr.parse "'a'.len('b')".toList = .ok tight ∧ Expr.parse "'a' . len('b')".toList = .ok spaced ∧
      tight.eval default = .error (.undefinedVariable "len") ∧
      spaced.eval default = .ok (.string "a1") := by
  intro tight spaced
  have read : tokenize "'a'".toList = .ok [⟨.str "a", 0, false⟩] :=
    Tokenizes.tokensFrom_eq (.next '\'' ['a', '\''] rfl rfl (.done nofun))
  have readCall : tokenize "len('b')".toList = .ok [⟨.ident "len", 0, false⟩,
      ⟨.mark .openParen, 3, false⟩, ⟨.str "b", 4, false⟩, ⟨.mark .closeParen, 7, false⟩] :=
    Tokenizes.tokensFrom_eq (.next 'l' ['e', 'n'] rfl rfl (.next '(' [] rfl rfl
      (.next '\'' ['b', '\''] rfl rfl (.next ')' [] rfl rfl (.done nofun)))))
  have text (text : String) (start : Nat) :
      Derives (.expr .suffix) [⟨.str text, start, false⟩] (.str text) := .tighter (.literal (.str text))
  have suffixed : Suffixes [⟨.mark .openParen, 3, false⟩, ⟨.str "b", 4, false⟩,
      ⟨.mark .closeParen, 7, false⟩] [.call [.str "b"]] :=
    .call .none ⟨rfl, rfl⟩ (.one (text "b" 4).loosest) rfl
  have derivesCall : Derives (.expr .suffix) (⟨.ident "len", 0, false⟩ :: _)
      (.call (.var "len") [.str "b"]) :=
    suffixed.derives (.tighter (.literal (.ident "len")))
  have ends : ∀ token ∈ [(⟨.str "a", 0, false⟩ : Token)].getLast?,
      ¬ Fuses token.kind ("'a'".toList.drop token.start) ('.' :: "len('b')".toList) := by
    rintro _ ⟨⟩ (register | ⟨-, isDot | ⟨_, isBlob⟩⟩ | ⟨digits, -⟩)
    · exact absurd register (by decide)
    · cases isDot
    · cases isBlob
    · cases digits
  have trimmed : ∀ c ∈ "'a'".toList.getLast?, isSeparator c = false := by
    rintro _ ⟨⟩
    rfl
  have derives : Derives (.expr .sum) _ (.str "a") := .tighter (.tighter (.tighter (text "a" 0)))
  obtain ⟨-, -, parseSpaced, each⟩ := dot_regroups default read derives trimmed readCall
    (.tighter (.tighter derivesCall)) (.ident "len") rfl ends rfl nofun
  obtain ⟨parseTight, evalTight, -⟩ := each
    ⟨none, none, [], .str "a", [], [], [], _, rfl, rfl, .none, .none, .none, text "a" 0⟩
    ⟨"len", .var "len", [.call [.str "b"]], [], _, [], (List.append_nil _).symm, rfl, .ident "len",
      .ident "len", suffixed, .none⟩
  have called : (Expr.call (.var "len") [.str "b"]).eval default = .ok (.number 1) := by
    show callFunction default "len" [.string "b"] = _
    unfold callFunction
    rfl
  refine ⟨parseTight, parseSpaced, evalTight.trans rfl, ?_⟩
  rw [Expr.eval_concat, called]
  rfl

end Dots

end ModalEdit.Script

import ModalEdit.Proofs.Script.Complete

/-!
The two ends of an expression. In front of its last operand stand signs, a product and a sum; behind its
first operand stand subscripts, calls and members, and factors. Either end can be taken off, and another
operand put in its place.
-/

set_option autoImplicit false

namespace ModalEdit.Script

/-! ### Behind the first operand -/

/-- What goes on with an operand. -/
inductive Suffix where
  | index (position : Expr)
  | slice (first last : Option Expr)
  | call (arguments : List Expr)
  | member (key : String)

namespace Expr

/-- An expression and one suffix. -/
def withSuffix (target : Expr) : Suffix → Expr
  | .index position => .index target position
  | .slice first last => .slice target first last
  | .call arguments => .call target arguments
  | .member key => .member target key

/-- An expression and its suffixes, in order. -/
def withSuffixes (target : Expr) (suffixes : List Suffix) : Expr :=
  suffixes.foldl withSuffix target

/-- An expression and its factors, which group to the left. -/
def withFactors (first : Expr) (factors : List (BinaryOperator × Expr)) : Expr :=
  factors.foldl (fun product factor => .binary factor.1 product factor.2) first

end Expr

/-- The tokens of suffixes. -/
inductive Suffixes : List Token → List Suffix → Prop
  | none : Suffixes [] []
  | index {before position : List Token} {opening closing : Token} {suffixes : List Suffix}
      {p : Expr} :
      Suffixes before suffixes → opening.IsTight .openBracket →
      Derives (.expr .ternary) position p → closing.Is .closeBracket →
      Suffixes (before ++ opening :: position ++ [closing]) (suffixes ++ [.index p])
  | slice {before first last : List Token} {opening colon closing : Token} {suffixes : List Suffix}
      {f l : Option Expr} :
      Suffixes before suffixes → opening.IsTight .openBracket →
      Derives .bound first f → colon.Is .colon → Derives .bound last l → closing.Is .closeBracket →
      Suffixes (before ++ opening :: first ++ colon :: last ++ [closing]) (suffixes ++ [.slice f l])
  | emptyCall {before : List Token} {opening closing : Token} {suffixes : List Suffix} :
      Suffixes before suffixes → opening.IsTight .openParen → closing.Is .closeParen →
      Suffixes (before ++ [opening, closing]) (suffixes ++ [.call []])
  | call {before arguments : List Token} {opening closing : Token} {suffixes : List Suffix}
      {items : List Expr} :
      Suffixes before suffixes → opening.IsTight .openParen →
      Derives .sequence arguments items → closing.Is .closeParen →
      Suffixes (before ++ opening :: arguments ++ [closing]) (suffixes ++ [.call items])
  | member {before : List Token} {dot name : Token} {suffixes : List Suffix} {key : String} :
      Suffixes before suffixes → dot.IsTight .dot → name.spaced = false →
      name.kind.NamesMember key →
      Suffixes (before ++ [dot, name]) (suffixes ++ [.member key])

/-- The tokens of factors behind the first. -/
inductive Factors : List Token → List (BinaryOperator × Expr) → Prop
  | none : Factors [] []
  | factor {before right : List Token} {token : Token} {operator : BinaryOperator} {sign : Mark}
      {factors : List (BinaryOperator × Expr)} {r : Expr} :
      Factors before factors → operator.level = .product → sign ∈ operator.marks →
      token.Is sign → Derives (.expr .unary) right r →
      Factors (before ++ token :: right) (factors ++ [(operator, r)])

theorem Suffixes.derives {target tokens : List Token} {suffixes : List Suffix} {t : Expr}
    (suffixed : Suffixes tokens suffixes) (derives : Derives (.expr .suffix) target t) :
    Derives (.expr .suffix) (target ++ tokens) (t.withSuffixes suffixes) := by
  induction suffixed with
  | none => simpa [Expr.withSuffixes] using derives
  | index _ opens position closes ih =>
    simpa [Expr.withSuffixes, Expr.withSuffix] using Derives.index ih opens position closes
  | slice _ opens first colon last closes ih =>
    simpa [Expr.withSuffixes, Expr.withSuffix] using Derives.slice ih opens first colon last closes
  | emptyCall _ opens closes ih =>
    simpa [Expr.withSuffixes, Expr.withSuffix] using Derives.emptyCall ih opens closes
  | call _ opens arguments closes ih =>
    simpa [Expr.withSuffixes, Expr.withSuffix] using Derives.call ih opens arguments closes
  | member _ dot tight names ih =>
    simpa [Expr.withSuffixes, Expr.withSuffix] using Derives.member ih dot tight names

/-- The operators of a product are no dots. -/
theorem not_startsMember_of_product {token : Token} {operator : BinaryOperator} {sign : Mark}
    (product : operator.level = .product) (listed : sign ∈ operator.marks) (is : token.Is sign)
    (right : List Token) : ¬ StartsMember (token :: right) := by
  rintro ⟨dot, name, key, rest, split, isDot, -⟩
  cases split
  have same : Mark.dot = sign := TokenKind.mark.inj (isDot.1.symm.trans is)
  subst same
  have noDot : Mark.dot ∉ operator.marks := by
    cases operator <;> first | decide | cases product
  exact noDot listed

theorem Derives.binaryAt {level : Level} {left right : List Token} {token : Token}
    {operator : BinaryOperator} {sign : Mark} {l r : Expr} (isLevel : operator.level = level)
    (derivesLeft : Derives (.expr level) left l) (listed : sign ∈ operator.marks)
    (is : token.Is sign) (apart : ¬ StartsMember (token :: right))
    (derivesRight : Derives (.expr level.tighter) right r) :
    Derives (.expr level) (left ++ token :: right) (.binary operator l r) := by
  subst isLevel
  exact .binary derivesLeft listed is apart derivesRight

theorem Factors.derives {first tokens : List Token} {factors : List (BinaryOperator × Expr)}
    {x : Expr} (factored : Factors tokens factors) (derives : Derives (.expr .product) first x) :
    Derives (.expr .product) (first ++ tokens) (x.withFactors factors) := by
  induction factored with
  | none => simpa [Expr.withFactors] using derives
  | factor _ product listed is right ih =>
    have apart := not_startsMember_of_product product listed is
    simpa [Expr.withFactors] using Derives.binaryAt product ih listed is (apart _) right

/-! ### In front of the last operand -/

/-- An expression behind a term or a factor, if there is one. -/
def Expr.behind (left? : Option (BinaryOperator × Expr)) (right : Expr) : Expr :=
  match left? with
  | none => right
  | some (operator, left) => .binary operator left right

/-- An expression behind its signs. -/
def Expr.withSigns (signs : List UnaryOperator) (operand : Expr) : Expr :=
  signs.foldr .unary operand

/-- The tokens of signs. -/
inductive Signs : List Token → List UnaryOperator → Prop
  | none : Signs [] []
  | sign {token : Token} {tokens : List Token} {operator : UnaryOperator}
      {signs : List UnaryOperator} :
      token.Is operator.mark → Signs tokens signs → Signs (token :: tokens) (operator :: signs)

/-- The tokens in front of the last term of a sum or the last factor of a product, whose own tokens
follow. -/
inductive Before : Level → List Token → Option (BinaryOperator × Expr) → List Token → Prop
  | none {level : Level} {next : List Token} : Before level [] none next
  | some {left next : List Token} {token : Token} {operator : BinaryOperator} {sign : Mark}
      {l : Expr} :
      Derives (.expr operator.level) left l → sign ∈ operator.marks → token.Is sign →
      ¬ StartsMember (token :: next) →
      Before operator.level (left ++ [token]) (some (operator, l)) next

theorem Signs.derives {tokens operand : List Token} {signs : List UnaryOperator} {x : Expr}
    (signed : Signs tokens signs) (derives : Derives (.expr .unary) operand x) :
    Derives (.expr .unary) (tokens ++ operand) (x.withSigns signs) := by
  induction signed with
  | none => exact derives
  | sign is _ ih => exact .unary is ih

/-- What follows may go on. -/
theorem Before.derives {level : Level} {tokens next : List Token}
    {left? : Option (BinaryOperator × Expr)} (before : Before level tokens left? next)
    (nonempty : next ≠ []) (more : List Token) {x : Expr}
    (derives : Derives (.expr level.tighter) (next ++ more) x) :
    Derives (.expr level) (tokens ++ (next ++ more)) (.behind left? x) := by
  cases before with
  | none => exact .tighter derives
  | some left listed is apart =>
    have apartMore : ¬ StartsMember (_ :: (next ++ more)) := fun starts =>
      apart (starts.of_append nonempty)
    simpa [Expr.behind] using Derives.binary left listed is apartMore derives

/-! ### Both ends -/

/-- A sum, taken apart around its last operand. -/
structure LastOperand (tokens : List Token) (tree : Expr) where
  term? : Option (BinaryOperator × Expr)
  factor? : Option (BinaryOperator × Expr)
  signs : List UnaryOperator
  operand : Expr
  termTokens : List Token
  factorTokens : List Token
  signTokens : List Token
  operandTokens : List Token
  isTokens : tokens = termTokens ++ (factorTokens ++ (signTokens ++ operandTokens))
  isTree : tree = .behind term? (.behind factor? (operand.withSigns signs))
  term : Before .sum termTokens term? (factorTokens ++ (signTokens ++ operandTokens))
  factor : Before .product factorTokens factor? (signTokens ++ operandTokens)
  signed : Signs signTokens signs
  derives : Derives (.expr .suffix) operandTokens operand

/-- A product that begins with a name or a number, taken apart behind it. -/
structure FirstName (name : Token) (tokens : List Token) (tree : Expr) where
  key : String
  first : Expr
  suffixes : List Suffix
  factors : List (BinaryOperator × Expr)
  suffixTokens : List Token
  factorTokens : List Token
  isTokens : tokens = suffixTokens ++ factorTokens
  isTree : tree = (first.withSuffixes suffixes).withFactors factors
  names : name.kind.NamesMember key
  denotes : name.kind.Denotes first
  suffixed : Suffixes suffixTokens suffixes
  factored : Factors factorTokens factors

/-- What the tokens of a phrase are behind the name that they begin with. -/
def BeginsNamed (name : Token) (rest : List Token) : (phrase : Phrase) → phrase.Tree → Prop
  | .expr .atom, tree => rest = [] ∧ name.kind.Denotes tree
  | .expr .suffix, tree | .expr .unary, tree =>
    ∃ first suffixes, name.kind.Denotes first ∧ Suffixes rest suffixes ∧
      tree = first.withSuffixes suffixes
  | .expr .product, tree =>
    ∃ first suffixes factors suffixTokens factorTokens, rest = suffixTokens ++ factorTokens ∧
      name.kind.Denotes first ∧ Suffixes suffixTokens suffixes ∧ Factors factorTokens factors ∧
      tree = (first.withSuffixes suffixes).withFactors factors
  | _, _ => True

theorem BeginsNamed.factor {name token : Token} {rest right : List Token} {operator : BinaryOperator}
    {sign : Mark} {l r : Expr} (begins : BeginsNamed name rest (.expr .product) l)
    (product : operator.level = .product) (listed : sign ∈ operator.marks) (is : token.Is sign)
    (derives : Derives (.expr .unary) right r) :
    BeginsNamed name (rest ++ token :: right) (.expr .product) (.binary operator l r) := by
  obtain ⟨first, suffixes, factors, suffixTokens, factorTokens, rfl, denotes, suffixed, factored,
    rfl⟩ := begins
  refine ⟨first, suffixes, factors ++ [(operator, r)], suffixTokens, factorTokens ++ token :: right,
    List.append_assoc _ _ _, denotes, suffixed, .factor factored product listed is derives, ?_⟩
  simp [Expr.withFactors]

theorem BeginsNamed.suffix {name : Token} {rest more : List Token} {t : Expr}
    (begins : BeginsNamed name rest (.expr .suffix) t) (suffix : Suffix)
    (step : ∀ suffixes, Suffixes rest suffixes → Suffixes (rest ++ more) (suffixes ++ [suffix])) :
    BeginsNamed name (rest ++ more) (.expr .suffix) (t.withSuffix suffix) := by
  obtain ⟨first, suffixes, denotes, suffixed, rfl⟩ := begins
  refine ⟨first, suffixes ++ [suffix], denotes, step suffixes suffixed, ?_⟩
  simp [Expr.withSuffixes]

theorem Phrase.expr_ne_bound (level : Level) : expr level ≠ bound :=
  nofun

theorem Derives.exists_of_append {phrase : Phrase} {target more rest : List Token} {tree : phrase.Tree}
    {name : Token} (derives : Derives phrase target tree) (notBound : phrase ≠ .bound)
    (split : target ++ more = name :: rest) : ∃ others, target = name :: others ∧ rest = others ++ more := by
  cases target with
  | nil => exact absurd rfl (derives.ne_nil notBound)
  | cons head others =>
    cases split
    exact ⟨others, rfl, rfl⟩

theorem Derives.beginsNamed {phrase : Phrase} {tokens : List Token} {tree : phrase.Tree}
    (derives : Derives phrase tokens tree) {name : Token} {rest : List Token} {key : String}
    (isTokens : tokens = name :: rest) (names : name.kind.NamesMember key) :
    BeginsNamed name rest phrase tree := by
  have noMark {sign : Mark} (is : name.Is sign) : False := by
    rw [Token.Is] at is
    rw [is] at names
    cases names
  induction derives generalizing rest with
  | @tighter level tokens tree derives ih =>
    have tighter := ih isTokens
    cases level with
    | product =>
      obtain ⟨first, suffixes, denotes, suffixed, rfl⟩ := tighter
      exact ⟨first, suffixes, [], rest, [], (List.append_nil _).symm, denotes, suffixed, .none, rfl⟩
    | unary => exact tighter
    | suffix =>
      obtain ⟨rfl, denotes⟩ := tighter
      exact ⟨tree, [], denotes, .none, rfl⟩
    | atom => exact tighter
    | _ => trivial
  -- The left operand is not empty, so it is what begins with the name.
  | @binary _ _ _ operator _ _ _ left listed is _ right ih _ =>
    obtain ⟨others, rfl, rfl⟩ := left.exists_of_append (Phrase.expr_ne_bound _) isTokens
    cases operator with
    | multiply | divide | modulo => exact (ih rfl).factor rfl listed is right
    | _ => trivial
  | unary is _ _ =>
    cases isTokens
    exact (noMark is).elim
  | index target opens position closes ih _ =>
    rw [List.append_assoc] at isTokens
    obtain ⟨others, rfl, rfl⟩ := target.exists_of_append (Phrase.expr_ne_bound _) isTokens
    refine (ih rfl).suffix (.index _) fun suffixes suffixed => ?_
    simpa using Suffixes.index suffixed opens position closes
  | slice target opens first colon last closes ih _ _ =>
    simp only [List.append_assoc] at isTokens
    obtain ⟨others, rfl, rfl⟩ := target.exists_of_append (Phrase.expr_ne_bound _) isTokens
    refine (ih rfl).suffix (.slice _ _) fun suffixes suffixed => ?_
    simpa using Suffixes.slice suffixed opens first colon last closes
  | emptyCall target opens closes ih =>
    obtain ⟨others, rfl, rfl⟩ := target.exists_of_append (Phrase.expr_ne_bound _) isTokens
    exact (ih rfl).suffix (.call []) fun suffixes suffixed => .emptyCall suffixed opens closes
  | call target opens arguments closes ih _ =>
    rw [List.append_assoc] at isTokens
    obtain ⟨others, rfl, rfl⟩ := target.exists_of_append (Phrase.expr_ne_bound _) isTokens
    refine (ih rfl).suffix (.call _) fun suffixes suffixed => ?_
    simpa using Suffixes.call suffixed opens arguments closes
  | member target dot tight isName ih =>
    obtain ⟨others, rfl, rfl⟩ := target.exists_of_append (Phrase.expr_ne_bound _) isTokens
    exact (ih rfl).suffix (.member _) fun suffixes suffixed => .member suffixed dot tight isName
  | literal denotes =>
    cases isTokens
    exact ⟨rfl, denotes⟩
  | parens opens _ _ _ | emptyList opens _ | list opens _ _ _ _ | emptyDict opens _ | dict opens _ _ _ _ =>
    cases isTokens
    exact (noMark opens).elim
  | _ => trivial

/-- Every product that begins with a name or a number can be taken apart behind it. -/
theorem FirstName.nonempty {name : Token} {tokens : List Token} {tree : Expr} {key : String}
    (derives : Derives (.expr .product) (name :: tokens) tree) (names : name.kind.NamesMember key) :
    Nonempty (FirstName name tokens tree) := by
  obtain ⟨first, suffixes, factors, suffixTokens, factorTokens, isTokens, denotes, suffixed, factored,
    isTree⟩ := derives.beginsNamed rfl names
  exact ⟨⟨key, first, suffixes, factors, suffixTokens, factorTokens, isTokens, isTree, names, denotes,
    suffixed, factored⟩⟩

/-- What the tokens of a phrase are in front of their last operand. -/
def EndsInOperand (tokens : List Token) : (phrase : Phrase) → phrase.Tree → Prop
  | .expr .suffix, tree => Derives (.expr .suffix) tokens tree
  | .expr .unary, tree =>
    ∃ signs operand signTokens operandTokens, tokens = signTokens ++ operandTokens ∧
      tree = Expr.withSigns signs operand ∧ Signs signTokens signs ∧
      Derives (.expr .suffix) operandTokens operand
  | .expr .product, tree =>
    ∃ factor? signs operand factorTokens signTokens operandTokens,
      tokens = factorTokens ++ (signTokens ++ operandTokens) ∧
      tree = .behind factor? (Expr.withSigns signs operand) ∧
      Before .product factorTokens factor? (signTokens ++ operandTokens) ∧
      Signs signTokens signs ∧ Derives (.expr .suffix) operandTokens operand
  | .expr .sum, tree => Nonempty (LastOperand tokens tree)
  | _, _ => True

theorem Derives.endsInOperand {phrase : Phrase} {tokens : List Token} {tree : phrase.Tree}
    (derives : Derives phrase tokens tree) : EndsInOperand tokens phrase tree := by
  induction derives with
  | @tighter level tokens tree derives ih =>
    cases level with
    | sum =>
      obtain ⟨factor?, signs, operand, factorTokens, signTokens, operandTokens, isTokens, isTree, factor,
        signed, derives⟩ := ih
      exact ⟨⟨none, factor?, signs, operand, [], factorTokens, signTokens, operandTokens, isTokens,
        isTree, .none, factor, signed, derives⟩⟩
    | product =>
      obtain ⟨signs, operand, signTokens, operandTokens, isTokens, isTree, signed, derives⟩ := ih
      exact ⟨none, signs, operand, [], signTokens, operandTokens, isTokens, isTree, .none, signed,
        derives⟩
    | unary => exact ⟨[], tree, [], tokens, rfl, rfl, .none, derives⟩
    | suffix => exact .tighter derives
    | _ => trivial
  -- The last operand of a sum or a product is that of its right side; the left side goes in front of it.
  | @binary leftTokens rightTokens token operator sign l r left listed is apart _ _ ih =>
    cases operator with
    | add | subtract | concat =>
      obtain ⟨factor?, signs, operand, factorTokens, signTokens, operandTokens, rfl, rfl, factor,
        signed, derives⟩ := ih
      exact ⟨⟨some (_, l), factor?, signs, operand, leftTokens ++ [token], factorTokens, signTokens,
        operandTokens, by simp, rfl, .some left listed is apart, factor, signed, derives⟩⟩
    | multiply | divide | modulo =>
      obtain ⟨signs, operand, signTokens, operandTokens, rfl, rfl, signed, derives⟩ := ih
      exact ⟨some (_, l), signs, operand, leftTokens ++ [token], signTokens, operandTokens, by simp, rfl,
        .some left listed is apart, signed, derives⟩
    | _ => trivial
  | unary is _ ih =>
    obtain ⟨signs, operand, signTokens, operandTokens, rfl, rfl, signed, derives⟩ := ih
    exact ⟨_ :: signs, operand, _ :: signTokens, operandTokens, rfl, rfl, .sign is signed, derives⟩
  | index target opens position closes => exact .index target opens position closes
  | slice target opens first colon last closes => exact .slice target opens first colon last closes
  | emptyCall target opens closes => exact .emptyCall target opens closes
  | call target opens arguments closes => exact .call target opens arguments closes
  | member target dot tight names => exact .member target dot tight names
  | _ => trivial

/-- Every sum can be taken apart around its last operand. -/
theorem LastOperand.nonempty {tokens : List Token} {tree : Expr}
    (derives : Derives (.expr .sum) tokens tree) : Nonempty (LastOperand tokens tree) :=
  derives.endsInOperand

end ModalEdit.Script

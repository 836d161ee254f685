import ModalEdit.Script.Expr
import ModalEdit.Script.Token

/-!
The grammar of expressions: which tokens are a phrase, and the tree of that phrase. It says nothing about
how a phrase is found.
-/

set_option autoImplicit false

namespace ModalEdit.Script

/-- The levels of precedence, the loosest first. -/
inductive Level where
  | ternary
  | or
  | and
  | comparison
  | sum
  | product
  | unary
  | suffix
  | atom
deriving DecidableEq, Inhabited

/-- The next level that binds tighter. Nothing binds tighter than an atom. -/
def Level.tighter : Level → Level
  | ternary => or
  | .or => and
  | .and => comparison
  | comparison => sum
  | sum => product
  | product => unary
  | unary => .suffix
  | .suffix => atom
  | atom => atom

/-- The level of an operator between its operands. -/
def BinaryOperator.level : BinaryOperator → Level
  | .or => .or
  | .and => .and
  | add | subtract | concat => .sum
  | multiply | divide | modulo => .product

/-- The marks that stand for an operator between its operands. -/
def BinaryOperator.marks : BinaryOperator → List Mark
  | add => [.plus]
  | subtract => [.minus]
  | multiply => [.star]
  | divide => [.slash]
  | modulo => [.percent]
  | concat => [.dot, .dotDot]
  | .and => [.andAnd]
  | .or => [.orOr]

/-- The mark of an operator in front of its operand. -/
def UnaryOperator.mark : UnaryOperator → Mark
  | .not => .bang
  | negate => .minus
  | plus => .plus

/-- The tokens that are an expression on their own. -/
inductive TokenKind.Denotes : TokenKind → Expr → Prop
  | number (value : Int64) : Denotes (.number value) (.number value)
  | float (value : Number.Binary64) : Denotes (.float value) (.float value)
  | str (text : String) : Denotes (.str text) (.str text)
  | blob (bytes : List UInt8) : Denotes (.blob bytes) (.blob bytes)
  | ident (name : String) : Denotes (.ident name) (.var name)
  | option (name : String) (scope : Scope) : Denotes (.option name scope) (.option name scope)
  | register (name : Char) : Denotes (.register name) (.register name)
  | env (name : String) : Denotes (.env name) (.env name)

/-- The tokens that name a member, and its name. -/
inductive TokenKind.NamesMember : TokenKind → String → Prop
  | ident (name : String) : NamesMember (.ident name) name
  | number (value : Int64) : NamesMember (.number value) (toString value)

/-- The tokens that are keys as they stand, and the text of the key. -/
inductive TokenKind.IsKey : TokenKind → String → Prop
  | member {kind : TokenKind} {name : String} : kind.NamesMember name → IsKey kind name
  | str (text : String) : IsKey (.str text) text

namespace Token

def Is (token : Token) (sign : Mark) : Prop :=
  token.kind = .mark sign

/-- A mark with no blank before it. -/
def IsTight (token : Token) (sign : Mark) : Prop :=
  token.kind = .mark sign ∧ token.spaced = false

end Token

/-- Tokens that go on with a member: a dot and a name, neither with a blank before it. -/
def StartsMember (tokens : List Token) : Prop :=
  ∃ dot name key rest, tokens = dot :: name :: rest ∧
    dot.IsTight .dot ∧ name.spaced = false ∧ name.kind.NamesMember key

/-- The brace that opens a dictionary, whose keys may be taken as they stand. -/
def openingBrace (literalKeys : Bool) : Mark :=
  if literalKeys then .openLiteralBrace else .openBrace

/-- What tokens can be. -/
inductive Phrase where
  /-- An expression in which nothing binds looser than the level. -/
  | expr (level : Level)
  /-- One expression or more, with commas between them. -/
  | sequence
  /-- A bound of a slice, which may be left out. -/
  | bound
  /-- The key of an entry. -/
  | key (literal : Bool)
  /-- One entry or more, with commas between them. -/
  | entries (literalKeys : Bool)

/-- What a phrase stands for. -/
abbrev Phrase.Tree : Phrase → Type
  | expr _ => Expr
  | sequence => List Expr
  | bound => Option Expr
  | key _ => Expr
  | entries _ => List (Expr × Expr)

/-- The tokens of a phrase and what they stand for. -/
inductive Derives : (phrase : Phrase) → List Token → phrase.Tree → Prop
  | tighter {level : Level} {tokens : List Token} {tree : Expr} :
      Derives (.expr level.tighter) tokens tree → Derives (.expr level) tokens tree
  /-- A condition and two branches; only the last of the three may be followed by another. -/
  | ternary {condition yes no : List Token} {question colon : Token} {c y n : Expr} :
      Derives (.expr .or) condition c → question.Is .question →
      Derives (.expr .ternary) yes y → colon.Is .colon → Derives (.expr .ternary) no n →
      Derives (.expr .ternary) (condition ++ question :: yes ++ colon :: no) (.ternary c y n)
  /-- Operators of one level group to the left. A dot that goes on with a member is no operator. -/
  | binary {left right : List Token} {token : Token} {operator : BinaryOperator} {sign : Mark}
      {l r : Expr} :
      Derives (.expr operator.level) left l →
      sign ∈ operator.marks → token.Is sign → ¬ StartsMember (token :: right) →
      Derives (.expr operator.level.tighter) right r →
      Derives (.expr operator.level) (left ++ token :: right) (.binary operator l r)
  /-- Comparisons do not chain: both sides bind tighter. -/
  | compare {left right : List Token} {token : Token} {operator : Comparison} {case : CaseMode}
      {l r : Expr} :
      Derives (.expr .sum) left l → token.kind = .compare operator case →
      Derives (.expr .sum) right r →
      Derives (.expr .comparison) (left ++ token :: right) (.compare operator case l r)
  | unary {token : Token} {operand : List Token} {operator : UnaryOperator} {x : Expr} :
      token.Is operator.mark → Derives (.expr .unary) operand x →
      Derives (.expr .unary) (token :: operand) (.unary operator x)
  | index {target position : List Token} {opening closing : Token} {t p : Expr} :
      Derives (.expr .suffix) target t → opening.IsTight .openBracket →
      Derives (.expr .ternary) position p → closing.Is .closeBracket →
      Derives (.expr .suffix) (target ++ opening :: position ++ [closing]) (.index t p)
  | slice {target first last : List Token} {opening colon closing : Token} {t : Expr}
      {f l : Option Expr} :
      Derives (.expr .suffix) target t → opening.IsTight .openBracket →
      Derives .bound first f → colon.Is .colon → Derives .bound last l → closing.Is .closeBracket →
      Derives (.expr .suffix) (target ++ opening :: first ++ colon :: last ++ [closing])
        (.slice t f l)
  | emptyCall {target : List Token} {opening closing : Token} {t : Expr} :
      Derives (.expr .suffix) target t → opening.IsTight .openParen → closing.Is .closeParen →
      Derives (.expr .suffix) (target ++ [opening, closing]) (.call t [])
  | call {target arguments : List Token} {opening closing : Token} {t : Expr} {items : List Expr} :
      Derives (.expr .suffix) target t → opening.IsTight .openParen →
      Derives .sequence arguments items → closing.Is .closeParen →
      Derives (.expr .suffix) (target ++ opening :: arguments ++ [closing]) (.call t items)
  | member {target : List Token} {dot name : Token} {t : Expr} {key : String} :
      Derives (.expr .suffix) target t → dot.IsTight .dot →
      name.spaced = false → name.kind.NamesMember key →
      Derives (.expr .suffix) (target ++ [dot, name]) (.member t key)
  | literal {token : Token} {tree : Expr} :
      token.kind.Denotes tree → Derives (.expr .atom) [token] tree
  | parens {inside : List Token} {opening closing : Token} {tree : Expr} :
      opening.Is .openParen → Derives (.expr .ternary) inside tree → closing.Is .closeParen →
      Derives (.expr .atom) (opening :: inside ++ [closing]) tree
  | emptyList {opening closing : Token} :
      opening.Is .openBracket → closing.Is .closeBracket →
      Derives (.expr .atom) [opening, closing] (.list [])
  /-- A comma may follow the last item. -/
  | list {inside : List Token} {opening closing : Token} {comma? : Option Token}
      {items : List Expr} :
      opening.Is .openBracket → Derives .sequence inside items →
      (∀ comma ∈ comma?, comma.Is .comma) → closing.Is .closeBracket →
      Derives (.expr .atom) (opening :: inside ++ comma?.toList ++ [closing]) (.list items)
  | emptyDict {opening closing : Token} {literalKeys : Bool} :
      opening.Is (openingBrace literalKeys) → closing.Is .closeBrace →
      Derives (.expr .atom) [opening, closing] (.dict [])
  /-- A comma may follow the last entry. -/
  | dict {inside : List Token} {opening closing : Token} {comma? : Option Token}
      {literalKeys : Bool} {entries : List (Expr × Expr)} :
      opening.Is (openingBrace literalKeys) → Derives (.entries literalKeys) inside entries →
      (∀ comma ∈ comma?, comma.Is .comma) → closing.Is .closeBrace →
      Derives (.expr .atom) (opening :: inside ++ comma?.toList ++ [closing]) (.dict entries)
  | one {tokens : List Token} {tree : Expr} :
      Derives (.expr .ternary) tokens tree → Derives .sequence tokens [tree]
  | more {tokens rest : List Token} {comma : Token} {tree : Expr} {trees : List Expr} :
      Derives (.expr .ternary) tokens tree → comma.Is .comma → Derives .sequence rest trees →
      Derives .sequence (tokens ++ comma :: rest) (tree :: trees)
  | noBound : Derives .bound [] none
  | bound {tokens : List Token} {tree : Expr} :
      Derives (.expr .ternary) tokens tree → Derives .bound tokens (some tree)
  | key {tokens : List Token} {tree : Expr} :
      Derives (.expr .ternary) tokens tree → Derives (.key false) tokens tree
  | literalKey {token : Token} {name : String} :
      token.kind.IsKey name → Derives (.key true) [token] (.str name)
  | entry {key value : List Token} {colon : Token} {literalKeys : Bool} {k v : Expr} :
      Derives (.key literalKeys) key k → colon.Is .colon → Derives (.expr .ternary) value v →
      Derives (.entries literalKeys) (key ++ colon :: value) [(k, v)]
  | moreEntries {key value rest : List Token} {colon comma : Token} {literalKeys : Bool}
      {k v : Expr} {entries : List (Expr × Expr)} :
      Derives (.key literalKeys) key k → colon.Is .colon → Derives (.expr .ternary) value v →
      comma.Is .comma → Derives (.entries literalKeys) rest entries →
      Derives (.entries literalKeys) (key ++ colon :: value ++ comma :: rest) ((k, v) :: entries)

theorem Derives.plainList {inside : List Token} {opening closing : Token} {items : List Expr}
    (derives : Derives .sequence inside items) (opens : opening.Is .openBracket)
    (closes : closing.Is .closeBracket) :
    Derives (.expr .atom) (opening :: inside ++ [closing]) (.list items) := by
  have noComma : ∀ comma ∈ (none : Option Token), comma.Is .comma := nofun
  simpa using Derives.list opens derives noComma closes

theorem Derives.plainDict {inside : List Token} {opening closing : Token}
    {entries : List (Expr × Expr)} (derives : Derives (.entries false) inside entries)
    (opens : opening.Is .openBrace) (closes : closing.Is .closeBrace) :
    Derives (.expr .atom) (opening :: inside ++ [closing]) (.dict entries) := by
  have noComma : ∀ comma ∈ (none : Option Token), comma.Is .comma := nofun
  have opensPlain : opening.Is (openingBrace false) := opens
  simpa using Derives.dict opensPlain derives noComma closes

/-- An expression of any level is an expression. -/
theorem Derives.loosest {level : Level} {tokens : List Token} {tree : Expr}
    (derives : Derives (.expr level) tokens tree) : Derives (.expr .ternary) tokens tree := by
  have product (derives : Derives (.expr .product) tokens tree) :
      Derives (.expr .ternary) tokens tree := .tighter (.tighter (.tighter (.tighter (.tighter derives))))
  cases level with
  | ternary => exact derives
  | or => exact .tighter derives
  | and => exact .tighter (.tighter derives)
  | comparison => exact .tighter (.tighter (.tighter derives))
  | sum => exact .tighter (.tighter (.tighter (.tighter derives)))
  | product => exact product derives
  | unary => exact product (.tighter derives)
  | suffix => exact product (.tighter (.tighter derives))
  | atom => exact product (.tighter (.tighter (.tighter derives)))

end ModalEdit.Script

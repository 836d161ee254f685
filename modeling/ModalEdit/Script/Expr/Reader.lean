import ModalEdit.Script.Expr
import ModalEdit.Script.Token.Sequence

/-!
Expressions read from tokens, one function for each level of precedence, the loosest first:
`c ? a : b`, `||`, `&&`, one comparison, `+ - . ..`, `* / %`, `! - +`, then subscripts, calls and
members, then atoms. Each reading takes at least one token, so all of them end.
-/

set_option autoImplicit false

namespace ModalEdit.Script

/-- What reading gives: something read and fewer tokens than before, or an error. -/
abbrev Reading (α : Type) (tokens : List Token) :=
  Except ScriptError (α × { rest : List Token // rest.length < tokens.length })

/-- As `Reading`, where nothing need be taken. -/
abbrev Continuing (α : Type) (tokens : List Token) :=
  Except ScriptError (α × { rest : List Token // rest.length ≤ tokens.length })

/-- The source from the next token on. -/
def restOfSource (source : List Char) (tokens : List Token) : String :=
  match tokens with
  | token :: _ => String.ofList (source.drop token.start)
  | [] => ""

/-- The error for a source that is no expression. -/
def invalidSource (source : List Char) : ScriptError :=
  .invalidExpression (String.ofList (Text.trim source))

/-- The additive operator that a token stands for. -/
def additiveOperator? : TokenKind → Option BinaryOperator
  | .mark .plus => some .add
  | .mark .minus => some .subtract
  | .mark .dot => some .concat
  | .mark .dotDot => some .concat
  | _ => none

/-- The multiplicative operator that a token stands for. -/
def multiplicativeOperator? : TokenKind → Option BinaryOperator
  | .mark .star => some .multiply
  | .mark .slash => some .divide
  | .mark .percent => some .modulo
  | _ => none

/-- The operator in front of an operand that a token stands for. -/
def unaryOperator? : TokenKind → Option UnaryOperator
  | .mark .bang => some .not
  | .mark .minus => some .negate
  | .mark .plus => some .plus
  | _ => none

/-- The name that a token gives to a member. -/
def memberKey? : TokenKind → Option String
  | .ident name => some name
  | .number value => some (toString value)
  | _ => none

/-- The key that a token gives to a dictionary with literal keys. -/
def literalKey? : TokenKind → Option String
  | .ident name => some name
  | .number value => some (toString value)
  | .str text => some text
  | _ => none

/-- The expression that a token is on its own. -/
def simpleAtom? : TokenKind → Option Expr
  | .number value => some (.number value)
  | .float value => some (.float value)
  | .str text => some (.str text)
  | .blob bytes => some (.blob bytes)
  | .ident name => some (.var name)
  | .option name scope => some (.option name scope)
  | .register name => some (.register name)
  | .env name => some (.env name)
  | _ => none

/-- Takes the mark if it is the next token. -/
def takeMark? (sign : Mark) (tokens : List Token) :
    Option { rest : List Token // rest.length < tokens.length } :=
  match tokens with
  | [] => none
  | token :: rest =>
    if token.kind = .mark sign then some ⟨rest, Nat.lt_succ_self _⟩ else none

/-- As `takeMark?`, where no blank may come before the mark. -/
def takeTightMark? (sign : Mark) (tokens : List Token) :
    Option { rest : List Token // rest.length < tokens.length } :=
  match tokens with
  | [] => none
  | token :: rest =>
    if token.kind = .mark sign ∧ token.spaced = false then some ⟨rest, Nat.lt_succ_self _⟩
    else none

/-- Takes a comparison operator if it is the next token. -/
def takeComparison? (tokens : List Token) :
    Option ((Comparison × CaseMode) × { rest : List Token // rest.length < tokens.length }) :=
  match tokens with
  | [] => none
  | token :: rest =>
    match token.kind with
    | .compare operator case => some ((operator, case), ⟨rest, Nat.lt_succ_self _⟩)
    | _ => none

/-- Takes a dot and the member name behind it, if no blank comes before either. -/
def takeMember? (tokens : List Token) :
    Option (String × { rest : List Token // rest.length < tokens.length }) :=
  match tokens with
  | dot :: name :: rest =>
    if dot.kind = .mark .dot ∧ dot.spaced = false ∧ name.spaced = false then
      (memberKey? name.kind).map fun key =>
        (key, ⟨rest, by simp only [List.length_cons]; omega⟩)
    else none
  | _ => none

section Reader

variable (source : List Char)

mutual

/-- A condition with its two branches, or what binds tighter. -/
def readTernary (tokens : List Token) : Reading Expr tokens :=
  match readOr tokens with
  | .error error => .error error
  | .ok (condition, ⟨rest, h⟩) =>
    match takeMark? .question rest with
    | none => .ok (condition, ⟨rest, h⟩)
    | some ⟨yesTokens, hyesTokens⟩ =>
      match readTernary yesTokens with
      | .error error => .error error
      | .ok (yes, ⟨afterYes, hyes⟩) =>
        match takeMark? .colon afterYes with
        | none => .error (invalidSource source)
        | some ⟨noTokens, hnoTokens⟩ =>
          match readTernary noTokens with
          | .error error => .error error
          | .ok (no, ⟨after, hno⟩) => .ok (.ternary condition yes no, ⟨after, by omega⟩)
termination_by (tokens.length, 20)
decreasing_by all_goals omega

/-- A chain of `||`. -/
def readOr (tokens : List Token) : Reading Expr tokens :=
  match readAnd tokens with
  | .error error => .error error
  | .ok (left, ⟨rest, h⟩) =>
    match readOrRest left rest with
    | .error error => .error error
    | .ok (whole, ⟨after, hafter⟩) => .ok (whole, ⟨after, Nat.lt_of_le_of_lt hafter h⟩)
termination_by (tokens.length, 19)
decreasing_by all_goals omega

def readOrRest (left : Expr) (tokens : List Token) : Continuing Expr tokens :=
  match takeMark? .orOr tokens with
  | none => .ok (left, ⟨tokens, Nat.le_refl _⟩)
  | some ⟨operand, hoperand⟩ =>
    match readAnd operand with
    | .error error => .error error
    | .ok (right, ⟨rest, h⟩) =>
      match readOrRest (.binary .or left right) rest with
      | .error error => .error error
      | .ok (whole, ⟨after, hafter⟩) => .ok (whole, ⟨after, by omega⟩)
termination_by (tokens.length, 18)
decreasing_by all_goals omega

/-- A chain of `&&`. -/
def readAnd (tokens : List Token) : Reading Expr tokens :=
  match readComparison tokens with
  | .error error => .error error
  | .ok (left, ⟨rest, h⟩) =>
    match readAndRest left rest with
    | .error error => .error error
    | .ok (whole, ⟨after, hafter⟩) => .ok (whole, ⟨after, Nat.lt_of_le_of_lt hafter h⟩)
termination_by (tokens.length, 17)
decreasing_by all_goals omega

def readAndRest (left : Expr) (tokens : List Token) : Continuing Expr tokens :=
  match takeMark? .andAnd tokens with
  | none => .ok (left, ⟨tokens, Nat.le_refl _⟩)
  | some ⟨operand, hoperand⟩ =>
    match readComparison operand with
    | .error error => .error error
    | .ok (right, ⟨rest, h⟩) =>
      match readAndRest (.binary .and left right) rest with
      | .error error => .error error
      | .ok (whole, ⟨after, hafter⟩) => .ok (whole, ⟨after, by omega⟩)
termination_by (tokens.length, 16)
decreasing_by all_goals omega

/-- At most one comparison: comparisons do not chain. -/
def readComparison (tokens : List Token) : Reading Expr tokens :=
  match readSum tokens with
  | .error error => .error error
  | .ok (left, ⟨rest, h⟩) =>
    match takeComparison? rest with
    | none => .ok (left, ⟨rest, h⟩)
    | some ((operator, case), ⟨operand, hoperand⟩) =>
      match readSum operand with
      | .error error => .error error
      | .ok (right, ⟨after, hafter⟩) =>
        .ok (.compare operator case left right, ⟨after, by omega⟩)
termination_by (tokens.length, 15)
decreasing_by all_goals omega

/-- A chain of `+`, `-`, `.` and `..`. -/
def readSum (tokens : List Token) : Reading Expr tokens :=
  match readProduct tokens with
  | .error error => .error error
  | .ok (left, ⟨rest, h⟩) =>
    match readSumRest left rest with
    | .error error => .error error
    | .ok (whole, ⟨after, hafter⟩) => .ok (whole, ⟨after, Nat.lt_of_le_of_lt hafter h⟩)
termination_by (tokens.length, 14)
decreasing_by all_goals omega

def readSumRest (left : Expr) (tokens : List Token) : Continuing Expr tokens :=
  match tokens with
  | [] => .ok (left, ⟨[], Nat.le_refl _⟩)
  | token :: operand =>
    match additiveOperator? token.kind with
    | none => .ok (left, ⟨token :: operand, Nat.le_refl _⟩)
    | some operator =>
      match readProduct operand with
      | .error error => .error error
      | .ok (right, ⟨rest, h⟩) =>
        match readSumRest (.binary operator left right) rest with
        | .error error => .error error
        | .ok (whole, ⟨after, hafter⟩) =>
          .ok (whole, ⟨after, by simp only [List.length_cons]; omega⟩)
termination_by (tokens.length, 13)
decreasing_by all_goals (simp only [List.length_cons] at *; omega)

/-- A chain of `*`, `/` and `%`. -/
def readProduct (tokens : List Token) : Reading Expr tokens :=
  match readUnary tokens with
  | .error error => .error error
  | .ok (left, ⟨rest, h⟩) =>
    match readProductRest left rest with
    | .error error => .error error
    | .ok (whole, ⟨after, hafter⟩) => .ok (whole, ⟨after, Nat.lt_of_le_of_lt hafter h⟩)
termination_by (tokens.length, 12)
decreasing_by all_goals omega

def readProductRest (left : Expr) (tokens : List Token) : Continuing Expr tokens :=
  match tokens with
  | [] => .ok (left, ⟨[], Nat.le_refl _⟩)
  | token :: operand =>
    match multiplicativeOperator? token.kind with
    | none => .ok (left, ⟨token :: operand, Nat.le_refl _⟩)
    | some operator =>
      match readUnary operand with
      | .error error => .error error
      | .ok (right, ⟨rest, h⟩) =>
        match readProductRest (.binary operator left right) rest with
        | .error error => .error error
        | .ok (whole, ⟨after, hafter⟩) =>
          .ok (whole, ⟨after, by simp only [List.length_cons]; omega⟩)
termination_by (tokens.length, 11)
decreasing_by all_goals (simp only [List.length_cons] at *; omega)

/-- Any number of operators in front of an operand. -/
def readUnary (tokens : List Token) : Reading Expr tokens :=
  match tokens with
  | [] => .error (invalidSource source)
  | token :: operand =>
    match unaryOperator? token.kind with
    | some operator =>
      match readUnary operand with
      | .error error => .error error
      | .ok (value, ⟨rest, h⟩) =>
        .ok (.unary operator value, ⟨rest, by simp only [List.length_cons]; omega⟩)
    | none => readPostfix (token :: operand)
termination_by (tokens.length, 10)
decreasing_by all_goals (simp only [List.length_cons] at *; omega)

/-- An atom with the subscripts, calls and members behind it. -/
def readPostfix (tokens : List Token) : Reading Expr tokens :=
  match readAtom tokens with
  | .error error => .error error
  | .ok (target, ⟨rest, h⟩) =>
    match readPostfixRest target rest with
    | .error error => .error error
    | .ok (whole, ⟨after, hafter⟩) => .ok (whole, ⟨after, Nat.lt_of_le_of_lt hafter h⟩)
termination_by (tokens.length, 9)
decreasing_by all_goals omega

/-- A bracket, parenthesis or dot continues a target only without a blank before it. -/
def readPostfixRest (target : Expr) (tokens : List Token) : Continuing Expr tokens :=
  match takeTightMark? .openBracket tokens with
  | some ⟨inside, hinside⟩ =>
    match readSubscript target inside with
    | .error error => .error error
    | .ok (value, ⟨rest, h⟩) =>
      match readPostfixRest value rest with
      | .error error => .error error
      | .ok (whole, ⟨after, hafter⟩) => .ok (whole, ⟨after, by omega⟩)
  | none =>
    match takeTightMark? .openParen tokens with
    | some ⟨inside, hinside⟩ =>
      match readArguments inside with
      | .error error => .error error
      | .ok (arguments, ⟨rest, h⟩) =>
        match readPostfixRest (.call target arguments) rest with
        | .error error => .error error
        | .ok (whole, ⟨after, hafter⟩) => .ok (whole, ⟨after, by omega⟩)
    | none =>
      match takeMember? tokens with
      | some (key, ⟨rest, h⟩) =>
        match readPostfixRest (.member target key) rest with
        | .error error => .error error
        | .ok (whole, ⟨after, hafter⟩) => .ok (whole, ⟨after, by omega⟩)
      | none => .ok (target, ⟨tokens, Nat.le_refl _⟩)
termination_by (tokens.length, 8)
decreasing_by all_goals omega

/-- An index or a slice, after its opening bracket. -/
def readSubscript (target : Expr) (tokens : List Token) : Reading Expr tokens :=
  match takeMark? .colon tokens with
  | some ⟨lastTokens, hlastTokens⟩ =>
    match readSliceEnd lastTokens with
    | .error error => .error error
    | .ok (last, ⟨rest, h⟩) => .ok (.slice target none last, ⟨rest, by omega⟩)
  | none =>
    match readTernary tokens with
    | .error error => .error error
    | .ok (first, ⟨afterFirst, hfirst⟩) =>
      match takeMark? .colon afterFirst with
      | some ⟨lastTokens, hlastTokens⟩ =>
        match readSliceEnd lastTokens with
        | .error error => .error error
        | .ok (last, ⟨rest, h⟩) => .ok (.slice target (some first) last, ⟨rest, by omega⟩)
      | none =>
        match takeMark? .closeBracket afterFirst with
        | some ⟨rest, h⟩ => .ok (.index target first, ⟨rest, by omega⟩)
        | none => .error .missingBracket
termination_by (tokens.length, 21)
decreasing_by all_goals omega

/-- The end of a slice after its colon, with the closing bracket. -/
def readSliceEnd (tokens : List Token) : Reading (Option Expr) tokens :=
  match takeMark? .closeBracket tokens with
  | some rest => .ok (none, rest)
  | none =>
    match readTernary tokens with
    | .error error => .error error
    | .ok (last, ⟨afterLast, hlast⟩) =>
      match takeMark? .closeBracket afterLast with
      | some ⟨rest, h⟩ => .ok (some last, ⟨rest, by omega⟩)
      | none => .error .missingBracket
termination_by (tokens.length, 21)
decreasing_by all_goals omega

/-- The arguments of a call, after its opening parenthesis. -/
def readArguments (tokens : List Token) : Reading (List Expr) tokens :=
  match takeMark? .closeParen tokens with
  | some rest => .ok ([], rest)
  | none => readArgumentList tokens
termination_by (tokens.length, 22)
decreasing_by all_goals omega

/-- One argument or more, separated by commas, and the closing parenthesis. -/
def readArgumentList (tokens : List Token) : Reading (List Expr) tokens :=
  match readTernary tokens with
  | .error error => .error error
  | .ok (argument, ⟨afterFirst, hfirst⟩) =>
    match takeMark? .closeParen afterFirst with
    | some ⟨rest, h⟩ => .ok ([argument], ⟨rest, by omega⟩)
    | none =>
      match takeMark? .comma afterFirst with
      | none => .error .missingParen
      | some ⟨more, hmore⟩ =>
        match readArgumentList more with
        | .error error => .error error
        | .ok (arguments, ⟨rest, h⟩) => .ok (argument :: arguments, ⟨rest, by omega⟩)
termination_by (tokens.length, 21)
decreasing_by all_goals omega

/-- A literal, a name, or an expression in parentheses. -/
def readAtom (tokens : List Token) : Reading Expr tokens :=
  match tokens with
  | [] => .error (invalidSource source)
  | token :: inside =>
    match simpleAtom? token.kind with
    | some atom => .ok (atom, ⟨inside, Nat.lt_succ_self _⟩)
    | none =>
      match token.kind with
      | .mark .openParen =>
        match readTernary inside with
        | .error error => .error error
        | .ok (inner, ⟨afterInner, hinner⟩) =>
          match takeMark? .closeParen afterInner with
          | some ⟨rest, h⟩ => .ok (inner, ⟨rest, by simp only [List.length_cons]; omega⟩)
          | none => .error .missingParen
      | .mark .openBracket =>
        match readItems (restOfSource source (token :: inside)) inside with
        | .error error => .error error
        | .ok (items, ⟨rest, h⟩) =>
          .ok (.list items, ⟨rest, by simp only [List.length_cons]; omega⟩)
      | .mark .openBrace =>
        match readEntries (restOfSource source (token :: inside)) false inside with
        | .error error => .error error
        | .ok (entries, ⟨rest, h⟩) =>
          .ok (.dict entries, ⟨rest, by simp only [List.length_cons]; omega⟩)
      | .mark .openLiteralBrace =>
        match readEntries (restOfSource source (token :: inside)) true inside with
        | .error error => .error error
        | .ok (entries, ⟨rest, h⟩) =>
          .ok (.dict entries, ⟨rest, by simp only [List.length_cons]; omega⟩)
      | _ => .error (invalidSource source)
termination_by (tokens.length, 0)
decreasing_by all_goals (simp only [List.length_cons] at *; omega)

/-- The items of a list and its closing bracket; a comma may follow the last item. -/
def readItems (opened : String) (tokens : List Token) : Reading (List Expr) tokens :=
  match takeMark? .closeBracket tokens with
  | some rest => .ok ([], rest)
  | none =>
    if tokens.isEmpty then .error (.missingListEnd opened)
    else
      match readTernary tokens with
      | .error error => .error error
      | .ok (item, ⟨afterItem, hitem⟩) =>
        match takeMark? .comma afterItem with
        | some ⟨more, hmore⟩ =>
          match readItems opened more with
          | .error error => .error error
          | .ok (items, ⟨rest, h⟩) => .ok (item :: items, ⟨rest, by omega⟩)
        | none =>
          match takeMark? .closeBracket afterItem with
          | some ⟨rest, h⟩ => .ok ([item], ⟨rest, by omega⟩)
          | none => .error (.missingListEnd opened)
termination_by (tokens.length, 21)
decreasing_by all_goals omega

/-- The entries of a dictionary and its closing brace; a comma may follow the last entry. -/
def readEntries (opened : String) (literalKeys : Bool) (tokens : List Token) :
    Reading (List (Expr × Expr)) tokens :=
  match takeMark? .closeBrace tokens with
  | some rest => .ok ([], rest)
  | none =>
    if tokens.isEmpty then .error (.missingDictEnd opened)
    else
      match readKey literalKeys tokens with
      | .error error => .error error
      | .ok (key, ⟨afterKey, hkey⟩) =>
        match takeMark? .colon afterKey with
        | none => .error (.missingDictColon (restOfSource source afterKey))
        | some ⟨valueTokens, hvalueTokens⟩ =>
          match readTernary valueTokens with
          | .error error => .error error
          | .ok (value, ⟨afterValue, hvalue⟩) =>
            match takeMark? .comma afterValue with
            | some ⟨more, hmore⟩ =>
              match readEntries opened literalKeys more with
              | .error error => .error error
              | .ok (entries, ⟨rest, h⟩) => .ok ((key, value) :: entries, ⟨rest, by omega⟩)
            | none =>
              match takeMark? .closeBrace afterValue with
              | some ⟨rest, h⟩ => .ok ([(key, value)], ⟨rest, by omega⟩)
              | none => .error (.missingDictEnd opened)
termination_by (tokens.length, 22)
decreasing_by all_goals omega

/-- The key of an entry: an expression, or a single token that is taken as it is. -/
def readKey (literalKeys : Bool) (tokens : List Token) : Reading Expr tokens :=
  if literalKeys then
    match tokens with
    | [] => .error (invalidSource source)
    | token :: rest =>
      match literalKey? token.kind with
      | some key => .ok (.str key, ⟨rest, Nat.lt_succ_self _⟩)
      | none => .error (invalidSource source)
  else readTernary tokens
termination_by (tokens.length, 21)
decreasing_by all_goals omega

end

/-- Expressions one after the other, up to the end. -/
def readSequence (tokens : List Token) : Except ScriptError (List Expr) :=
  if tokens.isEmpty then .ok []
  else
    match readTernary source tokens with
    | .error error => .error error
    | .ok (expr, ⟨rest, _⟩) => (readSequence rest).map (expr :: ·)
termination_by tokens.length

end Reader

/-- Reads tokens that are one expression. -/
def Expr.ofTokens (source : List Char) (tokens : List Token) : Except ScriptError Expr :=
  match readTernary source tokens with
  | .error error => .error error
  | .ok (expr, ⟨rest, _⟩) =>
    if rest.isEmpty then .ok expr else .error (.trailingCharacters (restOfSource source rest))

/-- Reads a text that is one expression. -/
def Expr.parse (source : List Char) : Except ScriptError Expr := do
  Expr.ofTokens source (← tokenize source)

/-- Reads a text that is any number of expressions. -/
def Expr.parseAll (source : List Char) : Except ScriptError (List Expr) := do
  readSequence source (← tokenize source)

end ModalEdit.Script

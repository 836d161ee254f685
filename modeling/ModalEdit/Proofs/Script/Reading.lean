import ModalEdit.Proofs.Script.Grammar
import ModalEdit.Script.Expr.Reader

/-!
What the readers of expressions do, one equation for each, without the bounds that make them end.
An expression of a level is one that binds tighter and what goes on with it: `readLevel` reads both,
`readRest` what goes on.
-/

set_option autoImplicit false

namespace ModalEdit.Script

/-- A tree and the tokens behind it, or an error. -/
abbrev Found (α : Type) : Type := Except ScriptError (α × List Token)

/-- Goes on with what has been found. -/
def Found.andThen {α β : Type} (first : Found α) (next : α → List Token → Found β) : Found β :=
  match first with
  | .error error => .error error
  | .ok (tree, rest) => next tree rest

@[simp] theorem Found.andThen_ok {α β : Type} (tree : α) (rest : List Token)
    (next : α → List Token → Found β) :
    Found.andThen (.ok (tree, rest)) next = next tree rest := rfl

@[simp] theorem Found.andThen_error {α β : Type} (error : ScriptError)
    (next : α → List Token → Found β) :
    Found.andThen (.error error) next = .error error := rfl

section Bounds

variable {α : Type} {fits : List Token → Prop}

/-- What reading gives, without the bound on the tokens left. -/
def found : Except ScriptError (α × { rest : List Token // fits rest }) → Found α
  | .error error => .error error
  | .ok (tree, rest) => .ok (tree, rest.val)

@[simp] theorem found_ok (tree : α) (rest : { rest : List Token // fits rest }) :
    found (.ok (tree, rest)) = .ok (tree, rest.val) := rfl

@[simp] theorem found_error (error : ScriptError) :
    found (.error error : Except ScriptError (α × { rest : List Token // fits rest })) =
      .error error := rfl

end Bounds

/-! ### Taking one token -/

/-- The tokens behind a mark, if it is the next token. -/
def behindMark? (sign : Mark) (tokens : List Token) : Option (List Token) :=
  (takeMark? sign tokens).map Subtype.val

/-- The tokens behind a mark, if it is the next token and no blank comes before it. -/
def behindTightMark? (sign : Mark) (tokens : List Token) : Option (List Token) :=
  (takeTightMark? sign tokens).map Subtype.val

/-- A comparison operator that is the next token, and the tokens behind it. -/
def behindComparison? (tokens : List Token) : Option ((Comparison × CaseMode) × List Token) :=
  (takeComparison? tokens).map fun taken => (taken.1, taken.2.val)

/-- The name of a member that the next two tokens are, and the tokens behind it. -/
def behindMember? (tokens : List Token) : Option (String × List Token) :=
  (takeMember? tokens).map fun taken => (taken.1, taken.2.val)

section Taking

variable {sign : Mark} {tokens rest : List Token}

theorem behindMark?_eq_some_iff :
    behindMark? sign tokens = some rest ↔ ∃ token, tokens = token :: rest ∧ token.Is sign := by
  cases tokens with
  | nil => simp [behindMark?, takeMark?]
  | cons token tokens =>
    simp only [behindMark?, takeMark?, Token.Is, List.cons.injEq, and_assoc, exists_eq_left']
    split <;> simp_all

theorem behindTightMark?_eq_some_iff :
    behindTightMark? sign tokens = some rest ↔
      ∃ token, tokens = token :: rest ∧ token.IsTight sign := by
  cases tokens with
  | nil => simp [behindTightMark?, takeTightMark?]
  | cons token tokens =>
    simp only [behindTightMark?, takeTightMark?, Token.IsTight, List.cons.injEq, and_assoc,
      exists_eq_left']
    split <;> simp_all

theorem behindMark?_eq_none
    (absent : ∀ token rest, tokens = token :: rest → ¬ token.Is sign) :
    behindMark? sign tokens = none := by
  refine Option.eq_none_iff_forall_not_mem.mpr fun rest taken => ?_
  obtain ⟨token, split, is⟩ := behindMark?_eq_some_iff.mp taken
  exact absent token rest split is

theorem behindTightMark?_eq_none
    (absent : ∀ token rest, tokens = token :: rest → ¬ token.IsTight sign) :
    behindTightMark? sign tokens = none := by
  refine Option.eq_none_iff_forall_not_mem.mpr fun rest taken => ?_
  obtain ⟨token, split, is⟩ := behindTightMark?_eq_some_iff.mp taken
  exact absent token rest split is

theorem behindComparison?_eq_some_iff {operator : Comparison} {case : CaseMode} :
    behindComparison? tokens = some ((operator, case), rest) ↔
      ∃ token, tokens = token :: rest ∧ token.kind = .compare operator case := by
  cases tokens with
  | nil => simp [behindComparison?, takeComparison?]
  | cons token tokens =>
    simp only [behindComparison?, takeComparison?, List.cons.injEq, and_assoc, exists_eq_left']
    split <;> simp_all [and_comm]

theorem memberKey?_eq_some_iff {kind : TokenKind} {key : String} :
    memberKey? kind = some key ↔ kind.NamesMember key := by
  constructor
  · intro named
    unfold memberKey? at named
    split at named
    · exact Option.some.inj named ▸ .ident _
    · exact Option.some.inj named ▸ .number _
    · cases named
  · rintro (_ | _) <;> rfl

theorem literalKey?_eq_some_iff {kind : TokenKind} {key : String} :
    literalKey? kind = some key ↔ kind.IsKey key := by
  constructor
  · intro named
    unfold literalKey? at named
    split at named
    · exact Option.some.inj named ▸ .member (.ident _)
    · exact Option.some.inj named ▸ .member (.number _)
    · exact Option.some.inj named ▸ .str _
    · cases named
  · rintro ((_ | _) | _) <;> rfl

theorem simpleAtom?_eq_some_iff {kind : TokenKind} {tree : Expr} :
    simpleAtom? kind = some tree ↔ kind.Denotes tree := by
  constructor
  · intro denotes
    cases kind <;> cases denotes <;> constructor
  · rintro (_ | _ | _ | _ | _ | _ | _ | _) <;> rfl

theorem unaryOperator?_eq_some_iff {kind : TokenKind} {operator : UnaryOperator} :
    unaryOperator? kind = some operator ↔ kind = .mark operator.mark := by
  constructor
  · intro stands
    unfold unaryOperator? at stands
    split at stands <;> cases stands <;> rfl
  · rintro rfl
    cases operator <;> rfl

theorem behindMember?_eq_some_iff {key : String} :
    behindMember? tokens = some (key, rest) ↔
      ∃ dot name, tokens = dot :: name :: rest ∧ dot.IsTight .dot ∧
        name.spaced = false ∧ name.kind.NamesMember key := by
  match tokens with
  | [] => simp [behindMember?, takeMember?]
  | [_] => simp [behindMember?, takeMember?]
  | dot :: name :: tokens =>
    simp only [behindMember?, takeMember?, ← memberKey?_eq_some_iff, Token.IsTight,
      List.cons.injEq, and_assoc, exists_and_left, exists_eq_left']
    split
    · cases named : memberKey? name.kind <;> simp_all [and_comm]
    · simp_all

theorem behindMember?_eq_none_iff : behindMember? tokens = none ↔ ¬ StartsMember tokens := by
  simp only [Option.eq_none_iff_forall_not_mem, Prod.forall, Option.mem_def,
    behindMember?_eq_some_iff, StartsMember]
  constructor
  · rintro none ⟨dot, name, key, rest, starts⟩
    exact none key rest ⟨dot, name, starts⟩
  · rintro none key rest ⟨dot, name, starts⟩
    exact none ⟨dot, name, key, rest, starts⟩

end Taking

/-! ### The levels -/

/-- The operator of a level, between two operands that bind tighter, that a token stands for. -/
def Level.operator? : Level → TokenKind → Option BinaryOperator
  | .or, .mark .orOr => some .or
  | .and, .mark .andAnd => some .and
  | sum, kind => additiveOperator? kind
  | product, kind => multiplicativeOperator? kind
  | _, _ => none

theorem Level.operator?_eq_some_iff {level : Level} {kind : TokenKind} {operator : BinaryOperator} :
    level.operator? kind = some operator ↔
      operator.level = level ∧ ∃ sign ∈ operator.marks, kind = .mark sign := by
  constructor
  · intro stands
    unfold Level.operator? at stands
    split at stands
    · cases stands
      exact ⟨rfl, .orOr, by decide, rfl⟩
    · cases stands
      exact ⟨rfl, .andAnd, by decide, rfl⟩
    · unfold additiveOperator? at stands
      split at stands <;> cases stands
      · exact ⟨rfl, .plus, by decide, rfl⟩
      · exact ⟨rfl, .minus, by decide, rfl⟩
      · exact ⟨rfl, .dot, by decide, rfl⟩
      · exact ⟨rfl, .dotDot, by decide, rfl⟩
    · unfold multiplicativeOperator? at stands
      split at stands <;> cases stands
      · exact ⟨rfl, .star, by decide, rfl⟩
      · exact ⟨rfl, .slash, by decide, rfl⟩
      · exact ⟨rfl, .percent, by decide, rfl⟩
    · cases stands
  · rintro ⟨rfl, sign, stands, rfl⟩
    cases operator <;> simp [BinaryOperator.marks] at stands
    all_goals (try rcases stands with rfl | rfl) <;> rfl

section Readers

variable (source : List Char)

/-- Reads an expression of a level. -/
def readLevel (level : Level) (tokens : List Token) : Found Expr :=
  match level with
  | .ternary => found (readTernary source tokens)
  | .or => found (readOr source tokens)
  | .and => found (readAnd source tokens)
  | .comparison => found (readComparison source tokens)
  | .sum => found (readSum source tokens)
  | .product => found (readProduct source tokens)
  | .unary => found (readUnary source tokens)
  | .suffix => found (readPostfix source tokens)
  | .atom => found (readAtom source tokens)

/-- Reads what goes on with an expression that binds tighter than the level. -/
def readRest (level : Level) (tree : Expr) (tokens : List Token) : Found Expr :=
  match level with
  | .ternary =>
    match behindMark? .question tokens with
    | none => .ok (tree, tokens)
    | some yesTokens =>
      (readLevel source .ternary yesTokens).andThen fun yes afterYes =>
        match behindMark? .colon afterYes with
        | none => .error (invalidSource source)
        | some noTokens =>
          (readLevel source .ternary noTokens).andThen fun no after =>
            .ok (.ternary tree yes no, after)
  | .or => found (readOrRest source tree tokens)
  | .and => found (readAndRest source tree tokens)
  | .comparison =>
    match behindComparison? tokens with
    | none => .ok (tree, tokens)
    | some ((operator, case), operand) =>
      (readLevel source .sum operand).andThen fun right after =>
        .ok (.compare operator case tree right, after)
  | .sum => found (readSumRest source tree tokens)
  | .product => found (readProductRest source tree tokens)
  | .suffix => found (readPostfixRest source tree tokens)
  | .unary | .atom => .ok (tree, tokens)

theorem readLevel_eq {level : Level} (notUnary : level ≠ .unary) (notAtom : level ≠ .atom)
    (tokens : List Token) :
    readLevel source level tokens =
      (readLevel source level.tighter tokens).andThen (readRest source level) := by
  cases level with
  | unary => exact absurd rfl notUnary
  | atom => exact absurd rfl notAtom
  | ternary =>
    simp only [readLevel, Level.tighter]
    rw [readTernary]
    repeat' split
    all_goals simp_all [readRest, readLevel, behindMark?]
  | comparison =>
    simp only [readLevel, Level.tighter]
    rw [readComparison]
    repeat' split
    all_goals simp_all [readRest, readLevel, behindComparison?]
  | or =>
    simp only [readLevel, Level.tighter]
    rw [readOr]
    repeat' split
    all_goals simp_all [readRest]
  | and =>
    simp only [readLevel, Level.tighter]
    rw [readAnd]
    repeat' split
    all_goals simp_all [readRest]
  | sum =>
    simp only [readLevel, Level.tighter]
    rw [readSum]
    repeat' split
    all_goals simp_all [readRest]
  | product =>
    simp only [readLevel, Level.tighter]
    rw [readProduct]
    repeat' split
    all_goals simp_all [readRest]
  | suffix =>
    simp only [readLevel, Level.tighter]
    rw [readPostfix]
    repeat' split
    all_goals simp_all [readRest]

/-- The levels at which operators group to the left. -/
def Level.Chains (level : Level) : Prop :=
  level ∈ [.or, .and, .sum, .product]

instance (level : Level) : Decidable level.Chains :=
  inferInstanceAs (Decidable (level ∈ [.or, .and, .sum, .product]))

theorem BinaryOperator.chains_level (operator : BinaryOperator) : operator.level.Chains := by
  cases operator <;> decide

theorem Level.Chains.apart {level : Level} (chains : level.Chains) :
    level ≠ .unary ∧ level ≠ .atom ∧ level.tighter ≠ .atom := by
  revert chains
  cases level <;> decide

theorem readRest_nil {level : Level} (chains : level.Chains) (left : Expr) :
    readRest source level left [] = .ok (left, []) := by
  simp only [Level.Chains, List.mem_cons, List.not_mem_nil, or_false] at chains
  rcases chains with rfl | rfl | rfl | rfl
  · rw [readRest, readOrRest]; rfl
  · rw [readRest, readAndRest]; rfl
  · rw [readRest, readSumRest]; rfl
  · rw [readRest, readProductRest]; rfl

theorem readRest_cons {level : Level} (chains : level.Chains) (left : Expr) (token : Token)
    (operand : List Token) :
    readRest source level left (token :: operand) =
      match level.operator? token.kind with
      | none => .ok (left, token :: operand)
      | some operator =>
        (readLevel source level.tighter operand).andThen fun right rest =>
          readRest source level (.binary operator left right) rest := by
  simp only [Level.Chains, List.mem_cons, List.not_mem_nil, or_false] at chains
  rcases chains with rfl | rfl | rfl | rfl
  · simp only [readRest, readLevel, Level.tighter]
    rw [readOrRest]
    by_cases is : token.kind = .mark .orOr
    · simp only [takeMark?, is, if_true, Level.operator?]
      repeat' split
      all_goals simp_all
    · simp only [takeMark?, is, if_false, found_ok]
      split
      · rfl
      · simp_all [Level.operator?]
  · simp only [readRest, readLevel, Level.tighter]
    rw [readAndRest]
    by_cases is : token.kind = .mark .andAnd
    · simp only [takeMark?, is, if_true, Level.operator?]
      repeat' split
      all_goals simp_all
    · simp only [takeMark?, is, if_false, found_ok]
      split
      · rfl
      · simp_all [Level.operator?]
  · simp only [readRest, readLevel, Level.tighter]
    rw [readSumRest]
    repeat' split
    all_goals simp_all [Level.operator?]
  · simp only [readRest, readLevel, Level.tighter]
    rw [readProductRest]
    repeat' split
    all_goals simp_all [Level.operator?]

theorem readLevel_unary_cons (token : Token) (operand : List Token) :
    readLevel source .unary (token :: operand) =
      match unaryOperator? token.kind with
      | some operator =>
        (readLevel source .unary operand).andThen fun value rest =>
          .ok (.unary operator value, rest)
      | none => readLevel source .suffix (token :: operand) := by
  simp only [readLevel]
  rw [readUnary]
  repeat' split
  all_goals simp_all

theorem readLevel_unary_nil : readLevel source .unary [] = .error (invalidSource source) := by
  rw [readLevel, readUnary]
  rfl

theorem readRest_suffix (target : Expr) (tokens : List Token) :
    readRest source .suffix target tokens =
      match behindTightMark? .openBracket tokens with
      | some inside =>
        (found (readSubscript source target inside)).andThen (readRest source .suffix)
      | none =>
        match behindTightMark? .openParen tokens with
        | some inside =>
          (found (readArguments source inside)).andThen fun arguments rest =>
            readRest source .suffix (.call target arguments) rest
        | none =>
          match behindMember? tokens with
          | some (key, rest) => readRest source .suffix (.member target key) rest
          | none => .ok (target, tokens) := by
  conv => lhs; rw [readRest, readPostfixRest]
  cases bracket : takeTightMark? .openBracket tokens with
  | some taken =>
    obtain ⟨inside, _⟩ := taken
    simp only [behindTightMark?, bracket, Option.map_some]
    repeat' split
    all_goals simp_all [readRest]
  | none =>
    simp only [behindTightMark?, bracket, Option.map_none]
    cases paren : takeTightMark? .openParen tokens with
    | some taken =>
      obtain ⟨inside, _⟩ := taken
      simp only [Option.map_some]
      repeat' split
      all_goals simp_all [readRest]
    | none =>
      simp only [behindMember?, Option.map_none]
      cases member : takeMember? tokens with
      | some taken =>
        obtain ⟨key, rest, _⟩ := taken
        simp only [Option.map_some, readRest]
        split <;> simp_all
      | none => rfl

theorem found_readSubscript (target : Expr) (tokens : List Token) :
    found (readSubscript source target tokens) =
      match behindMark? .colon tokens with
      | some lastTokens =>
        (found (readSliceEnd source lastTokens)).andThen fun last rest =>
          .ok (.slice target none last, rest)
      | none =>
        (readLevel source .ternary tokens).andThen fun first afterFirst =>
          match behindMark? .colon afterFirst with
          | some lastTokens =>
            (found (readSliceEnd source lastTokens)).andThen fun last rest =>
              .ok (.slice target (some first) last, rest)
          | none =>
            match behindMark? .closeBracket afterFirst with
            | some rest => .ok (.index target first, rest)
            | none => .error .missingBracket := by
  simp only [readLevel]
  rw [readSubscript]
  cases colon : takeMark? .colon tokens with
  | some taken =>
    obtain ⟨lastTokens, _⟩ := taken
    simp only [behindMark?, colon, Option.map_some]
    split <;> simp_all
  | none =>
    simp only [behindMark?, colon, Option.map_none]
    repeat' split
    all_goals simp_all

theorem found_readSliceEnd (tokens : List Token) :
    found (readSliceEnd source tokens) =
      match behindMark? .closeBracket tokens with
      | some rest => .ok (none, rest)
      | none =>
        (readLevel source .ternary tokens).andThen fun last afterLast =>
          match behindMark? .closeBracket afterLast with
          | some rest => .ok (some last, rest)
          | none => .error .missingBracket := by
  simp only [readLevel]
  rw [readSliceEnd]
  repeat' split
  all_goals simp_all [behindMark?]

theorem found_readArguments (tokens : List Token) :
    found (readArguments source tokens) =
      match behindMark? .closeParen tokens with
      | some rest => .ok ([], rest)
      | none => found (readArgumentList source tokens) := by
  rw [readArguments]
  repeat' split
  all_goals simp_all [behindMark?]

theorem found_readArgumentList (tokens : List Token) :
    found (readArgumentList source tokens) =
      (readLevel source .ternary tokens).andThen fun argument afterFirst =>
        match behindMark? .closeParen afterFirst with
        | some rest => .ok ([argument], rest)
        | none =>
          match behindMark? .comma afterFirst with
          | none => .error .missingParen
          | some more =>
            (found (readArgumentList source more)).andThen fun arguments rest =>
              .ok (argument :: arguments, rest) := by
  simp only [readLevel]
  conv => lhs; rw [readArgumentList]
  repeat' split
  all_goals simp_all [behindMark?]

theorem readLevel_atom_cons (token : Token) (inside : List Token) :
    readLevel source .atom (token :: inside) =
      match simpleAtom? token.kind with
      | some atom => .ok (atom, inside)
      | none =>
        match token.kind with
        | .mark .openParen =>
          (readLevel source .ternary inside).andThen fun inner afterInner =>
            match behindMark? .closeParen afterInner with
            | some rest => .ok (inner, rest)
            | none => .error .missingParen
        | .mark .openBracket =>
          (found (readItems source (restOfSource source (token :: inside)) inside)).andThen
            fun items rest => .ok (.list items, rest)
        | .mark .openBrace =>
          (found (readEntries source (restOfSource source (token :: inside)) false inside)).andThen
            fun entries rest => .ok (.dict entries, rest)
        | .mark .openLiteralBrace =>
          (found (readEntries source (restOfSource source (token :: inside)) true inside)).andThen
            fun entries rest => .ok (.dict entries, rest)
        | _ => .error (invalidSource source) := by
  simp only [readLevel]
  rw [readAtom]
  repeat' split
  all_goals simp_all [behindMark?]

theorem readLevel_atom_nil : readLevel source .atom [] = .error (invalidSource source) := by
  rw [readLevel, readAtom]
  rfl

theorem found_readItems (opened : String) (tokens : List Token) :
    found (readItems source opened tokens) =
      match behindMark? .closeBracket tokens with
      | some rest => .ok ([], rest)
      | none =>
        if tokens.isEmpty then .error (.missingListEnd opened)
        else
          (readLevel source .ternary tokens).andThen fun item afterItem =>
            match behindMark? .comma afterItem with
            | some more =>
              (found (readItems source opened more)).andThen fun items rest =>
                .ok (item :: items, rest)
            | none =>
              match behindMark? .closeBracket afterItem with
              | some rest => .ok ([item], rest)
              | none => .error (.missingListEnd opened) := by
  simp only [readLevel]
  conv => lhs; rw [readItems]
  repeat' split
  all_goals simp_all [behindMark?]

theorem found_readEntries (opened : String) (literalKeys : Bool) (tokens : List Token) :
    found (readEntries source opened literalKeys tokens) =
      match behindMark? .closeBrace tokens with
      | some rest => .ok ([], rest)
      | none =>
        if tokens.isEmpty then .error (.missingDictEnd opened)
        else
          (found (readKey source literalKeys tokens)).andThen fun key afterKey =>
            match behindMark? .colon afterKey with
            | none => .error (.missingDictColon (restOfSource source afterKey))
            | some valueTokens =>
              (readLevel source .ternary valueTokens).andThen fun value afterValue =>
                match behindMark? .comma afterValue with
                | some more =>
                  (found (readEntries source opened literalKeys more)).andThen
                    fun entries rest => .ok ((key, value) :: entries, rest)
                | none =>
                  match behindMark? .closeBrace afterValue with
                  | some rest => .ok ([(key, value)], rest)
                  | none => .error (.missingDictEnd opened) := by
  simp only [readLevel]
  conv => lhs; rw [readEntries]
  repeat' split
  all_goals simp_all [behindMark?]

theorem found_readKey_expr (tokens : List Token) :
    found (readKey source false tokens) = readLevel source .ternary tokens := by
  rw [readKey.eq_def]
  simp [readLevel]

theorem found_readKey_literal (tokens : List Token) :
    found (readKey source true tokens) =
      match tokens with
      | [] => .error (invalidSource source)
      | token :: rest =>
        match literalKey? token.kind with
        | some key => .ok (.str key, rest)
        | none => .error (invalidSource source) := by
  rw [readKey.eq_def]
  cases tokens with
  | nil => rfl
  | cons token rest => cases key : literalKey? token.kind <;> simp [key]

end Readers

end ModalEdit.Script

import ModalEdit.Proofs.Script.Reading
import Mathlib.Tactic.SplitIfs

/-!
The readers of expressions as functions that share one place in a list of tokens, call one another and
loop. Nothing but their own progress makes them end: a number bounds how deep the calls may go, and what
needs more of them has no outcome.
-/

set_option autoImplicit false

namespace ModalEdit.Script

/-- Works from a place in the tokens: an answer and the place behind it, an error, or no outcome. -/
abbrev Walk (α : Type) : Type := StateT Nat (ExceptT ScriptError Option) α

/-- A function of the descent and what it is given, or a loop and what it has collected. -/
inductive Call where
  /-- An expression in which nothing binds looser than the level. -/
  | level (level : Level)
  /-- What goes on with an expression that binds tighter than the level. -/
  | rest (level : Level) (tree : Expr)
  /-- An index or a slice, after its opening bracket. -/
  | subscript (target : Expr)
  /-- The arguments of a call, after its opening parenthesis. -/
  | arguments
  | argumentList (taken : List Expr)
  | items (opened : String) (taken : List Expr)
  | entries (opened : String) (literalKeys : Bool) (taken : List (Expr × Expr))
  /-- Expressions one after the other, up to the end. -/
  | sequence (taken : List Expr)

/-- What a call gives. -/
abbrev Call.Answer : Call → Type
  | level _ => Expr
  | rest _ _ => Expr
  | subscript _ => Expr
  | arguments => List Expr
  | argumentList _ => List Expr
  | items _ _ => List Expr
  | entries _ _ _ => List (Expr × Expr)
  | sequence _ => List Expr

namespace Walk

variable (tokens : List Token)

def peek? : Walk (Option TokenKind) := do
  return (tokens[← get]?).map (·.kind)

def atEnd : Walk Bool := do
  return tokens.length ≤ (← get)

/-- Goes over a token, if there is one. -/
def advance? : Walk (Option TokenKind) := do
  match ← peek? tokens with
  | none => return none
  | some kind =>
    modify (· + 1)
    return some kind

/-- Goes over the mark if it is the next token. -/
def eat (sign : Mark) : Walk Bool := do
  if (← peek? tokens) = some (.mark sign) then
    modify (· + 1)
    return true
  else return false

/-- Goes over the mark, which has to be there. -/
def expect (sign : Mark) (error : ScriptError) : Walk Unit := do
  if ← eat tokens sign then return () else throw error

/-- Goes over a comma, which may be left out in front of the closing mark. -/
def separate (closing : Mark) (error : ScriptError) : Walk Unit := do
  if ← eat tokens .comma then return ()
  else if (← peek? tokens) = some (.mark closing) then return ()
  else throw error

/-- What is left out where the mark is the next token. -/
def optional {α : Type} (sign : Mark) (walk : Walk α) : Walk (Option α) := do
  if (← peek? tokens) = some (.mark sign) then return none
  else return some (← walk)

/-- The key of an entry: a token that is taken as it stands, or an expression. -/
def key (source : List Char) (literal : Bool) (walk : Walk Expr) : Walk Expr :=
  if literal then do
    match (← advance? tokens).bind literalKey? with
    | some key => return .str key
    | none => throw (invalidSource source)
  else walk

/-- What goes on with a target, where no blank comes before it. -/
inductive Suffix where
  | subscript
  | arguments
  | member (key : String)

/-- Goes over what goes on with a target, and over the name of a member too. -/
def suffix? : Walk (Option Suffix) := do
  let place ← get
  match tokens[place]? with
  | none => return none
  | some token =>
    if token.spaced then return none
    else
      match token.kind with
      | .mark .openBracket =>
        modify (· + 1)
        return some .subscript
      | .mark .openParen =>
        modify (· + 1)
        return some .arguments
      | .mark .dot =>
        match tokens[place + 1]? with
        | none => return none
        | some name =>
          if name.spaced then return none
          else
            match memberKey? name.kind with
            | some key =>
              modify (· + 2)
              return some (.member key)
            | none => return none
      | _ => return none

end Walk

section Descent

variable (source : List Char) (tokens : List Token)

open Walk

/-- What one function does, where others do what it calls. -/
def body (walk : (call : Call) → Walk call.Answer) : (call : Call) → Walk call.Answer
  | .level .unary => do
    match (← peek? tokens).bind unaryOperator? with
    | some operator =>
      modify (· + 1)
      return .unary operator (← walk (.level .unary))
    | none => walk (.level .suffix)
  | .level .atom => do
    let opened := restOfSource source (tokens.drop (← get))
    match ← advance? tokens with
    | none => throw (invalidSource source)
    | some kind =>
      match simpleAtom? kind with
      | some atom => return atom
      | none =>
        match kind with
        | .mark .openParen =>
          let inner ← walk (.level .ternary)
          expect tokens .closeParen .missingParen
          return inner
        | .mark .openBracket => return .list (← walk (.items opened []))
        | .mark .openBrace => return .dict (← walk (.entries opened false []))
        | .mark .openLiteralBrace => return .dict (← walk (.entries opened true []))
        | _ => throw (invalidSource source)
  | .level level => do
    let tree ← walk (.level level.tighter)
    walk (.rest level tree)
  | .rest .ternary condition => do
    if ← eat tokens .question then
      let yes ← walk (.level .ternary)
      expect tokens .colon (invalidSource source)
      let no ← walk (.level .ternary)
      return .ternary condition yes no
    else return condition
  | .rest .comparison left => do
    match ← peek? tokens with
    | some (.compare operator case) =>
      modify (· + 1)
      return .compare operator case left (← walk (.level .sum))
    | _ => return left
  | .rest .suffix target => do
    match ← suffix? tokens with
    | some .subscript =>
      let value ← walk (.subscript target)
      walk (.rest .suffix value)
    | some .arguments =>
      let arguments ← walk .arguments
      walk (.rest .suffix (.call target arguments))
    | some (.member key) => walk (.rest .suffix (.member target key))
    | none => return target
  | .rest level left => do
    match (← peek? tokens).bind level.operator? with
    | some operator =>
      modify (· + 1)
      let right ← walk (.level level.tighter)
      walk (.rest level (.binary operator left right))
    | none => return left
  | .subscript target => do
    let first ← optional tokens .colon (walk (.level .ternary))
    if ← eat tokens .colon then
      let last ← optional tokens .closeBracket (walk (.level .ternary))
      expect tokens .closeBracket .missingBracket
      return .slice target first last
    else
      expect tokens .closeBracket .missingBracket
      match first with
      | some position => return .index target position
      | none => throw (invalidSource source)
  | .arguments => do
    if ← eat tokens .closeParen then return []
    else walk (.argumentList [])
  | .argumentList taken => do
    let argument ← walk (.level .ternary)
    if ← eat tokens .closeParen then return taken ++ [argument]
    else
      expect tokens .comma .missingParen
      walk (.argumentList (taken ++ [argument]))
  | .items opened taken => do
    if ← eat tokens .closeBracket then return taken
    else if ← atEnd tokens then throw (.missingListEnd opened)
    else
      let item ← walk (.level .ternary)
      separate tokens .closeBracket (.missingListEnd opened)
      walk (.items opened (taken ++ [item]))
  | .entries opened literalKeys taken => do
    if ← eat tokens .closeBrace then return taken
    else if ← atEnd tokens then throw (.missingDictEnd opened)
    else
      let key ← key tokens source literalKeys (walk (.level .ternary))
      if ← eat tokens .colon then
        let value ← walk (.level .ternary)
        separate tokens .closeBrace (.missingDictEnd opened)
        walk (.entries opened literalKeys (taken ++ [(key, value)]))
      else throw (.missingDictColon (restOfSource source (tokens.drop (← get))))
  | .sequence taken => do
    if ← atEnd tokens then return taken
    else
      let tree ← walk (.level .ternary)
      walk (.sequence (taken ++ [tree]))

/-- The descent, with calls inside calls up to a depth. -/
def descend : Nat → (call : Call) → Walk call.Answer
  | 0, _ => fun _ => none
  | depth + 1, call => body source tokens (descend depth) call

end Descent

/-! ### Single steps -/

section Steps

variable {α β : Type} {tokens : List Token}

namespace Walk

variable {place : Nat}

/-- The mark is the token at the place. -/
abbrev At (tokens : List Token) (place : Nat) (sign : Mark) : Prop :=
  tokens[place]?.map (·.kind) = some (.mark sign)

theorem drop_of_getElem?_eq_some {token : Token} (is : tokens[place]? = some token) :
    tokens.drop place = token :: tokens.drop (place + 1) := by
  rw [List.drop_eq_getElem?_toList_append, is]
  rfl

theorem drop_of_getElem?_eq_none (none : tokens[place]? = none) : tokens.drop place = [] :=
  List.drop_eq_nil_of_le (List.getElem?_eq_none_iff.mp none)

theorem lt_length_of_getElem?_eq_some {token : Token} (is : tokens[place]? = some token) :
    place < tokens.length :=
  (List.getElem?_eq_some_iff.mp is).1

theorem At.lt_length {sign : Mark} (is : At tokens place sign) : place < tokens.length := by
  obtain ⟨token, is, -⟩ := Option.map_eq_some_iff.mp is
  exact lt_length_of_getElem?_eq_some is

theorem behindMark?_cons (sign : Mark) (token : Token) (rest : List Token) :
    behindMark? sign (token :: rest) = if token.kind = .mark sign then some rest else none := by
  rw [behindMark?, takeMark?]
  split_ifs <;> rfl

theorem behindTightMark?_cons (sign : Mark) (token : Token) (rest : List Token) :
    behindTightMark? sign (token :: rest) =
      if token.kind = .mark sign ∧ token.spaced = false then some rest else none := by
  rw [behindTightMark?, takeTightMark?]
  split_ifs <;> rfl

theorem behindMember?_of_not_tight {dot : Token} {rest : List Token} (apart : ¬ dot.IsTight .dot) :
    behindMember? (dot :: rest) = none := by
  refine behindMember?_eq_none_iff.mpr ?_
  rintro ⟨_, _, _, _, starts, tight, -⟩
  cases starts
  exact apart tight

theorem behindMember?_cons_cons {dot : Token} (tight : dot.IsTight .dot) (name : Token)
    (rest : List Token) :
    behindMember? (dot :: name :: rest) =
      if name.spaced = false then (memberKey? name.kind).map (·, rest) else none := by
  simp only [behindMember?, takeMember?, tight.1, tight.2, true_and]
  split_ifs
  · rw [Option.map_map]
    rfl
  · rfl

theorem behindMark?_drop (sign : Mark) :
    behindMark? sign (tokens.drop place) =
      if At tokens place sign then some (tokens.drop (place + 1)) else none := by
  rcases Option.eq_none_or_eq_some tokens[place]? with is | ⟨token, is⟩
  · rw [drop_of_getElem?_eq_none is]
    simp only [At, is]
    rfl
  · rw [drop_of_getElem?_eq_some is, behindMark?_cons]
    simp only [At, is, Option.map_some, Option.some.injEq]

theorem pure_apply (answer : α) : (pure answer : Walk α) place = some (.ok (answer, place)) := rfl

theorem bind_apply (walk : Walk α) (next : α → Walk β) :
    (walk >>= next) place =
      match walk place with
      | none => none
      | some (.error failure) => some (.error failure)
      | some (.ok (answer, reached)) => next answer reached := by
  change Option.bind (walk place) (ExceptT.bindCont fun (answer, reached) => next answer reached) = _
  rcases walk place with _ | _ | ⟨answer, reached⟩ <;> rfl

theorem get_bind (next : Nat → Walk β) : (get >>= next : Walk β) place = next place place := rfl

theorem modify_bind (change : Nat → Nat) (next : Unit → Walk β) :
    (modify change >>= next : Walk β) place = next () (change place) := rfl

theorem peek?_bind (next : Option TokenKind → Walk β) :
    (peek? tokens >>= next) place = next (tokens[place]?.map (·.kind)) place := rfl

theorem atEnd_ite (yes no : Walk β) :
    (atEnd tokens >>= fun ended => if ended = true then yes else no) place =
      if tokens.length ≤ place then yes place else no place := by
  change (if decide (tokens.length ≤ place) = true then yes else no) place = _
  simp only [decide_eq_true_eq]
  split_ifs <;> rfl

theorem advance?_bind (next : Option TokenKind → Walk β) :
    (advance? tokens >>= next) place =
      match tokens[place]? with
      | none => next none place
      | some token => next (some token.kind) (place + 1) := by
  rw [advance?, bind_assoc, peek?_bind]
  cases tokens[place]? <;> rfl

theorem eat_ite (sign : Mark) (yes no : Walk β) :
    (eat tokens sign >>= fun taken => if taken = true then yes else no) place =
      if At tokens place sign then yes (place + 1) else no place := by
  rw [eat, bind_assoc, peek?_bind]
  split_ifs <;> rfl

theorem expect_bind (sign : Mark) (error : ScriptError) (next : Unit → Walk β) :
    (expect tokens sign error >>= next) place =
      if At tokens place sign then next () (place + 1) else some (.error error) := by
  rw [bind_apply, expect, eat_ite]
  split_ifs <;> rfl

theorem separate_bind (closing : Mark) (error : ScriptError) (next : Unit → Walk β) :
    (separate tokens closing error >>= next) place =
      if At tokens place .comma then next () (place + 1)
      else if At tokens place closing then next () place
      else some (.error error) := by
  rw [bind_apply, separate, eat_ite, peek?_bind]
  split_ifs <;> rfl

theorem optional_bind (sign : Mark) (walk : Walk α) (next : Option α → Walk β) :
    (optional tokens sign walk >>= next) place =
      if At tokens place sign then next none place
      else (walk >>= fun answer => next (some answer)) place := by
  rw [optional, bind_assoc, peek?_bind]
  split_ifs
  · rfl
  · simp only [bind_assoc, pure_bind]

/-- What goes on with a target, and what the readers take for it. -/
theorem suffix?_cases (tokens : List Token) (place : Nat) :
    (place < tokens.length ∧ suffix? tokens place = some (.ok (some .subscript, place + 1)) ∧
        behindTightMark? .openBracket (tokens.drop place) = some (tokens.drop (place + 1))) ∨
      behindTightMark? .openBracket (tokens.drop place) = none ∧
      ((place < tokens.length ∧ suffix? tokens place = some (.ok (some .arguments, place + 1)) ∧
          behindTightMark? .openParen (tokens.drop place) = some (tokens.drop (place + 1))) ∨
        behindTightMark? .openParen (tokens.drop place) = none ∧
        ((∃ key, place + 1 < tokens.length ∧
            suffix? tokens place = some (.ok (some (.member key), place + 2)) ∧
            behindMember? (tokens.drop place) = some (key, tokens.drop (place + 2))) ∨
          suffix? tokens place = some (.ok (none, place)) ∧
            behindMember? (tokens.drop place) = none)) := by
  have run : suffix? tokens place = (get >>= fun place => _ : Walk (Option Suffix)) place := rfl
  rw [get_bind] at run
  rcases Option.eq_none_or_eq_some tokens[place]? with is | ⟨token, is⟩
  · rw [drop_of_getElem?_eq_none is]
    simp only [is] at run
    exact .inr ⟨rfl, .inr ⟨rfl, .inr ⟨run, rfl⟩⟩⟩
  simp only [is] at run
  have within := lt_length_of_getElem?_eq_some is
  rw [drop_of_getElem?_eq_some is, behindTightMark?_cons, behindTightMark?_cons]
  by_cases spaced : token.spaced = true
  · rw [if_pos spaced] at run
    have noMember : behindMember? (token :: tokens.drop (place + 1)) = none :=
      behindMember?_of_not_tight fun tight => by simp [tight.2] at spaced
    simp [spaced, run, noMember, pure_apply]
  rw [if_neg spaced] at run
  by_cases bracket : token.kind = .mark .openBracket
  · simp only [bracket] at run
    exact .inl ⟨within, run, if_pos ⟨bracket, eq_false_of_ne_true spaced⟩⟩
  by_cases paren : token.kind = .mark .openParen
  · simp only [paren] at run
    exact .inr ⟨if_neg (fun is => bracket is.1),
      .inl ⟨within, run, if_pos ⟨paren, eq_false_of_ne_true spaced⟩⟩⟩
  refine .inr ⟨if_neg (fun is => bracket is.1), .inr ⟨if_neg (fun is => paren is.1), ?_⟩⟩
  by_cases dot : token.kind = .mark .dot
  · simp only [dot] at run
    rcases Option.eq_none_or_eq_some tokens[place + 1]? with isName | ⟨name, isName⟩
    · rw [drop_of_getElem?_eq_none isName]
      simp only [isName] at run
      exact .inr ⟨run, rfl⟩
    rw [drop_of_getElem?_eq_some isName, behindMember?_cons_cons ⟨dot, eq_false_of_ne_true spaced⟩]
    simp only [isName] at run
    by_cases apart : name.spaced = true
    · rw [if_pos apart] at run
      exact .inr ⟨run, if_neg (by simp [apart])⟩
    rw [if_neg apart] at run
    rw [if_pos (eq_false_of_ne_true apart)]
    cases named : memberKey? name.kind with
    | none =>
      simp only [named] at run
      exact .inr ⟨run, rfl⟩
    | some key =>
      simp only [named] at run
      exact .inl ⟨key, lt_length_of_getElem?_eq_some isName, run, rfl⟩
  · refine .inr ⟨?_, behindMember?_of_not_tight fun is => dot is.1⟩
    cases kind : token.kind with
    | mark sign =>
      simp only [kind] at run bracket paren dot
      cases sign <;> first | exact run | contradiction
    | _ =>
      simp only [kind] at run
      exact run

end Walk

end Steps

end ModalEdit.Script

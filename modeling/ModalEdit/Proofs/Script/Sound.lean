import ModalEdit.Proofs.Script.Reading

/-!
The readers are sound: what they take derives the tree that they give, and where they fail the error is
one of syntax. Both are shown at once, for all levels, by induction on the number of tokens.
-/

set_option autoImplicit false

namespace ModalEdit

/-- The numbers of the errors for tokens that are no expression. -/
def ScriptError.syntaxCodes : List String :=
  ["E15", "E110", "E111", "E488", "E697", "E720", "E723"]

def ScriptError.IsSyntax (error : ScriptError) : Prop :=
  ∃ code ∈ syntaxCodes, error.code? = some code

namespace Script

/-- What was found is as wanted, or the error is one of syntax. -/
def Found.Meets {α : Type} (outcome : Found α) (wanted : α → List Token → Prop) : Prop :=
  match outcome with
  | .ok (tree, rest) => wanted tree rest
  | .error error => error.IsSyntax

theorem Found.Meets.andThen {α β : Type} {wanted : α → List Token → Prop}
    {wantedNext : β → List Token → Prop} {outcome : Found α} {next : α → List Token → Found β}
    (first : outcome.Meets wanted)
    (second : ∀ tree rest, wanted tree rest → Found.Meets (next tree rest) wantedNext) :
    Found.Meets (outcome.andThen next) wantedNext := by
  match outcome with
  | .ok (tree, rest) => exact second tree rest first
  | .error error => exact first

theorem Found.Meets.imp {α : Type} {wanted weaker : α → List Token → Prop} {outcome : Found α}
    (meets : outcome.Meets wanted) (implies : ∀ tree rest, wanted tree rest → weaker tree rest) :
    outcome.Meets weaker := by
  match outcome with
  | .ok (tree, rest) => exact implies tree rest meets
  | .error error => exact meets

theorem Found.meets_error {α : Type} {wanted : α → List Token → Prop} {error : ScriptError}
    (code : String) (listed : code ∈ ScriptError.syntaxCodes)
    (numbered : error.code? = some code) : Found.Meets (.error error) wanted :=
  ⟨code, listed, numbered⟩

theorem Found.meets_invalidSource {α : Type} {wanted : α → List Token → Prop}
    (source : List Char) : Found.Meets (.error (invalidSource source)) wanted :=
  Found.meets_error "E15" (by decide) rfl

theorem StartsMember.append {tokens : List Token} (starts : StartsMember tokens)
    (rest : List Token) : StartsMember (tokens ++ rest) := by
  obtain ⟨dot, name, key, behind, rfl, tight⟩ := starts
  exact ⟨dot, name, key, behind ++ rest, rfl, tight⟩

/-- Only the bound of a slice can be without tokens. -/
theorem Derives.ne_nil {phrase : Phrase} {tokens : List Token} {tree : phrase.Tree}
    (derives : Derives phrase tokens tree) (notBound : phrase ≠ .bound) : tokens ≠ [] := by
  induction derives <;> simp_all

/-- The tokens begin with a phrase. -/
def Splits (phrase : Phrase) (tokens : List Token) (tree : phrase.Tree) (rest : List Token) :
    Prop :=
  ∃ taken, tokens = taken ++ rest ∧ Derives phrase taken tree

theorem Splits.length_lt {phrase : Phrase} {tokens rest : List Token} {tree : phrase.Tree}
    (splits : Splits phrase tokens tree rest) (notBound : phrase ≠ .bound) :
    rest.length < tokens.length := by
  obtain ⟨taken, rfl, derives⟩ := splits
  have := List.length_pos_iff.mpr (derives.ne_nil notBound)
  simp only [List.length_append]
  omega

/-- The tokens begin with the items of a list, or the entries of a dictionary, and what closes it. -/
def Enclosed {α : Type} (derives : List Token → List α → Prop) (closing : Mark)
    (tokens : List Token) (items : List α) (rest : List Token) : Prop :=
  (∃ token, tokens = token :: rest ∧ token.Is closing ∧ items = []) ∨
    ∃ inside, ∃ comma? : Option Token, ∃ token,
      tokens = inside ++ comma?.toList ++ token :: rest ∧
      derives inside items ∧ (∀ comma ∈ comma?, comma.Is .comma) ∧ token.Is closing

section Enclosed

variable {α : Type} {derives : List Token → List α → Prop} {closing : Mark} {item : α}
  {items : List α} {taken others rest : List Token} {token comma : Token}

theorem Enclosed.last (one : derives taken [item]) (closes : token.Is closing) :
    Enclosed derives closing (taken ++ token :: rest) [item] rest :=
  .inr ⟨taken, none, token, by simp, one, by simp, closes⟩

/-- A comma is followed by more, or by what closes. -/
theorem Enclosed.more (separates : comma.Is .comma) (one : derives taken [item])
    (another : ∀ inside, derives inside items → derives (taken ++ comma :: inside) (item :: items))
    (enclosed : Enclosed derives closing others items rest) :
    Enclosed derives closing (taken ++ comma :: others) (item :: items) rest := by
  rcases enclosed with
    ⟨token, rfl, closes, rfl⟩ | ⟨inside, comma?, token, rfl, derived, commas, closes⟩
  · exact .inr ⟨taken, some comma, token, by simp, one, by simpa using separates, closes⟩
  · exact .inr ⟨taken ++ comma :: inside, comma?, token, by simp, another inside derived, commas,
      closes⟩

end Enclosed

theorem Enclosed.splits_list {token : Token} {inside rest : List Token} {items : List Expr}
    (opens : token.Is .openBracket)
    (enclosed : Enclosed (Derives .sequence) .closeBracket inside items rest) :
    Splits (.expr .atom) (token :: inside) (.list items) rest := by
  rcases enclosed with ⟨closing, rfl, closes, rfl⟩ |
    ⟨taken, comma?, closing, rfl, derives, commas, closes⟩
  · exact ⟨[token, closing], rfl, .emptyList opens closes⟩
  · exact ⟨token :: taken ++ comma?.toList ++ [closing], by simp, .list opens derives commas closes⟩

theorem Enclosed.splits_dict {token : Token} {literalKeys : Bool} {inside rest : List Token}
    {entries : List (Expr × Expr)} (opens : token.Is (openingBrace literalKeys))
    (enclosed : Enclosed (Derives (.entries literalKeys)) .closeBrace inside entries rest) :
    Splits (.expr .atom) (token :: inside) (.dict entries) rest := by
  rcases enclosed with ⟨closing, rfl, closes, rfl⟩ |
    ⟨taken, comma?, closing, rfl, derives, commas, closes⟩
  · exact ⟨[token, closing], rfl, .emptyDict opens closes⟩
  · exact ⟨token :: taken ++ comma?.toList ++ [closing], by simp, .dict opens derives commas closes⟩

/-- The tokens begin with what goes on with an expression, and no member goes on behind that. -/
def GoesOn (level : Level) (done tokens : List Token) (tree : Expr) (rest : List Token) : Prop :=
  ∃ taken, tokens = taken ++ rest ∧ Derives (.expr level) (done ++ taken) tree ∧
    ¬ StartsMember rest

theorem GoesOn.behind {level : Level} {done first tokens rest : List Token} {tree : Expr}
    (goesOn : GoesOn level (done ++ first) tokens tree rest) :
    GoesOn level done (first ++ tokens) tree rest := by
  obtain ⟨taken, rfl, derives, none⟩ := goesOn
  exact ⟨first ++ taken, by simp, by simpa using derives, none⟩

section Readers

variable (source : List Char)

/-- An expression of the level is read as it should be. Behind all but an atom no member goes on. -/
def SoundAt (level : Level) (tokens : List Token) : Prop :=
  (readLevel source level tokens).Meets fun tree rest =>
    Splits (.expr level) tokens tree rest ∧ (level ≠ .atom → ¬ StartsMember rest)

section Shorter

variable {source} {bound : Nat}
  (below : ∀ level tokens, tokens.length < bound → SoundAt source level tokens)
include below

theorem meets_readSliceEnd {tokens : List Token} (shorter : tokens.length < bound) :
    (found (readSliceEnd source tokens)).Meets fun last rest =>
      ∃ taken closing, tokens = taken ++ closing :: rest ∧ Derives .bound taken last ∧
        closing.Is .closeBracket := by
  rw [found_readSliceEnd]
  cases closes : behindMark? .closeBracket tokens with
  | some rest =>
    obtain ⟨closing, rfl, is⟩ := behindMark?_eq_some_iff.mp closes
    exact ⟨[], closing, rfl, .noBound, is⟩
  | none =>
    refine (below .ternary tokens shorter).andThen fun last afterLast read => ?_
    obtain ⟨⟨taken, rfl, derives⟩, _⟩ := read
    cases closes : behindMark? .closeBracket afterLast with
    | none => exact Found.meets_error "E111" (by decide) rfl
    | some rest =>
      obtain ⟨closing, rfl, is⟩ := behindMark?_eq_some_iff.mp closes
      exact ⟨taken, closing, rfl, .bound derives, is⟩

/-- What stands behind an opening bracket goes on with the target. -/
theorem meets_readSubscript {target : Expr} {done : List Token} {opening : Token}
    (derivesTarget : Derives (.expr .suffix) done target) (opens : opening.IsTight .openBracket)
    {tokens : List Token} (shorter : tokens.length < bound) :
    (found (readSubscript source target tokens)).Meets fun tree rest =>
      ∃ taken, tokens = taken ++ rest ∧ taken ≠ [] ∧
        Derives (.expr .suffix) (done ++ opening :: taken) tree := by
  rw [found_readSubscript]
  cases separates : behindMark? .colon tokens with
  | some lastTokens =>
    obtain ⟨colon, rfl, isColon⟩ := behindMark?_eq_some_iff.mp separates
    simp only [List.length_cons] at shorter
    refine (meets_readSliceEnd below (by omega)).andThen fun last rest ends => ?_
    obtain ⟨taken, closing, rfl, derivesLast, closes⟩ := ends
    refine ⟨colon :: taken ++ [closing], by simp, by simp, ?_⟩
    simpa using Derives.slice derivesTarget opens .noBound isColon derivesLast closes
  | none =>
    refine (below .ternary tokens shorter).andThen fun first afterFirst read => ?_
    obtain ⟨splits, _⟩ := read
    have afterShorter := splits.length_lt (by simp)
    obtain ⟨position, rfl, derivesFirst⟩ := splits
    cases separates : behindMark? .colon afterFirst with
    | some lastTokens =>
      obtain ⟨colon, rfl, isColon⟩ := behindMark?_eq_some_iff.mp separates
      simp only [List.length_cons] at afterShorter
      refine (meets_readSliceEnd below (by omega)).andThen fun last rest ends => ?_
      obtain ⟨taken, closing, rfl, derivesLast, closes⟩ := ends
      refine ⟨position ++ colon :: taken ++ [closing], by simp, by simp, ?_⟩
      simpa using
        Derives.slice derivesTarget opens (.bound derivesFirst) isColon derivesLast closes
    | none =>
      dsimp only
      cases closes : behindMark? .closeBracket afterFirst with
      | none => exact Found.meets_error "E111" (by decide) rfl
      | some rest =>
        obtain ⟨closing, rfl, is⟩ := behindMark?_eq_some_iff.mp closes
        refine ⟨position ++ [closing], by simp, by simp, ?_⟩
        simpa using Derives.index derivesTarget opens derivesFirst is

theorem meets_readArgumentList {tokens : List Token} (shorter : tokens.length < bound) :
    (found (readArgumentList source tokens)).Meets fun items rest =>
      ∃ taken closing, tokens = taken ++ closing :: rest ∧ Derives .sequence taken items ∧
        closing.Is .closeParen := by
  rw [found_readArgumentList]
  refine (below .ternary tokens shorter).andThen fun argument afterFirst read => ?_
  obtain ⟨splits, _⟩ := read
  have afterShorter := splits.length_lt (by simp)
  obtain ⟨first, rfl, derivesFirst⟩ := splits
  cases closes : behindMark? .closeParen afterFirst with
  | some rest =>
    obtain ⟨closing, rfl, is⟩ := behindMark?_eq_some_iff.mp closes
    exact ⟨first, closing, rfl, .one derivesFirst, is⟩
  | none =>
    dsimp only
    cases separates : behindMark? .comma afterFirst with
    | none => exact Found.meets_error "E110" (by decide) rfl
    | some more =>
      obtain ⟨comma, rfl, isComma⟩ := behindMark?_eq_some_iff.mp separates
      simp only [List.length_cons] at afterShorter
      refine (meets_readArgumentList (by omega)).andThen fun arguments rest others => ?_
      obtain ⟨taken, closing, rfl, derivesOthers, is⟩ := others
      exact ⟨first ++ comma :: taken, closing, by simp, .more derivesFirst isComma derivesOthers,
        is⟩
termination_by tokens.length

theorem meets_readArguments {target : Expr} {done : List Token} {opening : Token}
    (derivesTarget : Derives (.expr .suffix) done target) (opens : opening.IsTight .openParen)
    {tokens : List Token} (shorter : tokens.length < bound) :
    (found (readArguments source tokens)).Meets fun arguments rest =>
      ∃ taken, tokens = taken ++ rest ∧ taken ≠ [] ∧
        Derives (.expr .suffix) (done ++ opening :: taken) (.call target arguments) := by
  rw [found_readArguments]
  cases closes : behindMark? .closeParen tokens with
  | some rest =>
    obtain ⟨closing, rfl, is⟩ := behindMark?_eq_some_iff.mp closes
    exact ⟨[closing], rfl, by simp, .emptyCall derivesTarget opens is⟩
  | none =>
    refine (meets_readArgumentList below shorter).imp
      fun arguments rest read => ?_
    obtain ⟨taken, closing, split, derives, is⟩ := read
    refine ⟨taken ++ [closing], by simpa using split, by simp, ?_⟩
    simpa using Derives.call derivesTarget opens derives is

theorem meets_readItems {opened : String} {tokens : List Token} (shorter : tokens.length < bound) :
    (found (readItems source opened tokens)).Meets
      (Enclosed (Derives .sequence) .closeBracket tokens) := by
  rw [found_readItems]
  cases closes : behindMark? .closeBracket tokens with
  | some rest =>
    obtain ⟨closing, rfl, is⟩ := behindMark?_eq_some_iff.mp closes
    exact .inl ⟨closing, rfl, is, rfl⟩
  | none =>
    dsimp only
    split
    · exact Found.meets_error "E697" (by decide) rfl
    refine (below .ternary tokens shorter).andThen fun item afterItem read => ?_
    obtain ⟨splits, _⟩ := read
    have afterShorter := splits.length_lt (by simp)
    obtain ⟨taken, rfl, derivesItem⟩ := splits
    cases separates : behindMark? .comma afterItem with
    | some more =>
      obtain ⟨comma, rfl, isComma⟩ := behindMark?_eq_some_iff.mp separates
      simp only [List.length_cons] at afterShorter
      refine (meets_readItems (by omega)).andThen fun items rest enclosed => ?_
      exact enclosed.more isComma (.one derivesItem) fun _ derivesOthers =>
        .more derivesItem isComma derivesOthers
    | none =>
      dsimp only
      cases closes : behindMark? .closeBracket afterItem with
      | none => exact Found.meets_error "E697" (by decide) rfl
      | some rest =>
        obtain ⟨closing, rfl, is⟩ := behindMark?_eq_some_iff.mp closes
        exact .last (.one derivesItem) is
termination_by tokens.length

theorem meets_readKey {literalKeys : Bool} {tokens : List Token}
    (shorter : tokens.length < bound) :
    (found (readKey source literalKeys tokens)).Meets
      (Splits (.key literalKeys) tokens) := by
  cases literalKeys with
  | false =>
    rw [found_readKey_expr]
    refine (below .ternary tokens shorter).imp fun tree rest read => ?_
    obtain ⟨⟨taken, split, derives⟩, _⟩ := read
    exact ⟨taken, split, .key derives⟩
  | true =>
    rw [found_readKey_literal]
    cases tokens with
    | nil => exact Found.meets_invalidSource source
    | cons token rest =>
      dsimp only
      cases key : literalKey? token.kind with
      | none => exact Found.meets_invalidSource source
      | some name => exact ⟨[token], rfl, .literalKey (literalKey?_eq_some_iff.mp key)⟩

theorem meets_readEntries {opened : String} {literalKeys : Bool} {tokens : List Token}
    (shorter : tokens.length < bound) :
    (found (readEntries source opened literalKeys tokens)).Meets
      (Enclosed (Derives (.entries literalKeys)) .closeBrace tokens) := by
  rw [found_readEntries]
  cases closes : behindMark? .closeBrace tokens with
  | some rest =>
    obtain ⟨closing, rfl, is⟩ := behindMark?_eq_some_iff.mp closes
    exact .inl ⟨closing, rfl, is, rfl⟩
  | none =>
    dsimp only
    split
    · exact Found.meets_error "E723" (by decide) rfl
    refine (meets_readKey below shorter).andThen fun key afterKey splits => ?_
    have keyShorter := splits.length_lt (by simp)
    obtain ⟨keyTokens, rfl, derivesKey⟩ := splits
    cases separates : behindMark? .colon afterKey with
    | none => exact Found.meets_error "E720" (by decide) rfl
    | some valueTokens =>
      obtain ⟨colon, rfl, isColon⟩ := behindMark?_eq_some_iff.mp separates
      simp only [List.length_cons] at keyShorter
      refine (below .ternary valueTokens (by omega)).andThen fun value afterValue read => ?_
      obtain ⟨splits, _⟩ := read
      have valueShorter := splits.length_lt (by simp)
      obtain ⟨taken, rfl, derivesValue⟩ := splits
      rw [← List.cons_append, ← List.append_assoc]
      cases separates : behindMark? .comma afterValue with
      | some more =>
        obtain ⟨comma, rfl, isComma⟩ := behindMark?_eq_some_iff.mp separates
        simp only [List.length_cons] at valueShorter
        refine (meets_readEntries (by omega)).andThen fun entries rest enclosed => ?_
        exact enclosed.more isComma (.entry derivesKey isColon derivesValue) fun _ derivesOthers =>
          .moreEntries derivesKey isColon derivesValue isComma derivesOthers
      | none =>
        dsimp only
        cases closes : behindMark? .closeBrace afterValue with
        | none => exact Found.meets_error "E723" (by decide) rfl
        | some rest =>
          obtain ⟨closing, rfl, is⟩ := behindMark?_eq_some_iff.mp closes
          exact .last (.entry derivesKey isColon derivesValue) is
termination_by tokens.length

theorem soundAt_atom {tokens : List Token} (fits : tokens.length ≤ bound) :
    SoundAt source .atom tokens := by
  unfold SoundAt
  cases tokens with
  | nil =>
    rw [readLevel_atom_nil]
    exact Found.meets_invalidSource source
  | cons token inside =>
    rw [readLevel_atom_cons]
    have shorter : inside.length < bound := by simpa [Nat.succ_le_iff] using fits
    cases denotes : simpleAtom? token.kind with
    | some tree =>
      exact ⟨⟨[token], rfl, .literal (simpleAtom?_eq_some_iff.mp denotes)⟩, by simp⟩
    | none =>
      dsimp only
      split
      · rename_i opens
        refine (below .ternary inside shorter).andThen fun tree afterInner read => ?_
        obtain ⟨⟨taken, rfl, derives⟩, _⟩ := read
        cases closes : behindMark? .closeParen afterInner with
        | none => exact Found.meets_error "E110" (by decide) rfl
        | some rest =>
          obtain ⟨closing, rfl, is⟩ := behindMark?_eq_some_iff.mp closes
          exact ⟨⟨token :: taken ++ [closing], by simp, .parens opens derives is⟩, by simp⟩
      · rename_i opens
        refine (meets_readItems below shorter).andThen fun items rest enclosed => ⟨?_, by simp⟩
        exact enclosed.splits_list opens
      · rename_i opens
        refine (meets_readEntries below shorter).andThen fun items rest enclosed => ⟨?_, by simp⟩
        exact enclosed.splits_dict (show token.Is (openingBrace false) from opens)
      · rename_i opens
        refine (meets_readEntries below shorter).andThen fun items rest enclosed => ⟨?_, by simp⟩
        exact enclosed.splits_dict (show token.Is (openingBrace true) from opens)
      · exact Found.meets_invalidSource source

theorem meets_readRest_suffix {target : Expr} {done tokens : List Token}
    (derivesTarget : Derives (.expr .suffix) done target) (shorter : tokens.length < bound) :
    (readRest source .suffix target tokens).Meets (GoesOn .suffix done tokens) := by
  rw [readRest_suffix]
  cases bracket : behindTightMark? .openBracket tokens with
  | some inside =>
    obtain ⟨opening, rfl, opens⟩ := behindTightMark?_eq_some_iff.mp bracket
    simp only [List.length_cons] at shorter
    refine (meets_readSubscript below derivesTarget opens (by omega)).andThen
      fun value rest read => ?_
    obtain ⟨subscript, rfl, _, derivesValue⟩ := read
    simp only [List.length_append] at shorter
    exact (meets_readRest_suffix derivesValue (by omega)).imp fun _ _ goesOn => goesOn.behind
  | none =>
    dsimp only
    cases paren : behindTightMark? .openParen tokens with
    | some inside =>
      obtain ⟨opening, rfl, opens⟩ := behindTightMark?_eq_some_iff.mp paren
      simp only [List.length_cons] at shorter
      refine (meets_readArguments below derivesTarget opens (by omega)).andThen
        fun arguments rest read => ?_
      obtain ⟨inParens, rfl, _, derivesCall⟩ := read
      simp only [List.length_append] at shorter
      exact (meets_readRest_suffix derivesCall (by omega)).imp fun _ _ goesOn => goesOn.behind
    | none =>
      dsimp only
      cases member : behindMember? tokens with
      | some taken =>
        obtain ⟨key, rest⟩ := taken
        obtain ⟨dot, name, rfl, isDot, tight, names⟩ := behindMember?_eq_some_iff.mp member
        simp only [List.length_cons] at shorter
        have derivesMember := Derives.member derivesTarget isDot tight names
        exact (meets_readRest_suffix derivesMember (by omega)).imp fun _ _ goesOn => goesOn.behind
      | none =>
        exact ⟨[], rfl, by simpa using derivesTarget, behindMember?_eq_none_iff.mp member⟩
termination_by tokens.length

/-- The operand of an operator leaves no member behind, so the next operator is none. -/
theorem meets_readRest_chain {level : Level} (chains : level.Chains) {left : Expr}
    {done tokens : List Token} (derivesLeft : Derives (.expr level) done left)
    (noMember : ¬ StartsMember tokens) (shorter : tokens.length < bound) :
    (readRest source level left tokens).Meets (GoesOn level done tokens) := by
  cases tokens with
  | nil =>
    rw [readRest_nil source chains]
    exact ⟨[], rfl, by simpa using derivesLeft, noMember⟩
  | cons token operand =>
    rw [readRest_cons source chains]
    cases stands : level.operator? token.kind with
    | none => exact ⟨[], rfl, by simpa using derivesLeft, noMember⟩
    | some operator =>
      obtain ⟨rfl, sign, listed, is⟩ := Level.operator?_eq_some_iff.mp stands
      simp only [List.length_cons] at shorter
      refine (below operator.level.tighter operand (by omega)).andThen
        fun right rest read => ?_
      obtain ⟨splits, noMoreMember⟩ := read
      have restShorter := splits.length_lt (by simp)
      obtain ⟨taken, rfl, derivesRight⟩ := splits
      have noneTaken : ¬ StartsMember (token :: taken) := fun starts => noMember (starts.append rest)
      have derivesBoth := Derives.binary derivesLeft listed is noneTaken derivesRight
      exact (meets_readRest_chain chains derivesBoth (noMoreMember chains.apart.2.2) (by omega)).imp
        fun _ _ goesOn => goesOn.behind
termination_by tokens.length

theorem soundAt_suffix {tokens : List Token} (fits : tokens.length ≤ bound) :
    SoundAt source .suffix tokens := by
  unfold SoundAt
  rw [readLevel_eq source (by decide) (by decide)]
  refine (soundAt_atom below fits).andThen fun target rest read => ?_
  obtain ⟨splits, _⟩ := read
  have shorter := splits.length_lt (by simp)
  obtain ⟨done, rfl, derives⟩ := splits
  refine (meets_readRest_suffix below (.tighter derives) (by omega)).imp fun tree rest goesOn => ?_
  obtain ⟨taken, rfl, derivesWhole, noMember⟩ := goesOn
  exact ⟨⟨done ++ taken, by simp, derivesWhole⟩, fun _ => noMember⟩

theorem soundAt_unary {tokens : List Token} (fits : tokens.length ≤ bound) :
    SoundAt source .unary tokens := by
  unfold SoundAt
  cases tokens with
  | nil =>
    rw [readLevel_unary_nil]
    exact Found.meets_invalidSource source
  | cons token operand =>
    rw [readLevel_unary_cons]
    cases stands : unaryOperator? token.kind with
    | some operator =>
      have is := unaryOperator?_eq_some_iff.mp stands
      refine (below .unary operand (by simpa [Nat.succ_le_iff] using fits)).andThen
        fun value rest read => ?_
      obtain ⟨⟨taken, rfl, derives⟩, noMember⟩ := read
      exact ⟨⟨token :: taken, rfl, .unary is derives⟩, noMember⟩
    | none =>
      refine (soundAt_suffix below fits).imp fun tree rest read => ?_
      obtain ⟨⟨taken, split, derives⟩, noMember⟩ := read
      exact ⟨⟨taken, split, .tighter derives⟩, fun _ => noMember (by decide)⟩

theorem soundAt_chain {level : Level} (chains : level.Chains) {tokens : List Token}
    (fits : tokens.length ≤ bound) (tighter : SoundAt source level.tighter tokens) :
    SoundAt source level tokens := by
  obtain ⟨notUnary, notAtom, tighterNotAtom⟩ := chains.apart
  unfold SoundAt
  rw [readLevel_eq source notUnary notAtom]
  refine tighter.andThen fun left rest read => ?_
  obtain ⟨splits, noMember⟩ := read
  have shorter := splits.length_lt (by simp)
  obtain ⟨done, rfl, derives⟩ := splits
  refine (meets_readRest_chain below chains (.tighter derives) (noMember tighterNotAtom)
    (by omega)).imp fun tree rest goesOn => ?_
  obtain ⟨taken, rfl, derivesWhole, noMoreMember⟩ := goesOn
  exact ⟨⟨done ++ taken, by simp, derivesWhole⟩, fun _ => noMoreMember⟩

theorem soundAt_comparison {tokens : List Token} (fits : tokens.length ≤ bound)
    (tighter : SoundAt source .sum tokens) : SoundAt source .comparison tokens := by
  unfold SoundAt
  rw [readLevel_eq source (by decide) (by decide)]
  refine tighter.andThen fun left rest read => ?_
  obtain ⟨splits, noMember⟩ := read
  have shorter := splits.length_lt (by simp)
  obtain ⟨done, rfl, derivesLeft⟩ := splits
  rw [readRest]
  cases compares : behindComparison? rest with
  | none => exact ⟨⟨done, rfl, .tighter derivesLeft⟩, fun _ => noMember (by decide)⟩
  | some taken =>
    obtain ⟨⟨operator, case⟩, operand⟩ := taken
    obtain ⟨token, rfl, is⟩ := behindComparison?_eq_some_iff.mp compares
    simp only [List.length_cons] at shorter
    refine (below .sum operand (by omega)).andThen fun right after read => ?_
    obtain ⟨⟨taken, rfl, derivesRight⟩, noMoreMember⟩ := read
    exact ⟨⟨done ++ token :: taken, by simp, .compare derivesLeft is derivesRight⟩,
      fun _ => noMoreMember (by decide)⟩

theorem soundAt_ternary {tokens : List Token} (fits : tokens.length ≤ bound)
    (tighter : SoundAt source .or tokens) : SoundAt source .ternary tokens := by
  unfold SoundAt
  rw [readLevel_eq source (by decide) (by decide)]
  refine tighter.andThen fun condition rest read => ?_
  obtain ⟨splits, noMember⟩ := read
  have shorter := splits.length_lt (by simp)
  obtain ⟨done, rfl, derivesCondition⟩ := splits
  rw [readRest]
  cases asks : behindMark? .question rest with
  | none => exact ⟨⟨done, rfl, .tighter derivesCondition⟩, fun _ => noMember (by decide)⟩
  | some yesTokens =>
    obtain ⟨question, rfl, isQuestion⟩ := behindMark?_eq_some_iff.mp asks
    simp only [List.length_cons] at shorter
    refine (below .ternary yesTokens (by omega)).andThen fun yes afterYes read => ?_
    obtain ⟨splits, _⟩ := read
    have yesShorter := splits.length_lt (by simp)
    obtain ⟨yesTaken, rfl, derivesYes⟩ := splits
    cases separates : behindMark? .colon afterYes with
    | none => exact Found.meets_invalidSource source
    | some noTokens =>
      obtain ⟨colon, rfl, isColon⟩ := behindMark?_eq_some_iff.mp separates
      simp only [List.length_cons] at yesShorter
      refine (below .ternary noTokens (by omega)).andThen fun no after read => ?_
      obtain ⟨⟨noTaken, rfl, derivesNo⟩, noMoreMember⟩ := read
      exact ⟨⟨done ++ question :: yesTaken ++ colon :: noTaken, by simp,
        .ternary derivesCondition isQuestion derivesYes isColon derivesNo⟩, noMoreMember⟩

/-- From an atom up to a ternary: each level builds on the tighter one. -/
theorem soundAt_of_fits {tokens : List Token} (fits : tokens.length ≤ bound) (level : Level) :
    SoundAt source level tokens := by
  -- On the same tokens a level only calls the tighter one; all other calls are on fewer tokens.
  have suffix := soundAt_suffix below fits
  have unary := soundAt_unary below fits
  have product : SoundAt source .product tokens := soundAt_chain below (by decide) fits unary
  have sum : SoundAt source .sum tokens := soundAt_chain below (by decide) fits product
  have comparison := soundAt_comparison below fits sum
  have and : SoundAt source .and tokens := soundAt_chain below (by decide) fits comparison
  have or : SoundAt source .or tokens := soundAt_chain below (by decide) fits and
  cases level with
  | ternary => exact soundAt_ternary below fits or
  | or => exact or
  | and => exact and
  | comparison => exact comparison
  | sum => exact sum
  | product => exact product
  | unary => exact unary
  | suffix => exact suffix
  | atom => exact soundAt_atom below fits

end Shorter

theorem soundAt_below (bound : Nat) :
    ∀ level tokens, tokens.length < bound → SoundAt source level tokens := by
  induction bound with
  | zero => exact fun _ tokens short => absurd short (Nat.not_lt_zero _)
  | succ bound below =>
    exact fun level _ short => soundAt_of_fits below (Nat.lt_succ_iff.mp short) level

theorem soundAt (level : Level) (tokens : List Token) : SoundAt source level tokens :=
  soundAt_below source (tokens.length + 1) level tokens (Nat.lt_succ_self _)

end Readers

end Script

end ModalEdit

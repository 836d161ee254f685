import ModalEdit.Proofs.Script.Members
import ModalEdit.Proofs.Script.Printing
import ModalEdit.Proofs.Script.Variables

/-!
Keys that are taken as they stand. `#{key:value}` is the dictionary `{'key': value}` just where the key is read
as one token that is spelled like it: a word that is no operator and no scope of a name behind the colon, or a
number the way numbers are printed.
-/

set_option autoImplicit false

namespace ModalEdit.Script

variable {key before behind value : List Char}

/-! ### Texts with a brace behind them -/

/-- The last token is the sign of a register without the name, which is then the next character. -/
def EndsOpen (text : List Char) : Prop :=
  ∃ tokens, tokenize text = .ok tokens ∧ ∃ token ∈ tokens.getLast?, text.drop token.start = ['@']

theorem endsOpen_iff {text : List Char} {tokens : List Token} (read : tokenize text = .ok tokens) :
    EndsOpen text ↔ ∃ token ∈ tokens.getLast?, text.drop token.start = ['@'] := by
  constructor
  · rintro ⟨others, readOthers, ends⟩
    cases read.symm.trans readOthers
    exact ends
  · exact fun ends => ⟨tokens, read, ends⟩

namespace Tokenizes

variable {start : Nat} {text : List Char} {tokens : List Token}

/-- A brace behind a text closes what is in front of the text. -/
theorem closeBrace (reads : Tokenizes start text tokens) (some : tokens ≠ [])
    (ends : ∀ token ∈ tokens.getLast?, text.drop (token.start - start) ≠ ['@']) :
    ∃ closing : Token, closing.Is .closeBrace ∧ Tokenizes start (text ++ ['}']) (tokens ++ [closing]) := by
  have parts := parts_cons (by decide : '}' ∈ _) []
  obtain ⟨front, first, spelled, blanks, others, last, rfl, rfl, isStart, read, blank, continues⟩ :=
    reads.exists_last some parts
  have notOpen := ends last List.getLast?_concat
  rw [isStart, Nat.add_sub_cancel_left, List.drop_left] at notOpen
  have apart : ¬ Fuses last.kind (first :: spelled ++ blanks) ['}'] := by
    rintro (isOpen | ⟨isDot, -⟩ | ⟨-, _, _, isDot, -⟩)
    · exact notOpen isOpen
    · cases isDot
    · cases isDot
  have readMore := TokenKind.read_append parts read fun _ => apart
  rw [List.append_assoc] at readMore
  have closes : Tokenizes (last.start + (first :: spelled).length) (blanks ++ ['}']) _ :=
    @token _ blanks [] [] '}' _ [] blank rfl (stands_closeBrace.read []) (.done nofun)
  have whole := continues spelled (blanks ++ ['}']) last.kind _ (List.append_assoc _ _ _) readMore closes
  rw [List.append_cons others] at whole
  refine ⟨_, ?_, whole⟩
  rfl

/-- A brace behind the sign of a register names the register. -/
theorem register (reads : Tokenizes start text tokens)
    (ends : ∃ token ∈ tokens.getLast?, text.drop (token.start - start) = ['@']) :
    ∃ others last, last.kind = .register '}' ∧ Tokenizes start (text ++ ['}']) (others ++ [last]) := by
  obtain ⟨token, isLast, isOpen⟩ := ends
  have some : tokens ≠ [] := by
    rintro rfl
    cases isLast
  obtain ⟨front, first, spelled, blanks, others, last, rfl, rfl, isStart, -, -, continues⟩ :=
    reads.exists_last some (parts_cons (by decide : '}' ∈ _) [])
  cases List.getLast?_concat.symm.trans isLast
  rw [isStart, Nat.add_sub_cancel_left, List.drop_left, List.cons_append, List.cons.injEq,
    List.append_eq_nil_iff] at isOpen
  obtain ⟨rfl, rfl, rfl⟩ := isOpen
  exact ⟨others, _, rfl, continues ['}'] [] (.register '}') [] rfl rfl (.done nofun)⟩

end Tokenizes

/-! ### Dictionaries -/

/-- What the tokens of a dictionary begin and end with. -/
def BuildsDict (tokens : List Token) : (phrase : Phrase) → phrase.Tree → Prop
  | .expr _, .dict entries =>
    ∃ opening inside closing, tokens = opening :: inside ++ [closing] ∧ (∃ sign, closing.Is sign) ∧
      (opening.Is .openLiteralBrace → ∀ entry ∈ entries.head?,
        ∃ token ∈ inside.head?, ∃ name, token.kind.IsKey name ∧ entry.1 = .str name)
  | _, _ => True

theorem Derives.exists_literalKey {tokens : List Token} {entries : List (Expr × Expr)}
    (derives : Derives (.entries true) tokens entries) :
    ∀ entry ∈ entries.head?,
      ∃ token ∈ tokens.head?, ∃ name, token.kind.IsKey name ∧ entry.1 = .str name := by
  cases derives with
  | entry derivesKey colon derivesValue =>
    rintro _ ⟨⟩
    cases derivesKey with
    | literalKey isKey => exact ⟨_, rfl, _, isKey, rfl⟩
  | moreEntries derivesKey colon derivesValue comma derivesMore =>
    rintro _ ⟨⟩
    cases derivesKey with
    | literalKey isKey => exact ⟨_, rfl, _, isKey, rfl⟩

theorem Derives.buildsDict {phrase : Phrase} {tokens : List Token} {tree : phrase.Tree}
    (derives : Derives phrase tokens tree) : BuildsDict tokens phrase tree := by
  induction derives with
  | @tighter level tokens tree _ ih =>
    cases tree with
    | dict entries => exact ih
    | _ => trivial
  | @parens inside opening closing tree opens _ closes _ =>
    cases tree with
    | dict entries =>
      refine ⟨opening, inside, closing, rfl, ⟨_, closes⟩, fun literal => ?_⟩
      cases opens.symm.trans literal
    | _ => trivial
  | @emptyDict opening closing literal opens closes =>
    exact ⟨opening, [], closing, rfl, ⟨_, closes⟩, fun _ => nofun⟩
  | @dict inside opening closing comma? literal entries opens derivesInside commas closes _ =>
    refine ⟨opening, inside ++ comma?.toList, closing, rfl, ⟨_, closes⟩, fun isLiteral entry first => ?_⟩
    cases literal with
    | false => cases opens.symm.trans isLiteral
    | true =>
      obtain ⟨token, isFirst, name, isKey⟩ := derivesInside.exists_literalKey entry first
      refine ⟨token, ?_, name, isKey⟩
      rw [List.head?_append, isFirst]
      rfl
  | @literal token _ denotes =>
    generalize token.kind = kind at denotes
    cases denotes <;> trivial
  | _ => trivial

/-! ### Keys -/

/-- The key is a scope of variables, and the name behind the colon is one of that scope. -/
def TakesScope (key before behind : List Char) : Prop :=
  before = [] ∧ ∃ letter next more, key = [letter] ∧ behind = next :: more ∧
    (isScopeLetter letter && isNameChar next) = true

/-- In front of blanks and a colon the key is a token that is spelled like it: a word that is no operator and
that does not go on behind the colon, or a number the way numbers are printed. -/
def ReadsAsKey (key before behind : List Char) : Prop :=
  key.head?.any Char.isDigit = false ∧ key ≠ ['i', 's'] ∧ key ≠ ['i', 's', 'n', 'o', 't'] ∧
      ¬ TakesScope key before behind ∨
    ∃ value : Int64, key = (toString value).toList

theorem starts_of_isNameChar {c : Char} (isChar : isNameChar c = true) (notDigit : c.isDigit = false) :
    c.isAlpha = true ∨ c = '_' := by
  simpa [isNameChar, Char.isAlphanum, notDigit] using isChar

/-- A token that begins with a letter, a digit or an underscore is a number or a name. -/
theorem TokenKind.read_of_isNameChar {c : Char} {text rest : List Char} {kind : TokenKind}
    (isChar : isNameChar c = true) (read : TokenKind.read (c :: text) = .ok (kind, rest)) :
    (c.isDigit = true ∧ readNumber (c :: text) = .ok (kind, rest)) ∨
      (c.isDigit = false ∧ readName (c :: text) = (kind, rest)) := by
  cases isDigit : c.isDigit with
  | true =>
    rw [TokenKind.read, if_pos isDigit] at read
    exact .inl ⟨rfl, read⟩
  | false =>
    rw [read_of_starts (starts_of_isNameChar isChar isDigit)] at read
    exact .inr ⟨rfl, Except.ok.inj read⟩

section Keys

variable (named : ∀ c ∈ key, isNameChar c = true) (blank : ∀ c ∈ before, isSeparator c = true)

include blank in
theorem head?_before_colon (behind : List Char) (p : Char → Bool) (none : [' ', '\t', ':'].any p = false) :
    ∀ c ∈ (before ++ ':' :: behind).head?, p c = false := by
  intro c head
  refine Bool.eq_false_iff.mpr (List.any_eq_false.mp none c ?_)
  cases before with
  | nil =>
    cases head
    decide
  | cons first more =>
    cases head
    have isBlank := blank c List.mem_cons_self
    simp only [isSeparator, Bool.or_eq_true, beq_iff_eq] at isBlank
    rcases isBlank with rfl | rfl <;> decide

include named blank in
theorem readName_before_colon (behind : List Char) :
    readName (key ++ (before ++ ':' :: behind)) = nameOf key (before ++ ':' :: behind) := by
  have stops := head?_before_colon blank behind isNameChar rfl
  rw [readName_eq, List.takeWhile_append_of_pos named, List.dropWhile_append_of_pos named,
    takeWhile_of_stops stops, dropWhile_of_stops stops, List.append_nil]

include blank in
theorem nameOf_of_not_takesScope (unscoped : ¬ TakesScope key before behind) :
    nameOf key (before ++ ':' :: behind) = plainName key (before ++ ':' :: behind) := by
  refine nameOf_eq_plainName fun letter next tail isKey isRest => Bool.eq_false_iff.mpr fun accepted => ?_
  cases before with
  | nil =>
    cases isRest
    exact unscoped ⟨rfl, letter, next, tail, isKey, rfl, accepted⟩
  | cons first more =>
    cases (List.cons.inj isRest).1
    exact absurd (blank ':' List.mem_cons_self) (by decide)

include named blank in
theorem read_of_readsAsKey (some : key ≠ []) (reads : ReadsAsKey key before behind) :
    ∃ kind, kind.IsKey (String.ofList key) ∧
      TokenKind.read (key ++ (before ++ ':' :: behind)) = .ok (kind, before ++ ':' :: behind) := by
  rcases reads with ⟨noDigit, notIs, notIsNot, unscoped⟩ | ⟨value, rfl⟩
  · refine ⟨.ident (String.ofList key), .member (.ident _), ?_⟩
    have name := readName_before_colon named blank behind
    rw [nameOf_of_not_takesScope blank unscoped, plainName, if_neg notIs, if_neg notIsNot] at name
    cases key with
    | nil => exact absurd rfl some
    | cons c word =>
      rw [← name]
      exact read_of_starts (starts_of_isNameChar (named c List.mem_cons_self) noDigit)
  · refine ⟨.number value, ?_, ?_⟩
    · rw [String.ofList_toList]
      exact .member (.number value)
    · cases sign : value.toInt with
      | ofNat n =>
        rw [Number.toList_toString sign, read_toDigits n (head?_before_colon blank behind _ rfl),
          Number.ofIntClamp_of_toInt sign]
      | negSucc n =>
        rw [Number.toList_toString_neg sign] at named
        exact absurd (named '-' List.mem_cons_self) (by decide)

/-- A name that a scope of variables is part of is longer than the scope. -/
theorem nameOf_ne_of_takesScope (takes : TakesScope key before behind) (rest : List Char) :
    nameOf key (before ++ ':' :: behind) ≠ (.ident (String.ofList key), rest) := by
  obtain ⟨rfl, letter, next, more, rfl, rfl, accepted⟩ := takes
  intro same
  have name := congrArg Prod.fst same
  simp [nameOf, accepted] at name

include named blank in
theorem readsAsKey_of_read (some : key ≠ []) {kind : TokenKind} {rest : List Char}
    (read : TokenKind.read (key ++ (before ++ ':' :: behind)) = .ok (kind, rest))
    (isKey : kind.IsKey (String.ofList key)) : ReadsAsKey key before behind := by
  have name := readName_before_colon named blank behind
  cases key with
  | nil => exact absurd rfl some
  | cons c word =>
    have isChar := named c List.mem_cons_self
    generalize isText : String.ofList (c :: word) = text at isKey
    rcases TokenKind.read_of_isNameChar isChar read with ⟨-, number⟩ | ⟨notDigit, isName⟩
    · rcases kind_readNumber number with ⟨value, rfl, -⟩ | ⟨_, rfl⟩ | ⟨_, rfl⟩
      · cases isKey with
        | member names =>
          cases names
          exact .inr ⟨value, by rw [← isText, String.toList_ofList]⟩
      all_goals
        cases isKey with
        | member names => cases names
    · rcases kind_readName isChar isName with ⟨_, _, rfl⟩ | ⟨_, _, rfl, -⟩
      · cases isKey with
        | member names => cases names
      · cases isKey with
        | member names =>
          cases names
          subst isText
          have isName : nameOf (c :: word) (before ++ ':' :: behind) =
              (.ident (String.ofList (c :: word)), rest) :=
            name.symm.trans isName
          have unscoped : ¬ TakesScope (c :: word) before behind := fun takes =>
            nameOf_ne_of_takesScope takes rest isName
          rw [nameOf_of_not_takesScope blank unscoped] at isName
          refine .inl ⟨notDigit, ?_, ?_, unscoped⟩
          · intro is
            rw [plainName, if_pos is] at isName
            cases isName
          · intro isNot
            rw [isNot] at isName
            cases isName

end Keys

/-! ### Dictionaries with one entry -/

/-- A dictionary with a key as it stands, and blanks on both sides of the colon. -/
def literalEntry (key before behind value : List Char) : List Char :=
  '#' :: '{' :: (key ++ (before ++ ':' :: (behind ++ (value ++ ['}']))))

/-- A dictionary with a key in quotes. -/
def quotedEntry (key value : List Char) : List Char :=
  '{' :: '\'' :: (key ++ '\'' :: ':' :: ' ' :: (value ++ ['}']))

section Entry

variable {count : Nat} {text : List Char} {opening name : Token}

/-- A colon with blanks on both sides, and what has been read behind it. -/
theorem tokenize_entry {head : Token} {inside : List Token}
    (front : ∀ tokens, Tokenizes count (before ++ ':' :: (behind ++ value)) tokens →
      Tokenizes 0 text (opening :: name :: tokens))
    (blankBefore : ∀ c ∈ before, isSeparator c = true) (blankBehind : ∀ c ∈ behind, isSeparator c = true)
    (reads : Tokenizes 0 value (head :: inside)) :
    ∃ (colon other : Token) (place : Nat), colon.Is .colon ∧ other.kind = head.kind ∧
      tokenize text = .ok (opening :: name :: colon :: other :: inside.map (·.later place)) := by
  have further := reads.shift (count + before.length + 1 + behind.length)
  rw [Nat.zero_add] at further
  obtain ⟨other, same, readsValue⟩ := further.behind_blanks blankBehind
  have readsColon := @Tokenizes.token count before [] _ ':' _ _ blankBefore stands_colon.notBlank
    (stands_colon.read _) readsValue
  refine ⟨_, other, _, ?_, same, (front _ readsColon).tokensFrom_eq⟩
  rfl

/-- No dictionary ends with a register. -/
theorem not_parse_dict_of_register {entries : List (Expr × Expr)} {tokens : List Token} {c : Char}
    (read : tokenize text = .ok tokens) (ends : ∃ last ∈ tokens.getLast?, last.kind = .register c) :
    Expr.parse text ≠ .ok (.dict entries) := by
  intro parsed
  obtain ⟨all, readAll, derives⟩ := (Expr.parse_eq_ok_iff _ _).mp parsed
  cases readAll.symm.trans read
  obtain ⟨_, inside, closing, rfl, ⟨sign, isSign⟩, -⟩ := derives.buildsDict
  obtain ⟨last, isLast, isRegister⟩ := ends
  cases List.getLast?_concat.symm.trans isLast
  cases isSign.symm.trans isRegister

/-- A key, a colon and a value in braces are a dictionary, if the value leaves the closing brace. -/
theorem parse_entry_iff {literal : Bool} {k tree : Expr}
    (front : ∀ tokens, Tokenizes count (before ++ ':' :: (behind ++ (value ++ ['}']))) tokens →
      Tokenizes 0 text (opening :: name :: tokens))
    (opens : opening.Is (openingBrace literal)) (derivesKey : Derives (.key literal) [name] k)
    (blankBefore : ∀ c ∈ before, isSeparator c = true) (blankBehind : ∀ c ∈ behind, isSeparator c = true)
    (parses : Expr.parse value = .ok tree) :
    Expr.parse text = .ok (.dict [(k, tree)]) ↔ ¬ EndsOpen value := by
  obtain ⟨tokens, read, derives⟩ := (Expr.parse_eq_ok_iff _ _).mp parses
  have some := derives.ne_nil (Phrase.expr_ne_bound _)
  rw [endsOpen_iff read]
  constructor
  · intro parsed ends
    obtain ⟨others, last, isLast, reads⟩ := (tokenizes_of_tokensFrom read).register ends
    cases others with
    | nil =>
      obtain ⟨colon, other, _, -, same, readWhole⟩ := tokenize_entry front blankBefore blankBehind reads
      exact not_parse_dict_of_register readWhole ⟨other, rfl, same.trans isLast⟩ parsed
    | cons head others =>
      obtain ⟨colon, other, place, -, -, readWhole⟩ := tokenize_entry front blankBefore blankBehind reads
      refine not_parse_dict_of_register readWhole ⟨last.later place, ?_, isLast⟩ parsed
      simp [List.getLast?_cons]
  · intro closed
    obtain ⟨closing, closes, reads⟩ := (tokenizes_of_tokensFrom read).closeBrace some
      fun token isLast isOpen => closed ⟨token, isLast, isOpen⟩
    obtain ⟨first, rest, rfl⟩ := List.exists_cons_of_ne_nil some
    obtain ⟨colon, other, place, isColon, same, readWhole⟩ :=
      tokenize_entry front blankBefore blankBehind reads
    rw [List.append_eq, List.map_append] at readWhole
    have derivesValue := (derives.later place).again rfl same
    have derivesEntry := Derives.entry derivesKey isColon derivesValue
    have closesLater : (closing.later place).Is .closeBrace := closes
    have noComma : ∀ comma ∈ (none : Option Token), comma.Is .comma := nofun
    have whole := Derives.dict opens derivesEntry noComma closesLater
    exact (Expr.parse_eq_ok_iff _ _).mpr ⟨_, readWhole, by simpa using whole.loosest⟩

end Entry

/-! ### Keys in quotes and keys without -/

theorem takesScope_append_iff (some : behind ≠ []) (rest : List Char) :
    TakesScope key before (behind ++ rest) ↔ TakesScope key before behind := by
  obtain ⟨next, more, rfl⟩ := List.exists_cons_of_ne_nil some
  simp [TakesScope]

theorem readsAsKey_append_iff (some : behind ≠ []) (rest : List Char) :
    ReadsAsKey key before (behind ++ rest) ↔ ReadsAsKey key before behind := by
  unfold ReadsAsKey
  rw [takesScope_append_iff some]

theorem ne_nil_of_parse {tree : Expr} (parses : Expr.parse value = .ok tree) : value ≠ [] := by
  rintro rfl
  obtain ⟨tokens, read, derives⟩ := (Expr.parse_eq_ok_iff _ _).mp parses
  rw [tokenize, tokensFrom] at read
  cases read
  exact derives.ne_nil (Phrase.expr_ne_bound _) rfl

section Key

variable (some : key ≠ []) (named : ∀ c ∈ key, isNameChar c = true)

include named in
theorem toList_quoted_of_named : (Value.quoted (String.ofList key)).toList = '\'' :: key ++ ['\''] := by
  have plain : key.flatMap (fun c => if c = '\'' then ['\'', '\''] else [c]) = key := by
    refine (List.flatMap_congr fun c member => ?_).trans (List.flatMap_singleton' key)
    refine if_neg ?_
    rintro rfl
    cases named _ member
  simp [Value.quoted, plain]

include named in
theorem tokenizes_quotedEntry {tokens : List Token}
    (reads : Tokenizes (key.length + 3) (':' :: ' ' :: (value ++ ['}'])) tokens) :
    Tokenizes 0 (quotedEntry key value)
      (⟨.mark .openBrace, 0, false⟩ :: ⟨.str (String.ofList key), 1, false⟩ :: tokens) := by
  have delimits := delimits_cons (by decide : ':' ∈ _) (' ' :: (value ++ ['}']))
  have read := read_quoted (String.ofList key) delimits
  rw [toList_quoted_of_named named] at read
  have behindName : 1 + ('\'' :: (key ++ ['\''])).length = key.length + 3 := by
    simp only [List.length_cons, List.length_append, List.length_nil]
    omega
  rw [← behindName] at reads
  have whole := Tokenizes.next '{' [] rfl (stands_openBrace.read _) (Tokenizes.next '\'' _ rfl read reads)
  simpa [quotedEntry] using whole

include some named in
theorem tokenizes_literalEntry {kind : TokenKind} {tokens : List Token}
    (read : TokenKind.read (key ++ (before ++ ':' :: (behind ++ (value ++ ['}'])))) =
      .ok (kind, before ++ ':' :: (behind ++ (value ++ ['}']))))
    (reads : Tokenizes (2 + key.length) (before ++ ':' :: (behind ++ (value ++ ['}']))) tokens) :
    Tokenizes 0 (literalEntry key before behind value)
      (⟨.mark .openLiteralBrace, 0, false⟩ :: ⟨kind, 2, false⟩ :: tokens) := by
  cases key with
  | nil => exact absurd rfl some
  | cons c word =>
    have notBlank : isSeparator c = false := Bool.eq_false_iff.mpr fun blank =>
      Bool.eq_false_iff.mp (not_isNameChar_of_isSeparator blank) (named c List.mem_cons_self)
    exact .next '#' ['{'] rfl rfl (.next c word notBlank read reads)

/-- The key of a dictionary that `#{` opens is the token behind it. -/
theorem exists_key_of_parse {c : Char} {more : List Char} {name : String} {tree : Expr}
    (isChar : isNameChar c = true)
    (parses : Expr.parse ('#' :: '{' :: c :: more) = .ok (.dict [(.str name, tree)])) :
    ∃ kind rest, TokenKind.read (c :: more) = .ok (kind, rest) ∧ kind.IsKey name := by
  have notBlank : isSeparator c = false := Bool.eq_false_iff.mpr fun blank =>
    Bool.eq_false_iff.mp (not_isNameChar_of_isSeparator blank) isChar
  obtain ⟨all, readAll, derives⟩ := (Expr.parse_eq_ok_iff _ _).mp parses
  have opens : TokenKind.read ('#' :: '{' :: c :: more) = .ok (.mark .openLiteralBrace, c :: more) := rfl
  rw [tokenize, tokensFrom_cons rfl, opens] at readAll
  dsimp only at readAll
  rw [tokensFrom_cons notBlank] at readAll
  cases read : TokenKind.read (c :: more) with
  | error error =>
    rw [read] at readAll
    cases readAll
  | ok found =>
    obtain ⟨kind, rest⟩ := found
    rw [read] at readAll
    dsimp only at readAll
    generalize tokensFrom _ rest = others at readAll
    cases others with
    | error error => cases readAll
    | ok others =>
      cases readAll
      obtain ⟨opening, inside, closing, isTokens, -, keys⟩ := derives.buildsDict
      cases inside with
      | nil =>
        cases isTokens
        obtain ⟨_, head, -⟩ := keys rfl _ rfl
        cases head
      | cons head inside =>
        cases isTokens
        obtain ⟨_, isHead, other, isKey, same⟩ := keys rfl _ rfl
        cases isHead
        cases same
        exact ⟨_, rest, rfl, isKey⟩

end Key

/-- The value of a dictionary with one entry. -/
theorem Expr.eval_single (environment : Environment) (name : String) (tree : Expr) :
    (Expr.dict [(.str name, tree)]).eval environment =
      (tree.eval environment).map fun value => .dict [(name, value)] := by
  cases evaluates : tree.eval environment with
  | error error => simp [Expr.eval, evalEntries, evaluates, Value.toText, bind, Except.bind, Except.map]
  | ok value =>
    simp [Expr.eval, evalEntries, evaluates, Value.toText, Dict.insert, bind, Except.bind, Except.map]

/-- `{'key': value}` is the dictionary with that one entry unless the last token of the value takes the brace,
and `#{key:value}`, with any blanks around the colon, is it just if the key is also read as it is written. The
dictionary has the value of the value's expression, or its error. -/
theorem Expr.parse_literalEntry_iff {tree : Expr} (some : key ≠ [])
    (named : ∀ c ∈ key, isNameChar c = true) (blankBefore : ∀ c ∈ before, isSeparator c = true)
    (blankBehind : ∀ c ∈ behind, isSeparator c = true) (parses : Expr.parse value = .ok tree) :
    let meant : Expr := .dict [(.str (String.ofList key), tree)]
    (Expr.parse (quotedEntry key value) = .ok meant ↔ ¬ EndsOpen value) ∧
      (Expr.parse (literalEntry key before behind value) = .ok meant ↔
        ReadsAsKey key before (behind ++ value) ∧ ¬ EndsOpen value) ∧
      ∀ environment, meant.eval environment =
        (tree.eval environment).map fun v => .dict [(String.ofList key, v)] := by
  intro meant
  have someBehind : behind ++ value ≠ [] := List.append_ne_nil_of_right_ne_nil _ (ne_nil_of_parse parses)
  have sameKey : ReadsAsKey key before (behind ++ value ++ ['}']) ↔ ReadsAsKey key before (behind ++ value) :=
    readsAsKey_append_iff someBehind ['}']
  rw [List.append_assoc] at sameKey
  have closedIff (reads : ReadsAsKey key before (behind ++ value)) :
      Expr.parse (literalEntry key before behind value) = .ok meant ↔ ¬ EndsOpen value := by
    obtain ⟨kind, isKey, read⟩ := read_of_readsAsKey named blankBefore some (sameKey.mpr reads)
    have opens : Token.Is ⟨.mark .openLiteralBrace, 0, false⟩ (openingBrace true) := rfl
    exact parse_entry_iff (fun _ => tokenizes_literalEntry some named read) opens (.literalKey isKey)
      blankBefore blankBehind parses
  refine ⟨?_, ?_, fun environment => Expr.eval_single environment _ tree⟩
  · have isBlank : ∀ c ∈ [' '], isSeparator c = true := List.forall_mem_singleton.mpr rfl
    have noBlank : ∀ c ∈ ([] : List Char), isSeparator c = true := nofun
    have name : Derives (.expr .atom) [⟨.str (String.ofList key), 1, false⟩] (.str (String.ofList key)) :=
      .literal (.str _)
    have opens : Token.Is ⟨.mark .openBrace, 0, false⟩ (openingBrace false) := rfl
    exact parse_entry_iff (fun _ => tokenizes_quotedEntry named) opens (.key name.loosest) noBlank isBlank
      parses
  · constructor
    · intro parsed
      have reads : ReadsAsKey key before (behind ++ value) := by
        obtain ⟨c, word, rfl⟩ := List.exists_cons_of_ne_nil some
        obtain ⟨kind, rest, read, isKey⟩ := exists_key_of_parse (named c List.mem_cons_self) parsed
        exact sameKey.mp (readsAsKey_of_read named blankBefore some read isKey)
      exact ⟨reads, (closedIff reads).mp parsed⟩
    · rintro ⟨reads, closed⟩
      exact (closedIff reads).mpr closed

/-- In front of a blank `a` is no scope, and `2` is printed as it is written. -/
theorem Expr.parse_literalEntry_iff_spaced :
    let entry (name : String) : Expr := .dict [(.str name, .number 1)]
    Expr.parse "\x7b'a': 1\x7d".toList = .ok (entry "a") ∧
      Expr.parse "#\x7ba :1\x7d".toList = .ok (entry "a") ∧
      Expr.parse "#\x7b2: 1\x7d".toList = .ok (entry "2") ∧
      (entry "a").eval default = .ok (.dict [("a", .number 1)]) := by
  intro entry
  have read : tokenize ['1'] = .ok [⟨.number 1, 0, false⟩] := tokenize_of_read rfl rfl
  have one : Expr.parse ['1'] = .ok (.number 1) := by
    have word : Derives (.expr .atom) [⟨.number 1, 0, false⟩] (.number 1) := .literal (.number 1)
    exact (Expr.parse_eq_ok_iff _ _).mpr ⟨_, read, word.loosest⟩
  have closed : ¬ EndsOpen ['1'] := by
    rw [endsOpen_iff read]
    rintro ⟨_, ⟨⟩, isOpen⟩
    cases isOpen
  have letters : ∀ c ∈ ['a'], isNameChar c = true := List.forall_mem_singleton.mpr rfl
  have digits : ∀ c ∈ ['2'], isNameChar c = true := List.forall_mem_singleton.mpr rfl
  have blank : ∀ c ∈ [' '], isSeparator c = true := List.forall_mem_singleton.mpr rfl
  have noBlank : ∀ c ∈ ([] : List Char), isSeparator c = true := nofun
  have isWord : ReadsAsKey ['a'] [' '] ['1'] := by
    refine .inl ⟨by decide, by decide, by decide, ?_⟩
    rintro ⟨some, -⟩
    cases some
  have isNumber : ReadsAsKey ['2'] [] [' ', '1'] := .inr ⟨2, by decide⟩
  obtain ⟨quoted, word, value⟩ := parse_literalEntry_iff (by decide) letters blank noBlank one
  obtain ⟨-, number, -⟩ := parse_literalEntry_iff (by decide) digits noBlank blank one
  exact ⟨quoted.mpr closed, word.mpr ⟨isWord, closed⟩, number.mpr ⟨isNumber, closed⟩, value default⟩

end ModalEdit.Script

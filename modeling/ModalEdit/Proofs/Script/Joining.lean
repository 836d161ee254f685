import ModalEdit.Proofs.Script.Appending
import ModalEdit.Proofs.Script.Lexing

/-!
The tokens of a text that is written behind another, with a dot or a blank between them.
-/

set_option autoImplicit false

namespace ModalEdit

namespace Script

variable {behind : List Char}

/-! ### What is left is the end of the text -/

theorem suffix_readBlob {started : Bool} {text rest : List Char} {bytes : List UInt8}
    (read : readBlob started text = .ok (bytes, rest)) : rest <:+ text := by
  fun_induction readBlob started text generalizing bytes rest with
  | case1 started high low tail isHigh isLow ih =>
    cases tailRead : readBlob true tail with
    | error error =>
      rw [tailRead] at read
      cases read
    | ok found =>
      obtain ⟨others, after⟩ := found
      rw [tailRead] at read
      cases read
      exact ((ih tailRead).trans (List.suffix_cons low _)).trans (List.suffix_cons high _)
  | case2 => cases read
  | case3 started high low tail _ _ ih => exact (ih read).trans (List.suffix_cons high _)
  | case4 | case6 | case7 =>
    cases read
    exact List.suffix_rfl
  | case5 => cases read

theorem suffix_readSingleQuoted? {text quoted rest : List Char}
    (read : readSingleQuoted? text = some (quoted, rest)) : rest <:+ text := by
  fun_induction readSingleQuoted? text generalizing quoted rest with
  | case1 tail ih =>
    obtain ⟨⟨others, after⟩, tailRead, same⟩ := Option.map_eq_some_iff.mp read
    cases same
    exact ((ih tailRead).trans (List.suffix_cons _ _)).trans (List.suffix_cons _ _)
  | case2 tail =>
    cases read
    exact List.suffix_cons _ _
  | case3 c tail _ _ ih =>
    obtain ⟨⟨others, after⟩, tailRead, same⟩ := Option.map_eq_some_iff.mp read
    cases same
    exact (ih tailRead).trans (List.suffix_cons c _)
  | case4 => cases read

theorem suffix_readDoubleQuoted? {text quoted rest : List Char}
    (read : readDoubleQuoted? text = some (quoted, rest)) : rest <:+ text := by
  fun_induction readDoubleQuoted? text generalizing quoted rest with
  | case1 tail =>
    cases read
    exact List.suffix_cons _ _
  | case2 tail ih =>
    obtain ⟨⟨others, after⟩, tailRead, same⟩ := Option.map_eq_some_iff.mp read
    cases same
    exact ((ih tailRead).trans (suffix_readEscape tail)).trans (List.suffix_cons _ _)
  | case3 c tail _ _ ih =>
    obtain ⟨⟨others, after⟩, tailRead, same⟩ := Option.map_eq_some_iff.mp read
    cases same
    exact (ih tailRead).trans (List.suffix_cons c _)
  | case4 => cases read

theorem suffix_readCaseMode (text : List Char) : (readCaseMode text).2 <:+ text := by
  unfold readCaseMode
  split
  · exact List.suffix_cons _ _
  · exact List.suffix_cons _ _
  · exact List.suffix_rfl

theorem suffix_comparisonToken (operator : Comparison) (rest : List Char) :
    (comparisonToken operator rest).2 <:+ rest :=
  suffix_readCaseMode rest

theorem suffix_readName (text : List Char) : (readName text).2 <:+ text := by
  have behind : text.dropWhile isNameChar <:+ text := List.dropWhile_suffix _
  rw [readName_eq]
  generalize text.takeWhile isNameChar = first
  generalize text.dropWhile isNameChar = rest at behind
  have plain : (plainName first rest).2 <:+ text := by
    refine List.IsSuffix.trans ?_ behind
    unfold plainName
    split
    · exact suffix_comparisonToken .is rest
    · split
      · exact suffix_comparisonToken .isNot rest
      · exact List.suffix_rfl
  unfold nameOf
  split
  · rename_i letter next tail
    split
    · exact ((List.dropWhile_suffix _).trans (List.suffix_cons _ _)).trans behind
    · exact plain
  · exact plain

theorem suffix_readExponent (text : List Char) : (readExponent text).2 <:+ text := by
  unfold readExponent
  split
  · rename_i negative body signed
    have isBody : body <:+ text := by
      unfold exponentSign? at signed
      split at signed <;> cases signed
      all_goals first
        | exact List.suffix_cons _ _
        | exact (List.suffix_cons _ _).trans (List.suffix_cons _ _)
    dsimp only
    split
    · exact List.suffix_rfl
    · exact (List.dropWhile_suffix _).trans isBody
  · exact List.suffix_rfl

theorem suffix_readDecimal (text : List Char) : (readDecimal text).2 <:+ text := by
  have behind : text.dropWhile Char.isDigit <:+ text := List.dropWhile_suffix _
  rw [readDecimal_eq]
  generalize text.dropWhile Char.isDigit = rest at behind
  unfold decimalOf
  dsimp only
  split
  · rename_i next tail
    split
    · have after := suffix_readExponent ((next :: tail).dropWhile Char.isDigit)
      exact ((after.trans (List.dropWhile_suffix _)).trans (List.suffix_cons _ _)).trans behind
    · exact behind
  · exact behind

theorem suffix_readNumber {text rest : List Char} {kind : TokenKind}
    (read : readNumber text = .ok (kind, rest)) : rest <:+ text := by
  have decimal (same : (Except.ok (readDecimal text) : Except ScriptError _) = .ok (kind, rest)) :
      rest <:+ text := by
    have suffix := suffix_readDecimal text
    rwa [Except.ok.inj same] at suffix
  unfold readNumber at read
  split at read
  · rename_i letter more
    have inside : more <:+ '0' :: letter :: more :=
      (List.suffix_cons letter more).trans (List.suffix_cons '0' _)
    split at read
    · cases blob : readBlob false more with
      | error error =>
        rw [blob] at read
        cases read
      | ok found =>
        obtain ⟨bytes, after⟩ := found
        rw [blob] at read
        cases read
        exact (suffix_readBlob blob).trans inside
    · split at read
      · split at read
        · cases read
          exact (List.dropWhile_suffix _).trans inside
        · exact decimal read
      · exact decimal read
  · exact decimal read

theorem suffix_readComparison? {text rest : List Char} {kind : TokenKind}
    (read : readComparison? text = some (kind, rest)) : rest <:+ text := by
  unfold readComparison? at read
  split at read
  case h_6 | h_8 =>
    cases read
    exact (suffix_readCaseMode _).trans (List.suffix_cons _ _)
  case h_9 => cases read
  all_goals
    cases read
    exact (suffix_readCaseMode _).trans ((List.suffix_cons _ _).trans (List.suffix_cons _ _))

theorem suffix_readMark? {text rest : List Char} {sign : Mark}
    (read : readMark? text = some (sign, rest)) : rest <:+ text := by
  unfold readMark? at read
  split at read
  case h_7 | h_16 | h_18 | h_19 =>
    cases read
    exact (List.suffix_cons _ _).trans (List.suffix_cons _ _)
  case h_21 => cases read
  all_goals
    cases read
    exact List.suffix_cons _ _

theorem suffix_splitName (text : List Char) : (Scope.splitName text).2 <:+ text := by
  unfold Scope.splitName
  split
  · exact (List.suffix_cons _ _).trans (List.suffix_cons _ _)
  · exact (List.suffix_cons _ _).trans (List.suffix_cons _ _)
  · exact List.suffix_rfl

theorem suffix_readOption? {text rest : List Char} {kind : TokenKind}
    (read : readOption? text = some (kind, rest)) : rest <:+ text := by
  unfold readOption? at read
  dsimp only at read
  split at read
  · cases read
  · cases read
    exact (List.dropWhile_suffix _).trans (suffix_splitName text)

theorem suffix_readEnv? {text rest : List Char} {kind : TokenKind}
    (read : readEnv? text = some (kind, rest)) : rest <:+ text := by
  unfold readEnv? at read
  dsimp only at read
  split at read
  · cases read
  · cases read
    exact List.dropWhile_suffix _

theorem suffix_readSign {c : Char} {text rest : List Char} {kind : TokenKind}
    (read : readSign c text = .ok (kind, rest)) : rest <:+ c :: text := by
  unfold readSign at read
  split at read
  · rename_i found comparison
    cases read
    exact suffix_readComparison? comparison
  · split at read
    · rename_i sign after mark
      cases read
      exact suffix_readMark? mark
    · split at read
      · split at read
        · rename_i found option
          cases read
          exact (suffix_readOption? option).trans (List.suffix_cons c text)
        · cases read
      · cases read

/-- What is left behind a token is the end of the text. -/
theorem TokenKind.suffix_read {text rest : List Char} {kind : TokenKind}
    (read : TokenKind.read text = .ok (kind, rest)) : rest <:+ text := by
  cases text with
  | nil => cases read
  | cons c text =>
    have inside : text <:+ c :: text := List.suffix_cons c text
    unfold TokenKind.read at read
    dsimp only at read
    split at read
    · exact suffix_readNumber read
    split at read
    · have name := suffix_readName (c :: text)
      rwa [Except.ok.inj read] at name
    split at read
    · split at read
      · rename_i quoted after quotedRead
        cases read
        exact (suffix_readSingleQuoted? quotedRead).trans inside
      · cases read
    split at read
    · split at read
      · rename_i quoted after quotedRead
        cases read
        exact (suffix_readDoubleQuoted? quotedRead).trans inside
      · cases read
    split at read
    · cases read
      exact (List.tail_suffix text).trans inside
    split at read
    · split at read
      · rename_i env envRead
        cases read
        exact (suffix_readEnv? envRead).trans inside
      · cases read
    exact suffix_readSign read

/-! ### All tokens -/

/-- A token further on. -/
def Token.later (token : Token) (count : Nat) : Token :=
  { token with start := token.start + count }

/-- Reading a text token by token, with blanks before each token and behind the last. -/
inductive Tokenizes : Nat → List Char → List Token → Prop
  | done {before : Nat} {blanks : List Char} : (∀ c ∈ blanks, isSeparator c = true) →
      Tokenizes before blanks []
  | token {before : Nat} {blanks spelled rest : List Char} {first : Char} {kind : TokenKind}
      {tokens : List Token} :
      (∀ c ∈ blanks, isSeparator c = true) → isSeparator first = false →
      TokenKind.read (first :: spelled ++ rest) = .ok (kind, rest) →
      Tokenizes (before + blanks.length + (first :: spelled).length) rest tokens →
      Tokenizes before (blanks ++ (first :: spelled ++ rest))
        (⟨kind, before + blanks.length, 0 < blanks.length⟩ :: tokens)

theorem Tokenizes.tokensFrom_eq {before : Nat} {text : List Char} {tokens : List Token}
    (reads : Tokenizes before text tokens) : tokensFrom before text = .ok tokens := by
  induction reads with
  | done blank =>
    rw [tokensFrom]
    simp only [List.dropWhile_eq_nil_iff.mpr blank, List.isEmpty_nil, if_true]
  | token blank notBlank read _ ih =>
    rw [tokensFrom_blanks blank notBlank read, ih]
    rfl

theorem exists_blanks (text : List Char) :
    ∃ blanks body, text = blanks ++ body ∧ (∀ c ∈ blanks, isSeparator c = true) ∧
      ∀ c ∈ body.head?, isSeparator c = false := by
  refine ⟨text.takeWhile isSeparator, text.dropWhile isSeparator,
    List.takeWhile_append_dropWhile.symm, fun c member => List.all_eq_true.mp List.all_takeWhile c member,
    fun c head => ?_⟩
  have stops := List.head?_dropWhile_not isSeparator text
  rwa [head] at stops

theorem tokenizes_of_tokensFrom {before : Nat} {text : List Char} {tokens : List Token}
    (read : tokensFrom before text = .ok tokens) : Tokenizes before text tokens := by
  obtain ⟨blanks, body, isText, blank, stops⟩ := exists_blanks text
  rw [isText, tokensFrom_step blank stops] at read
  rw [isText]
  split at read
  · rename_i empty
    cases read
    rw [List.isEmpty_iff.mp empty, List.append_nil]
    exact .done blank
  · split at read
    · cases read
    · rename_i kind rest taken
      obtain ⟨spelled, isBody⟩ := TokenKind.suffix_read taken
      have shorter := TokenKind.length_read taken
      cases spelled with
      | nil =>
        rw [← isBody, List.nil_append] at shorter
        exact absurd shorter (Nat.lt_irrefl _)
      | cons first spelled =>
        have count : body.length - rest.length = (first :: spelled).length := by
          rw [← isBody, List.length_append, Nat.add_sub_cancel]
        rw [count] at read
        cases others : tokensFrom (before + blanks.length + (first :: spelled).length) rest with
        | error error =>
          rw [others] at read
          cases read
        | ok tokens =>
          rw [others] at read
          cases read
          rw [← isBody] at taken stops ⊢
          exact .token blank (stops first rfl) taken (tokenizes_of_tokensFrom others)
termination_by text.length
decreasing_by
  rw [isText, List.length_append]
  omega

namespace Tokenizes

variable {before : Nat} {text : List Char} {tokens : List Token}

/-- A token without a blank before it. -/
theorem next (first : Char) (spelled : List Char) {rest : List Char} {kind : TokenKind}
    (notBlank : isSeparator first = false)
    (read : TokenKind.read (first :: spelled ++ rest) = .ok (kind, rest))
    (reads : Tokenizes (before + (first :: spelled).length) rest tokens) :
    Tokenizes before (first :: spelled ++ rest) (⟨kind, before, false⟩ :: tokens) :=
  @token before [] spelled rest first kind tokens nofun notBlank read reads

/-- The same tokens further on. -/
theorem shift (reads : Tokenizes before text tokens) (count : Nat) :
    Tokenizes (before + count) text (tokens.map (·.later count)) := by
  induction reads with
  | done blank => exact .done blank
  | token blank notBlank read _ ih =>
    rw [Nat.add_right_comm _ _ count, Nat.add_right_comm _ _ count] at ih
    have step := Tokenizes.token blank notBlank read ih
    rwa [Nat.add_right_comm _ count] at step

/-- The same tokens behind blanks: the first of them may then have a blank before it. -/
theorem behind_blanks {blanks : List Char} {first : Token} {rest : List Token}
    (blank : ∀ c ∈ blanks, isSeparator c = true)
    (reads : Tokenizes (before + blanks.length) text (first :: rest)) :
    ∃ other : Token, other.kind = first.kind ∧ Tokenizes before (blanks ++ text) (other :: rest) := by
  cases reads with
  | token blankMore notBlank read readsRest =>
    rename_i more spelled rest start kind
    rw [Nat.add_assoc before, ← List.length_append] at readsRest
    have both : ∀ c ∈ blanks ++ more, isSeparator c = true :=
      List.forall_mem_append.mpr ⟨blank, blankMore⟩
    have step := Tokenizes.token both notBlank read readsRest
    rw [List.append_assoc] at step
    refine ⟨_, ?_, step⟩
    rfl

/-- The last token of a text is the only one that what is written behind the text can change: it is read
again, and reading goes on behind it. -/
theorem exists_last (reads : Tokenizes before text tokens) (some : tokens ≠ []) (parts : Parts behind) :
    ∃ front first spelled blanks others last, text = front ++ (first :: spelled ++ blanks) ∧
      tokens = others ++ [last] ∧ last.start = before + front.length ∧
      TokenKind.read (first :: spelled ++ blanks) = .ok (last.kind, blanks) ∧
      (∀ c ∈ blanks, isSeparator c = true) ∧
      ∀ spelledMore rest kind more, spelled ++ blanks ++ behind = spelledMore ++ rest →
        TokenKind.read (first :: spelledMore ++ rest) = .ok (kind, rest) →
        Tokenizes (last.start + (first :: spelledMore).length) rest more →
        Tokenizes before (text ++ behind) (others ++ ⟨kind, last.start, last.spaced⟩ :: more) := by
  induction reads with
  | done => exact absurd rfl some
  | token blank notBlank read readsRest ih =>
    rename_i before blanks spelled rest first kind tokens
    by_cases isLast : tokens = []
    · subst isLast
      cases readsRest with
      | done blankRest =>
        refine ⟨blanks, first, spelled, rest, [], _, rfl, rfl, rfl, read, blankRest, ?_⟩
        intro spelledMore restMore kindMore more split readMore readsMore
        rw [List.append_assoc, List.cons_append, List.cons_append, split, ← List.cons_append]
        exact .token blank notBlank readMore readsMore
    · obtain ⟨front, firstLast, spelledLast, blanksLast, others, last, rfl, rfl, start, readLast, blankLast,
        continues⟩ := ih isLast
      have notEnd : front ++ (firstLast :: spelledLast ++ blanksLast) ≠ [] := by simp
      have readMore := TokenKind.read_append parts read fun nothing => absurd nothing notEnd
      refine ⟨blanks ++ first :: spelled ++ front, firstLast, spelledLast, blanksLast, _ :: others, last,
        by simp, rfl, ?_, readLast, blankLast, ?_⟩
      · rw [start, List.length_append, List.length_append]
        omega
      · intro spelledMore restMore kindMore more split readAgain readsMore
        rw [List.append_assoc] at readMore
        rw [List.append_assoc, List.append_assoc]
        exact .token blank notBlank readMore (continues _ _ _ _ split readAgain readsMore)

/-- A text behind another that ends in no blank, if it is not read into the last token of the other. -/
theorem append (reads : Tokenizes before text tokens) (parts : Parts behind)
    (trimmed : ∀ c ∈ text.getLast?, isSeparator c = false)
    (ends : ∀ token ∈ tokens.getLast?, ¬ Fuses token.kind (text.drop (token.start - before)) behind)
    {more : List Token} (readsMore : Tokenizes (before + text.length) behind more) :
    Tokenizes before (text ++ behind) (tokens ++ more) := by
  -- A blank at the end of the text would be its last character.
  have noBlanks {front blanks : List Char} (isText : text = front ++ blanks)
      (blank : ∀ c ∈ blanks, isSeparator c = true) : blanks = [] := by
    rw [isText, List.getLast?_append] at trimmed
    cases last : blanks.getLast? with
    | none => exact List.getLast?_eq_none_iff.mp last
    | some c =>
      rw [last] at trimmed
      exact absurd (blank c (List.mem_of_getLast? last)) (Bool.eq_false_iff.mp (trimmed c rfl))
  by_cases some : tokens = []
  · subst some
    cases reads with
    | done blank =>
      cases noBlanks (List.nil_append text).symm blank
      exact readsMore
  · obtain ⟨front, first, spelled, blanks, others, last, rfl, rfl, start, read, blank, continues⟩ :=
      reads.exists_last some parts
    cases noBlanks (List.append_assoc front (first :: spelled) blanks).symm blank
    simp only [List.append_nil] at *
    have apart := ends last List.getLast?_concat
    rw [start, Nat.add_sub_cancel_left, List.drop_left] at apart
    have readMore := TokenKind.read_append parts read fun _ => apart
    rw [List.append_assoc others]
    refine continues spelled behind last.kind more rfl readMore ?_
    rwa [List.length_append, ← Nat.add_assoc, ← start] at readsMore

end Tokenizes

end Script

end ModalEdit

import ModalEdit.Proofs.Script.Grammar
import ModalEdit.Proofs.Script.Joining

/-!
The tokens that name a member, and a dot between a text and the name of a member.
-/

set_option autoImplicit false

namespace ModalEdit

namespace Script

/-! ### Tokens that name a member -/

theorem not_isNameChar_of_isSeparator {c : Char} (blank : isSeparator c = true) : isNameChar c = false := by
  simp only [isSeparator, Bool.or_eq_true, beq_iff_eq] at blank
  rcases blank with rfl | rfl <;> rfl

theorem kind_readComparison? {text rest : List Char} {kind : TokenKind}
    (read : readComparison? text = some (kind, rest)) :
    ∃ operator case, kind = .compare operator case := by
  unfold readComparison? at read
  split at read <;> cases read
  all_goals exact ⟨_, _, rfl⟩

theorem not_namesMember_readSign {c : Char} {text rest : List Char} {kind : TokenKind}
    (read : readSign c text = .ok (kind, rest)) (key : String) : ¬ kind.NamesMember key := by
  unfold readSign at read
  split at read
  · rename_i found comparison
    cases read
    obtain ⟨operator, case, rfl⟩ := kind_readComparison? comparison
    exact nofun
  · split at read
    · cases read
      exact nofun
    · split at read
      · split at read
        · rename_i found option
          cases read
          unfold readOption? at option
          dsimp only at option
          split at option <;> cases option
          exact nofun
        · cases read
      · cases read

/-- A token that names a member is a number or a name. -/
theorem TokenKind.read_of_namesMember {c : Char} {text rest : List Char} {kind : TokenKind}
    {key : String} (read : TokenKind.read (c :: text) = .ok (kind, rest))
    (names : kind.NamesMember key) :
    (c.isDigit = true ∧ readNumber (c :: text) = .ok (kind, rest)) ∨
      (c.isDigit = false ∧ isNameChar c = true ∧ readName (c :: text) = (kind, rest)) := by
  unfold TokenKind.read at read
  dsimp only at read
  split at read
  · rename_i isDigit
    exact .inl ⟨isDigit, read⟩
  rename_i notDigit
  split at read
  · rename_i isName
    rw [Bool.or_eq_true, decide_eq_true_eq] at isName
    exact .inr ⟨Bool.eq_false_iff.mpr notDigit, isNameChar_of_isAlpha isName, Except.ok.inj read⟩
  split at read
  · split at read <;> cases read
    cases names
  split at read
  · split at read <;> cases read
    cases names
  split at read
  · cases read
    cases names
  split at read
  · split at read
    · rename_i found env
      cases read
      unfold readEnv? at env
      dsimp only at env
      split at env <;> cases env
      cases names
    · cases read
  · exact absurd names (not_namesMember_readSign read key)

/-- A name begins as the text does, and is a comparison or a name. -/
theorem kind_readName {c : Char} {text rest : List Char} {kind : TokenKind}
    (isChar : isNameChar c = true) (read : readName (c :: text) = (kind, rest)) :
    (∃ operator case, kind = .compare operator case) ∨
      ∃ name more, kind = .ident name ∧ name.toList = c :: more := by
  rw [readName_eq, List.takeWhile_cons_of_pos isChar] at read
  generalize (c :: text).dropWhile isNameChar = behind at read
  generalize text.takeWhile isNameChar = word at read
  have plain (read : plainName (c :: word) behind = (kind, rest)) :
      (∃ operator case, kind = .compare operator case) ∨
        ∃ name more, kind = .ident name ∧ name.toList = c :: more := by
    unfold plainName at read
    split at read
    · cases read
      exact .inl ⟨_, _, rfl⟩
    · split at read
      · cases read
        exact .inl ⟨_, _, rfl⟩
      · cases read
        exact .inr ⟨_, word, rfl, String.toList_ofList⟩
  unfold nameOf at read
  split at read
  · rename_i letter next tail single
    cases single
    split at read
    · cases read
      exact .inr ⟨_, _, rfl, String.toList_ofList⟩
    · exact plain read
  · exact plain read

theorem ident_of_readName {c : Char} {text rest : List Char} {kind : TokenKind} {key : String}
    (isChar : isNameChar c = true) (read : readName (c :: text) = (kind, rest))
    (names : kind.NamesMember key) : kind = .ident key ∧ ∃ more, key.toList = c :: more := by
  rcases kind_readName isChar read with ⟨operator, case, rfl⟩ | ⟨name, more, rfl, spelled⟩
  · cases names
  · cases names
    exact ⟨rfl, more, spelled⟩

/-- A number has no sign, and is a whole one, a broken one or bytes. -/
theorem kind_readNumber {text rest : List Char} {kind : TokenKind}
    (read : readNumber text = .ok (kind, rest)) :
    (∃ value, kind = .number value ∧ 0 ≤ value.toInt) ∨ (∃ value, kind = .float value) ∨
      ∃ bytes, kind = .blob bytes := by
  rcases readNumber_cases text with ⟨letter, more, rfl, isBlob⟩ |
    ⟨letter, more, base, rfl, notBlob, announced, first⟩ | unannounced
  · rw [readNumber_blob isBlob] at read
    cases blob : readBlob false more with
    | error error =>
      rw [blob] at read
      cases read
    | ok found =>
      rw [blob] at read
      cases read
      exact .inr (.inr ⟨_, rfl⟩)
  · rw [readNumber_based notBlob announced first] at read
    cases read
    exact .inl ⟨_, rfl, Number.toInt_leadingInteger_nonneg _ _⟩
  · rw [unannounced.readNumber_eq, readDecimal_eq] at read
    unfold decimalOf at read
    dsimp only at read
    split at read
    · split at read
      · cases read
        exact .inr (.inl ⟨_, rfl⟩)
      · cases read
        exact .inl ⟨_, rfl, Number.toInt_leadingInteger_nonneg _ _⟩
    · cases read
      exact .inl ⟨_, rfl, Number.toInt_leadingInteger_nonneg _ _⟩

theorem number_of_readNumber {text rest : List Char} {kind : TokenKind} {key : String}
    (read : readNumber text = .ok (kind, rest)) (names : kind.NamesMember key) :
    ∃ value, kind = .number value ∧ 0 ≤ value.toInt := by
  rcases kind_readNumber read with number | ⟨value, rfl⟩ | ⟨bytes, rfl⟩
  · exact number
  · cases names
  · cases names

/-- A number names a member that is all digits, and a name one that is not. -/
theorem TokenKind.names_digits {text rest : List Char} {kind : TokenKind} {key : String}
    (read : TokenKind.read text = .ok (kind, rest)) (names : kind.NamesMember key) :
    (∃ value, kind = .number value ∧ key.toList.all Char.isDigit = true) ∨
      (kind = .ident key ∧ key.toList.all Char.isDigit = false) := by
  cases text with
  | nil => cases read
  | cons c text =>
    rcases read_of_namesMember read names with ⟨-, number⟩ | ⟨notDigit, isChar, name⟩
    · obtain ⟨value, rfl, nonneg⟩ := number_of_readNumber number names
      cases names
      exact .inl ⟨value, rfl, Number.all_isDigit_toString nonneg⟩
    · obtain ⟨isIdent, more, spelled⟩ := ident_of_readName isChar name names
      refine .inr ⟨isIdent, ?_⟩
      rw [spelled, List.all_cons, notDigit, Bool.false_and]

theorem TokenKind.ne_dot_of_namesMember {c : Char} {text rest : List Char} {kind : TokenKind}
    {key : String} (read : TokenKind.read (c :: text) = .ok (kind, rest))
    (names : kind.NamesMember key) : c ≠ '.' := by
  rintro rfl
  rcases read_of_namesMember read names with ⟨isDigit, -⟩ | ⟨-, isChar, -⟩
  · cases isDigit
  · cases isChar

/-! ### A dot between two texts -/

section Dot

variable {a b : List Char} {tokens : List Token} {name : Token} {more : List Token} {key : String}

theorem read_dot {c : Char} (other : c ≠ '.') (text : List Char) :
    TokenKind.read ('.' :: c :: text) = .ok (.mark .dot, c :: text) := by
  have mark : readMark? ('.' :: c :: text) = some (.dot, c :: text) := by
    simp [readMark?, other]
  have sign : TokenKind.read ('.' :: c :: text) = readSign '.' (c :: text) := rfl
  have noComparison : readComparison? ('.' :: c :: text) = none := rfl
  rw [sign, readSign, noComparison, mark]

/-- A text that begins with the name of a member. -/
theorem exists_of_namesMember (read : tokenize b = .ok (name :: more))
    (tight : name.spaced = false) (names : name.kind.NamesMember key) :
    ∃ first spelled rest, b = first :: spelled ++ rest ∧ isSeparator first = false ∧ first ≠ '.' ∧
      TokenKind.read (first :: spelled ++ rest) = .ok (name.kind, rest) ∧ name.start = 0 ∧
      Tokenizes (first :: spelled).length rest more := by
  have reads := tokenizes_of_tokensFrom read
  cases reads with
  | token blank notBlank taken readsMore =>
    rename_i blanks spelled rest first kind
    have noBlanks : blanks = [] := by simpa using tight
    subst noBlanks
    rw [List.length_nil, Nat.zero_add] at readsMore
    have notDot := TokenKind.ne_dot_of_namesMember taken names
    exact ⟨first, spelled, rest, rfl, notBlank, notDot, taken, rfl, readsMore⟩

theorem tokenize_dot (read : tokenize a = .ok tokens)
    (trimmed : ∀ c ∈ a.getLast?, isSeparator c = false)
    (ends : ∀ token ∈ tokens.getLast?, ¬ Fuses token.kind (a.drop token.start) ('.' :: b))
    (readName : tokenize b = .ok (name :: more)) (tight : name.spaced = false)
    (names : name.kind.NamesMember key) :
    tokenize (a ++ '.' :: b) =
      .ok (tokens ++ ⟨.mark .dot, a.length, false⟩ ::
        (name :: more).map (·.later (a.length + 1))) := by
  obtain ⟨first, spelled, rest, rfl, -, notDot, -⟩ := exists_of_namesMember readName tight names
  have readsName := (tokenizes_of_tokensFrom readName).shift (a.length + 1)
  rw [Nat.zero_add] at readsName
  have dot : Tokenizes a.length ([] ++ (['.'] ++ (first :: spelled ++ rest))) _ :=
    .token nofun rfl (read_dot notDot _) readsName
  refine Tokenizes.tokensFrom_eq ?_
  refine (tokenizes_of_tokensFrom read).append (parts_cons (by decide) _) trimmed ends ?_
  rw [Nat.zero_add]
  exact dot

theorem tokenize_spaced_dot (read : tokenize a = .ok tokens)
    (trimmed : ∀ c ∈ a.getLast?, isSeparator c = false)
    (ends : ∀ token ∈ tokens.getLast?, ¬ Fuses token.kind (a.drop token.start) ('.' :: b))
    (readName : tokenize b = .ok (name :: more)) (tight : name.spaced = false)
    (names : name.kind.NamesMember key) :
    tokenize (a ++ ' ' :: '.' :: ' ' :: b) =
      .ok (tokens ++ ⟨.mark .dot, a.length + 1, true⟩ ::
        ⟨name.kind, a.length + 3, true⟩ :: more.map (·.later (a.length + 3))) := by
  obtain ⟨first, spelled, rest, rfl, notBlank, -, taken, -, readsMore⟩ :=
    exists_of_namesMember readName tight names
  have blank : ∀ c ∈ [' '], isSeparator c = true := List.forall_mem_singleton.mpr rfl
  have readsName : Tokenizes (a.length + 2) ([' '] ++ (first :: spelled ++ rest))
      (⟨name.kind, a.length + 3, true⟩ :: more.map (·.later (a.length + 3))) := by
    refine .token blank notBlank taken ?_
    have further := readsMore.shift (a.length + 3)
    rwa [Nat.add_comm] at further
  have dot : Tokenizes a.length ([' '] ++ (['.'] ++ (' ' :: (first :: spelled ++ rest)))) _ :=
    .token blank rfl (read_dot (by decide) _) readsName
  have apart : ∀ token ∈ tokens.getLast?,
      ¬ Fuses token.kind (a.drop token.start) (' ' :: '.' :: ' ' :: (first :: spelled ++ rest)) := by
    rintro token last (register | ⟨isDot, -⟩ | ⟨-, _, _, isDot, -⟩)
    · exact ends token last (.inl register)
    · cases isDot
    · cases isDot
  refine Tokenizes.tokensFrom_eq ?_
  refine (tokenizes_of_tokensFrom read).append (parts_cons (by decide) _) trimmed apart ?_
  rw [Nat.zero_add]
  exact dot

end Dot

end Script

end ModalEdit

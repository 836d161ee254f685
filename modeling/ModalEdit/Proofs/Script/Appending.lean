import ModalEdit.Proofs.Script.Quoting

/-!
Reading a token does not look past it: a dot, a blank or a closing brace that is written behind a text changes
none of its tokens, unless it becomes part of the last one.
-/

set_option autoImplicit false

namespace ModalEdit

namespace Script

variable {behind : List Char}

theorem splitName_append (parts : Parts behind) (text : List Char) :
    Scope.splitName (text ++ behind) =
      ((Scope.splitName text).1, (Scope.splitName text).2 ++ behind) := by
  obtain ⟨c, more, rfl⟩ := List.exists_cons_of_ne_nil parts.ne_nil
  have colon : c ≠ ':' := parts.ne (by decide)
  have letters : c ≠ 'l' ∧ c ≠ 'g' := ⟨parts.ne (by decide), parts.ne (by decide)⟩
  match text with
  | [] => simp [Scope.splitName, letters]
  | [letter] => simp [Scope.splitName, colon]
  | letter :: second :: rest =>
    by_cases isColon : second = ':'
    · subst isColon
      by_cases isLocal : letter = 'l'
      · simp [Scope.splitName, isLocal]
      · by_cases isGlobal : letter = 'g'
        · simp [Scope.splitName, isGlobal]
        · simp [Scope.splitName, isLocal, isGlobal]
    · simp [Scope.splitName, isColon]

theorem readOption?_append (parts : Parts behind) {text rest : List Char} {kind : TokenKind}
    (read : readOption? text = some (kind, rest)) :
    readOption? (text ++ behind) = some (kind, rest ++ behind) := by
  have stops := parts.stops (p := Char.isAlphanum) rfl
  unfold readOption? at read ⊢
  rw [splitName_append parts]
  dsimp only at read ⊢
  rw [takeWhile_append stops, dropWhile_append stops]
  split at read
  · cases read
  · rename_i named
    cases read
    rw [if_neg named]

theorem readEnv?_append (parts : Parts behind) {text rest : List Char} {kind : TokenKind}
    (read : readEnv? text = some (kind, rest)) :
    readEnv? (text ++ behind) = some (kind, rest ++ behind) := by
  have stops := parts.stops (p := isNameChar) rfl
  unfold readEnv? at read ⊢
  dsimp only at read ⊢
  rw [takeWhile_append stops, dropWhile_append stops]
  split at read
  · cases read
  · rename_i named
    cases read
    rw [if_neg named]

theorem readMark?_append (parts : Parts behind) {text rest : List Char} {sign : Mark}
    (read : readMark? text = some (sign, rest))
    (ends : rest = [] → sign = .dot → behind.head? ≠ some '.') :
    readMark? (text ++ behind) = some (sign, rest ++ behind) := by
  unfold readMark? at read
  split at read
  case h_17 tail notDouble =>
    cases read
    match rest, notDouble with
    | [], _ =>
      obtain ⟨c, more, rfl⟩ := List.exists_cons_of_ne_nil parts.ne_nil
      have other : c ≠ '.' := fun isDot => ends rfl rfl (congrArg Option.some isDot)
      simp [readMark?, other]
    | c :: more, notDouble =>
      have other : c ≠ '.' := by
        rintro rfl
        exact notDouble more rfl
      simp [readMark?, other]
  all_goals cases read
  all_goals rfl

theorem readComparison?_append (parts : Parts behind) {text rest : List Char} {kind : TokenKind}
    (read : readComparison? text = some (kind, rest)) :
    readComparison? (text ++ behind) = some (kind, rest ++ behind) := by
  -- What follows the sign is not the rest of a longer one.
  have apart {tail : List Char} (single : ∀ rest, tail = '=' :: rest → False) (rest : List Char) :
      tail ++ behind = '=' :: rest → False := by
    match tail, single with
    | [], _ =>
      intro isEqual
      rw [List.nil_append] at isEqual
      subst isEqual
      exact absurd rfl (parts.ne (by decide : '=' ∉ _))
    | c :: more, single =>
      intro isEqual
      cases isEqual
      exact single more rfl
  unfold readComparison? at read
  split at read
  case h_6 tail single =>
    cases read
    rw [List.cons_append, readComparison?, comparisonToken_append parts]
    · rfl
    · exact apart single
  case h_8 tail single =>
    cases read
    rw [List.cons_append, readComparison?, comparisonToken_append parts]
    · rfl
    · exact apart single
  case h_9 => cases read
  all_goals
    cases read
    simp only [List.cons_append, readComparison?, comparisonToken_append parts]
    rfl

theorem ne_of_readComparison?_eq_none {c : Char} {text : List Char}
    (isNone : readComparison? (c :: text) = none) : c ≠ '>' ∧ c ≠ '<' := by
  constructor
  all_goals
    rintro rfl
    cases text with
    | nil => cases isNone
    | cons second more => by_cases equal : second = '=' <;> simp [readComparison?, equal] at isNone

theorem readComparison?_eq_none_append (parts : Parts behind) {c : Char} {text : List Char}
    (isNone : readComparison? (c :: text) = none) : readComparison? (c :: (text ++ behind)) = none := by
  have notSign := ne_of_readComparison?_eq_none isNone
  cases text with
  | nil =>
    obtain ⟨first, more, rfl⟩ := List.exists_cons_of_ne_nil parts.ne_nil
    have equal : first ≠ '=' := parts.ne (by decide)
    have tilde : first ≠ '~' := parts.ne (by decide)
    simp [readComparison?, notSign, equal, tilde]
  | cons second more =>
    rw [List.cons_append]
    by_cases pairs : c = '=' ∨ c = '!'
    · have single : second ≠ '=' ∧ second ≠ '~' := by
        constructor
        · rintro rfl
          rcases pairs with rfl | rfl <;> cases isNone
        · rintro rfl
          rcases pairs with rfl | rfl <;> cases isNone
      rcases pairs with rfl | rfl <;> simp [readComparison?, single]
    · simp [readComparison?, notSign, not_or.mp pairs]

/-- Reads a comparison, a mark or an option. -/
def readSign (c : Char) (rest : List Char) : Except ScriptError (TokenKind × List Char) :=
  match readComparison? (c :: rest) with
  | some read => .ok read
  | none =>
    match readMark? (c :: rest) with
    | some (read, after) => .ok (.mark read, after)
    | none =>
      if c = '&' then
        match readOption? rest with
        | some read => .ok read
        | none => .error (invalidAt (c :: rest))
      else .error (invalidAt (c :: rest))

theorem readSign_append (parts : Parts behind) {c : Char} {text rest : List Char} {kind : TokenKind}
    (read : readSign c text = .ok (kind, rest))
    (ends : rest = [] → kind = .mark .dot → behind.head? ≠ some '.') :
    readSign c (text ++ behind) = .ok (kind, rest ++ behind) := by
  unfold readSign at read ⊢
  cases comparison : readComparison? (c :: text) with
  | some found =>
    rw [comparison] at read
    have more : readComparison? (c :: (text ++ behind)) = _ := readComparison?_append parts comparison
    cases read
    rw [more]
  | none =>
    rw [comparison] at read
    rw [readComparison?_eq_none_append parts comparison]
    dsimp only at read ⊢
    cases mark : readMark? (c :: text) with
    | some found =>
      obtain ⟨sign, after⟩ := found
      rw [mark] at read
      cases read
      have more : readMark? (c :: (text ++ behind)) = _ :=
        readMark?_append parts mark fun nothing isDot => ends nothing (congrArg _ isDot)
      rw [more]
    | none =>
      rw [mark] at read
      dsimp only at read
      split at read
      · rename_i isOption
        subst isOption
        split at read
        · rename_i found option
          cases read
          have noMark : readMark? ('&' :: (text ++ behind)) = none := by
            cases text with
            | nil =>
              obtain ⟨first, more, rfl⟩ := List.exists_cons_of_ne_nil parts.ne_nil
              have single : first ≠ '&' := parts.ne (by decide)
              simp [readMark?, single]
            | cons second more =>
              have single : second ≠ '&' := by
                rintro rfl
                cases mark
              simp [readMark?, single]
          rw [noMark]
          dsimp only
          rw [if_pos rfl, readOption?_append parts option]
        · cases read
      · cases read

/-- A token at the end of a text that becomes longer where the text goes on: a register without a name, a
blob or a run of digits before a dot, and a dot. -/
def Fuses (kind : TokenKind) (spelled behind : List Char) : Prop :=
  spelled = ['@'] ∨
    behind.head? = some '.' ∧ (kind = .mark .dot ∨ ∃ bytes, kind = .blob bytes) ∨
      spelled.all Char.isDigit = true ∧ StartsFraction behind

/-- A token is read as if nothing stood behind the text, unless it goes on there. -/
theorem TokenKind.read_append (parts : Parts behind) {text rest : List Char} {kind : TokenKind}
    (read : TokenKind.read text = .ok (kind, rest)) (ends : rest = [] → ¬ Fuses kind text behind) :
    TokenKind.read (text ++ behind) = .ok (kind, rest ++ behind) := by
  cases text with
  | nil => cases read
  | cons c text =>
    unfold TokenKind.read at read
    rw [List.cons_append]
    unfold TokenKind.read
    dsimp only at read ⊢
    split at read
    · rename_i isDigit
      rw [if_pos isDigit]
      have number : readNumber (c :: text ++ behind) = .ok (kind, rest ++ behind) :=
        readNumber_append parts read
          (fun nothing all starts => ends nothing (.inr (.inr ⟨all, starts⟩)))
          fun nothing isBlob dot => ends nothing (.inr (.inl ⟨dot, .inr isBlob⟩))
      exact number
    rename_i notDigit
    rw [if_neg notDigit]
    split at read
    · rename_i isName
      rw [if_pos isName]
      have name : readName (c :: text ++ behind) = _ := readName_append parts (c :: text)
      rw [Except.ok.inj read] at name
      exact congrArg Except.ok name
    rename_i notName
    rw [if_neg notName]
    split at read
    · rename_i isQuote
      rw [if_pos isQuote]
      split at read
      · rename_i quoted after quotedRead
        cases read
        rw [readSingleQuoted?_append parts quotedRead]
      · cases read
    rename_i notQuote
    rw [if_neg notQuote]
    split at read
    · rename_i isDouble
      rw [if_pos isDouble]
      split at read
      · rename_i quoted after quotedRead
        cases read
        rw [readDoubleQuoted?_append parts quotedRead]
      · cases read
    rename_i notDouble
    rw [if_neg notDouble]
    split at read
    · rename_i isRegister
      rw [if_pos isRegister]
      subst isRegister
      cases read
      cases text with
      | nil => exact absurd (Or.inl rfl) (ends rfl)
      | cons name more => rfl
    rename_i notRegister
    rw [if_neg notRegister]
    split at read
    · rename_i isEnv
      rw [if_pos isEnv]
      split at read
      · rename_i env envRead
        cases read
        rw [readEnv?_append parts envRead]
      · cases read
    rename_i notEnv
    rw [if_neg notEnv]
    exact readSign_append parts read fun nothing isDot dot =>
      ends nothing (.inr (.inl ⟨dot, .inl isDot⟩))

end Script

end ModalEdit

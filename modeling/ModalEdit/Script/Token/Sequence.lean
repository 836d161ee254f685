import ModalEdit.Script.Token

/-!
A text as its sequence of tokens. Every token takes at least one character, so reading ends.
-/

set_option autoImplicit false

namespace ModalEdit.Script

theorem length_readBlob (started : Bool) (text : List Char) {bytes : List UInt8}
    {rest : List Char} (h : readBlob started text = .ok (bytes, rest)) :
    rest.length ≤ text.length := by
  fun_induction readBlob started text generalizing bytes rest with
  | case1 started high low tail hhigh hlow ih =>
    cases hrec : readBlob true tail with
    | error e => simp [hrec, bind, Except.bind] at h
    | ok pair =>
      simp only [hrec, bind, Except.bind, pure, Except.pure, Except.ok.injEq, Prod.mk.injEq] at h
      have := @ih pair.1 pair.2 hrec
      rw [← h.2]
      simp only [List.length_cons]
      omega
  | case2 => simp at h
  | case3 started high low tail _ _ ih =>
    have := ih h
    simp only [List.length_cons] at this ⊢
    omega
  | case4 => simp only [Except.ok.injEq, Prod.mk.injEq] at h; exact Nat.le_of_eq (congrArg List.length h.2.symm)
  | case5 => simp at h
  | case6 => simp only [Except.ok.injEq, Prod.mk.injEq] at h; exact Nat.le_of_eq (congrArg List.length h.2.symm)
  | case7 => simp only [Except.ok.injEq, Prod.mk.injEq] at h; exact Nat.le_of_eq (congrArg List.length h.2.symm)

theorem length_readSingleQuoted? (text : List Char) {quoted rest : List Char}
    (h : readSingleQuoted? text = some (quoted, rest)) : rest.length ≤ text.length := by
  fun_induction readSingleQuoted? text generalizing quoted rest with
  | case1 tail ih =>
    obtain ⟨pair, hrec, heq⟩ := Option.map_eq_some_iff.1 h
    have := @ih pair.1 pair.2 hrec
    simp only [Prod.mk.injEq] at heq
    rw [← heq.2]
    simp only [List.length_cons]
    omega
  | case2 tail _ =>
    simp only [Option.some.injEq, Prod.mk.injEq] at h
    rw [← h.2]
    simp
  | case3 c tail _ _ ih =>
    obtain ⟨pair, hrec, heq⟩ := Option.map_eq_some_iff.1 h
    have := @ih pair.1 pair.2 hrec
    simp only [Prod.mk.injEq] at heq
    rw [← heq.2]
    simp only [List.length_cons]
    omega
  | case4 => simp at h

theorem length_readDoubleQuoted? (text : List Char) {quoted rest : List Char}
    (h : readDoubleQuoted? text = some (quoted, rest)) : rest.length ≤ text.length := by
  fun_induction readDoubleQuoted? text generalizing quoted rest with
  | case1 tail =>
    simp only [Option.some.injEq, Prod.mk.injEq] at h
    rw [← h.2]
    simp
  | case2 tail ih =>
    obtain ⟨pair, hrec, heq⟩ := Option.map_eq_some_iff.1 h
    have := @ih pair.1 pair.2 hrec
    have := length_readEscape tail
    simp only [Prod.mk.injEq] at heq
    rw [← heq.2]
    simp only [List.length_cons]
    omega
  | case3 c tail _ _ ih =>
    obtain ⟨pair, hrec, heq⟩ := Option.map_eq_some_iff.1 h
    have := @ih pair.1 pair.2 hrec
    simp only [Prod.mk.injEq] at heq
    rw [← heq.2]
    simp only [List.length_cons]
    omega
  | case4 => simp at h

theorem length_readCaseMode (text : List Char) :
    (readCaseMode text).2.length ≤ text.length := by
  unfold readCaseMode
  split <;> simp

theorem length_dropWhile_le (p : Char → Bool) (text : List Char) :
    (text.dropWhile p).length ≤ text.length :=
  (List.dropWhile_suffix p).length_le

theorem length_dropWhile_cons {p : Char → Bool} {c : Char} (h : p c = true) (text : List Char) :
    ((c :: text).dropWhile p).length ≤ text.length := by
  rw [List.dropWhile_cons_of_pos h]
  exact length_dropWhile_le p text

theorem length_readName {c : Char} (h : isNameChar c = true) (text : List Char) :
    (readName (c :: text)).2.length ≤ text.length := by
  have hrest := length_dropWhile_cons h text
  simp only [readName]
  split
  · rename_i letter next tail _ heq
    split
    · have := length_dropWhile_le (fun c => isNameChar c || c == '#') (next :: tail)
      rw [heq] at hrest
      simp only [List.length_cons] at hrest this
      dsimp only
      omega
    · split
      · exact Nat.le_trans (length_readCaseMode _) hrest
      · split
        · exact Nat.le_trans (length_readCaseMode _) hrest
        · exact hrest
  · split
    · exact Nat.le_trans (length_readCaseMode _) hrest
    · split
      · exact Nat.le_trans (length_readCaseMode _) hrest
      · exact hrest

theorem length_exponentSign? {text body : List Char} {negative : Bool}
    (h : exponentSign? text = some (negative, body)) : body.length ≤ text.length := by
  unfold exponentSign? at h
  split at h
  all_goals first
    | simp at h; done
    | (simp only [Option.some.injEq, Prod.mk.injEq] at h
       rw [← h.2]
       simp only [List.length_cons]
       omega)

theorem length_readExponent (text : List Char) :
    (readExponent text).2.length ≤ text.length := by
  unfold readExponent
  split
  · rename_i negative body heq
    have := length_exponentSign? heq
    have := length_dropWhile_le Char.isDigit body
    dsimp only
    split
    · exact Nat.le_refl _
    · dsimp only
      omega
  · exact Nat.le_refl _

theorem length_readDecimal {c : Char} (h : c.isDigit = true) (text : List Char) :
    (readDecimal (c :: text)).2.length ≤ text.length := by
  have hrest := length_dropWhile_cons h text
  simp only [readDecimal]
  split
  · rename_i next tail heq
    split
    · have hexp := length_readExponent ((next :: tail).dropWhile Char.isDigit)
      have hdrop := length_dropWhile_le Char.isDigit (next :: tail)
      rw [heq] at hrest
      simp only [List.length_cons] at hrest hdrop
      dsimp only
      omega
    · exact hrest
  · exact hrest

theorem length_readNumber {c : Char} (hdigit : c.isDigit = true) {text rest : List Char}
    {kind : TokenKind} (h : readNumber (c :: text) = .ok (kind, rest)) :
    rest.length ≤ text.length := by
  have hdecimal := length_readDecimal hdigit text
  unfold readNumber at h
  split at h
  · rename_i letter tail heq
    cases heq
    split at h
    · cases hblob : readBlob false tail with
      | error e => simp [hblob, Except.map] at h
      | ok pair =>
        have := @length_readBlob false tail pair.1 pair.2 hblob
        simp only [hblob, Except.map, Except.ok.injEq, Prod.mk.injEq] at h
        rw [← h.2]
        simp only [List.length_cons]
        omega
    · split at h
      · split at h
        · simp only [readBasedNumber, Except.ok.injEq, Prod.mk.injEq] at h
          rw [← h.2]
          exact Nat.le_trans (length_dropWhile_le _ _) (Nat.le_succ _)
        · simp only [Except.ok.injEq] at h
          rw [h] at hdecimal
          exact hdecimal
      · simp only [Except.ok.injEq] at h
        rw [h] at hdecimal
        exact hdecimal
  · simp only [Except.ok.injEq] at h
    rw [h] at hdecimal
    exact hdecimal

theorem length_readOption? {text rest : List Char} {kind : TokenKind}
    (h : readOption? text = some (kind, rest)) : rest.length ≤ text.length := by
  have hscope := Scope.length_splitName text
  simp only [readOption?] at h
  split at h
  · simp at h
  · simp only [Option.some.injEq, Prod.mk.injEq] at h
    have := length_dropWhile_le Char.isAlphanum (Scope.splitName text).2
    rw [← h.2]
    omega

theorem length_readEnv? {text rest : List Char} {kind : TokenKind}
    (h : readEnv? text = some (kind, rest)) : rest.length ≤ text.length := by
  simp only [readEnv?] at h
  split at h
  · simp at h
  · simp only [Option.some.injEq, Prod.mk.injEq] at h
    rw [← h.2]
    exact length_dropWhile_le _ _

theorem length_readMark? {text rest : List Char} {sign : Mark}
    (h : readMark? text = some (sign, rest)) : rest.length < text.length := by
  unfold readMark? at h
  split at h
  all_goals first
    | (simp only [Option.some.injEq, Prod.mk.injEq] at h
       rw [← h.2]
       simp only [List.length_cons]
       omega)
    | simp at h

theorem length_readComparison? {text rest : List Char} {kind : TokenKind}
    (h : readComparison? text = some (kind, rest)) : rest.length < text.length := by
  unfold readComparison? at h
  split at h
  all_goals first
    | (rename_i tail
       have := length_readCaseMode tail
       simp only [comparisonToken, Option.some.injEq, Prod.mk.injEq] at h
       rw [← h.2]
       simp only [List.length_cons]
       omega)
    | (rename_i tail _
       have := length_readCaseMode tail
       simp only [comparisonToken, Option.some.injEq, Prod.mk.injEq] at h
       rw [← h.2]
       simp only [List.length_cons]
       omega)
    | simp at h

theorem isNameChar_of_isAlpha {c : Char} (h : c.isAlpha = true ∨ c = '_') :
    isNameChar c = true := by
  rcases h with h | h
  · simp [isNameChar, Char.isAlphanum, h]
  · simp [isNameChar, h]

/-- A token takes at least one character. -/
theorem TokenKind.length_read {text rest : List Char} {kind : TokenKind}
    (h : TokenKind.read text = .ok (kind, rest)) : rest.length < text.length := by
  unfold TokenKind.read at h
  split at h
  · simp at h
  · rename_i c tail
    split at h
    · rename_i hdigit
      exact Nat.lt_succ_of_le (length_readNumber hdigit h)
    split at h
    · rename_i hname
      simp only [Except.ok.injEq] at h
      have := length_readName (isNameChar_of_isAlpha (by simpa using hname)) tail
      rw [h] at this
      exact Nat.lt_succ_of_le this
    split at h
    · split at h
      · rename_i hquoted
        have := length_readSingleQuoted? tail hquoted
        simp only [Except.ok.injEq, Prod.mk.injEq] at h
        rw [← h.2]
        exact Nat.lt_succ_of_le this
      · simp at h
    split at h
    · split at h
      · rename_i hquoted
        have := length_readDoubleQuoted? tail hquoted
        simp only [Except.ok.injEq, Prod.mk.injEq] at h
        rw [← h.2]
        exact Nat.lt_succ_of_le this
      · simp at h
    split at h
    · simp only [Except.ok.injEq, Prod.mk.injEq] at h
      rw [← h.2]
      simp only [List.length_tail, List.length_cons]
      omega
    split at h
    · split at h
      · rename_i henv
        simp only [Except.ok.injEq] at h
        rw [h] at henv
        exact Nat.lt_succ_of_le (length_readEnv? henv)
      · simp at h
    split at h
    · rename_i hcompare
      simp only [Except.ok.injEq] at h
      rw [h] at hcompare
      exact length_readComparison? hcompare
    split at h
    · rename_i hmark
      simp only [Except.ok.injEq, Prod.mk.injEq] at h
      rw [← h.2]
      exact length_readMark? hmark
    split at h
    · split at h
      · rename_i hoption
        simp only [Except.ok.injEq] at h
        rw [h] at hoption
        exact Nat.lt_succ_of_le (length_readOption? hoption)
      · simp at h
    · simp at h

/-- A space or a tab: what may stand between tokens. -/
def isSeparator (c : Char) : Bool :=
  c == ' ' || c == '\t'

/-- The tokens of `text`, where `before` characters come before it. -/
def tokensFrom (before : Nat) (text : List Char) : Except ScriptError (List Token) :=
  let blanks := (text.takeWhile isSeparator).length
  let body := text.dropWhile isSeparator
  if body.isEmpty then .ok []
  else
    match _h : TokenKind.read body with
    | .error error => .error error
    | .ok (kind, rest) => do
      let start := before + blanks
      let tokens ← tokensFrom (start + (body.length - rest.length)) rest
      return ⟨kind, start, 0 < blanks⟩ :: tokens
termination_by text.length
decreasing_by
  exact Nat.lt_of_lt_of_le (TokenKind.length_read _h) (length_dropWhile_le isSeparator text)

/-- All tokens of a text. -/
def tokenize (source : List Char) : Except ScriptError (List Token) :=
  tokensFrom 0 source

/-- The number of bytes that the first `count` characters take in UTF-8. -/
def byteOffset (source : List Char) (count : Nat) : Nat :=
  (source.take count).foldl (fun bytes c => bytes + c.utf8Size) 0

end ModalEdit.Script

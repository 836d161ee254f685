import ModalEdit.Proofs.Script.Complete
import ModalEdit.Proofs.Script.Lexing
import ModalEdit.Proofs.Script.Naming
import ModalEdit.Script.Eval

/-!
Numbers as expressions write them, and texts that are read where a number is wanted. A text that is one
number is read as that number, and with a minus in front of it as the value of that expression. So the
decimal text of an integer is read as the integer, but for the least one: its digits without the sign are
too large.
-/

set_option autoImplicit false

namespace ModalEdit

namespace Number

theorem isDigit_of_isDigitIn {base : Nat} (small : base ≤ 10) {c : Char}
    (inBase : isDigitIn base c = true) : c.isDigit = true := by
  by_contra notDigit
  unfold isDigitIn digitValue? at inBase
  rw [if_neg notDigit] at inBase
  split at inBase <;> simp at inBase
  omega

/-- In bases up to ten, the digits behind the decimal digits that a text starts with do not count. -/
theorem leadingInteger_takeWhile {base : Nat} (small : base ≤ 10) (text : List Char) :
    leadingInteger base (text.takeWhile Char.isDigit) = leadingInteger base text := by
  have both : (fun c => decide (isDigitIn base c = true ∧ c.isDigit = true)) = isDigitIn base := by
    funext c
    rw [Bool.decide_and, Bool.decide_eq_true, Bool.decide_eq_true, Bool.and_eq_left_iff_imp]
    exact isDigit_of_isDigitIn small
  unfold leadingInteger
  rw [List.takeWhile_takeWhile, both]

/-- The number that a text without blanks and a sign in front stands for. -/
def magnitude (text : List Char) : Int64 :=
  leadingInteger (splitBase none text).1 (splitBase none text).2

theorem readInteger_minus (text : List Char) : readInteger none ('-' :: text) = -magnitude text :=
  rfl

theorem readInteger_of_isDigit {c : Char} (isDigit : c.isDigit = true) (text : List Char) :
    readInteger none (c :: text) = magnitude (c :: text) := by
  have untrimmed : Text.trimStart (c :: text) = c :: text :=
    Text.trimStart_cons (Text.isBlank_of_isDigit isDigit)
  have signs : c ≠ '-' ∧ c ≠ '+' := by
    constructor <;> (rintro rfl; cases isDigit)
  simp [readInteger, untrimmed, signs, magnitude]

theorem magnitude_announced {letter : Char} {base : Nat} (announced : announcedBase? letter = some base)
    (digits : List Char) : magnitude ('0' :: letter :: digits) = leadingInteger base digits := by
  simp [magnitude, splitBase, announced]

theorem magnitude_unannounced {text : List Char}
    (unannounced : ∀ letter rest, text = '0' :: letter :: rest → announcedBase? letter = none) :
    magnitude text =
      leadingInteger (if isOctalRun (text.takeWhile Char.isDigit) then 8 else 10)
        (text.takeWhile Char.isDigit) := by
  have small : (if isOctalRun (text.takeWhile Char.isDigit) then 8 else 10) ≤ 10 := by
    split <;> decide
  have split : splitBase none text =
      (if isOctalRun (text.takeWhile Char.isDigit) then 8 else 10, text) := by
    unfold splitBase
    split
    · rename_i letter rest
      rw [unannounced letter rest rfl]
      rfl
    · rfl
  rw [magnitude, split, leadingInteger_takeWhile small]

end Number

namespace Script

theorem number_of_readDecimal {text rest : List Char} {n : Int64}
    (read : readDecimal text = (.number n, rest)) :
    n = Number.leadingInteger (if Number.isOctalRun (text.takeWhile Char.isDigit) then 8 else 10)
      (text.takeWhile Char.isDigit) ∧ rest = text.dropWhile Char.isDigit := by
  rw [readDecimal_eq] at read
  unfold decimalOf at read
  dsimp only at read
  split at read
  · split at read
    · cases read
    · cases read
      exact ⟨rfl, rfl⟩
  · cases read
    exact ⟨rfl, rfl⟩

/-- A number of an expression is the number that its text stands for, if nothing is left of the word that
it begins. -/
theorem magnitude_of_readNumber {text rest : List Char} {n : Int64}
    (read : readNumber text = .ok (.number n, rest)) (stops : ∀ c ∈ rest.head?, isNameChar c = false) :
    Number.magnitude text = n := by
  rcases readNumber_cases text with ⟨letter, more, rfl, isBlob⟩ |
    ⟨letter, more, base, rfl, notBlob, announced, first⟩ | unannounced
  · rw [readNumber_blob isBlob] at read
    cases blob : readBlob false more <;> (rw [blob] at read; cases read)
  · rw [readNumber_based notBlob announced first] at read
    cases read
    exact Number.magnitude_announced announced more
  · rw [unannounced.readNumber_eq] at read
    obtain ⟨value, isRest⟩ := number_of_readDecimal (Except.ok.inj read)
    rw [value]
    apply Number.magnitude_unannounced
    rintro letter more rfl
    -- An announcing letter without a digit behind it would be left over.
    refine Option.eq_none_iff_forall_not_mem.mpr fun base announced => ?_
    have isLetter := Number.isAlpha_of_announcedBase? announced
    have left : rest = letter :: more := by
      rw [isRest, List.dropWhile_cons_of_pos rfl,
        List.dropWhile_cons_of_neg (Bool.eq_false_iff.mp (Text.isDigit_of_isAlpha isLetter))]
    rw [left] at stops
    exact Bool.eq_false_iff.mp (stops letter rfl) (isNameChar_of_isAlpha (.inl isLetter))

/-! ### A text that is one number -/

section Single

variable {text : List Char} {token : Token} {n : Int64}

/-- A text that is one number is read as it where a number is wanted, and so is its opposite. -/
theorem readInteger_of_single (noBlank : ∀ c ∈ text.head?, isSeparator c = false)
    (single : tokenize text = .ok [token]) (isNumber : token.kind = .number n) :
    Number.readInteger none text = n ∧ Number.readInteger none ('-' :: text) = -n := by
  have reads := tokenizes_of_tokensFrom single
  cases reads with
  | token blank notBlank taken readsRest =>
    rename_i blanks spelled rest first kind
    cases blanks with
    | cons c blanks => exact absurd (blank c List.mem_cons_self) (Bool.eq_false_iff.mp (noBlank c rfl))
    | nil =>
      cases readsRest with
      | done blankRest =>
        have isKind : kind = .number n := isNumber
        subst isKind
        have stops : ∀ c ∈ rest.head?, isNameChar c = false := fun c head =>
          not_isNameChar_of_isSeparator (blankRest c (List.mem_of_head? head))
        rcases TokenKind.read_of_namesMember taken (.number n) with
          ⟨isDigit, number⟩ | ⟨-, isChar, name⟩
        · have value : Number.magnitude (first :: (spelled ++ rest)) = n :=
            magnitude_of_readNumber number stops
          exact ⟨(Number.readInteger_of_isDigit isDigit _).trans value,
            (Number.readInteger_minus _).trans (congrArg _ value)⟩
        · cases (ident_of_readName isChar name (.number n)).1

theorem parse_number (single : tokenize text = .ok [token]) (isNumber : token.kind = .number n) :
    Expr.parse text = .ok (.number n) := by
  have derives : Derives (.expr .atom) [token] (.number n) := .literal (isNumber ▸ .number n)
  exact (Expr.parse_eq_ok_iff _ _).mpr ⟨_, single, derives.loosest⟩

theorem parse_minus (single : tokenize text = .ok [token]) (isNumber : token.kind = .number n) :
    Expr.parse ('-' :: text) = .ok (.unary .negate (.number n)) := by
  have reads := (tokenizes_of_tokensFrom single).shift 1
  have all : tokenize ('-' :: text) = .ok [⟨.mark .minus, 0, false⟩, token.later 1] :=
    Tokenizes.tokensFrom_eq (.next '-' [] rfl rfl reads)
  have operand : Derives (.expr .unary) [token.later 1] (.number n) :=
    .tighter (.tighter (.literal (show TokenKind.Denotes token.kind _ from isNumber ▸ .number n)))
  have minus : Token.Is ⟨.mark .minus, 0, false⟩ UnaryOperator.negate.mark := rfl
  exact (Expr.parse_eq_ok_iff _ _).mpr ⟨_, all, (Derives.unary minus operand).loosest⟩

end Single

end Script

namespace Number

open Script

/-- A text that is one number of an expression is that number where a number is wanted, and with a minus in
front of it the value of the expression. -/
theorem ofText_of_literal {text : String} {token : Token} {n : Int64}
    (noBlank : ∀ c ∈ text.toList.head?, isSeparator c = false)
    (single : tokenize text.toList = .ok [token]) (isNumber : token.kind = .number n) :
    ofText text = n ∧ ∀ environment,
      (Expr.parse ("-" ++ text).toList >>= Expr.eval environment) =
        .ok (.number (ofText ("-" ++ text))) := by
  obtain ⟨value, opposite⟩ := readInteger_of_single noBlank single isNumber
  have minus : ("-" ++ text).toList = '-' :: text.toList := String.toList_append
  refine ⟨value, fun environment => ?_⟩
  rw [ofText, minus, opposite, parse_minus single isNumber]
  rfl

/-- Digits that are too large for 64 bits, in base sixteen. -/
theorem ofText_of_literal_saturated :
    (∀ c ∈ "0XfFfFfFfFfFfFfFfFf".toList.head?, isSeparator c = false) ∧
      tokenize "0XfFfFfFfFfFfFfFfFf".toList = .ok [⟨.number Int64.maxValue, 0, false⟩] ∧
      ofText "0XfFfFfFfFfFfFfFfFf" = Int64.maxValue ∧
      (Expr.parse "-0XfFfFfFfFfFfFfFfFf".toList >>= Expr.eval default) =
        .ok (.number (-Int64.maxValue)) := by
  have single : tokenize "0XfFfFfFfFfFfFfFfFf".toList = .ok [⟨.number Int64.maxValue, 0, false⟩] :=
    Tokenizes.tokensFrom_eq (.next '0' "XfFfFfFfFfFfFfFfFf".toList rfl (by decide) (.done nofun))
  have noBlank : ∀ c ∈ "0XfFfFfFfFfFfFfFfFf".toList.head?, isSeparator c = false := by
    rintro _ ⟨⟩
    rfl
  obtain ⟨value, negative⟩ := ofText_of_literal noBlank single rfl
  exact ⟨noBlank, single, value, negative default⟩

/-! ### The decimal text of an integer -/

theorem tokenize_toDigits (m : Nat) :
    (∀ c ∈ (Nat.toDigits 10 m).head?, isSeparator c = false) ∧
      tokenize (Nat.toDigits 10 m) = .ok [⟨.number (Int64.ofIntClamp m), 0, false⟩] := by
  have read : TokenKind.read (Nat.toDigits 10 m ++ []) = _ := read_toDigits m nofun
  cases digits : Nat.toDigits 10 m with
  | nil => exact absurd digits Nat.toDigits_ne_nil
  | cons first others =>
    have isDigit : first.isDigit = true := isDigit_of_mem_toDigits (digits ▸ List.mem_cons_self)
    have notBlank := not_isSeparator_of_isDigit isDigit
    rw [digits] at read
    constructor
    · rintro _ ⟨⟩
      exact notBlank
    · rw [← List.append_nil (first :: others)]
      exact Tokenizes.tokensFrom_eq (.next first others notBlank read (.done nofun))

theorem neg_ofIntClamp {n : Int64} {m : Nat} (isNeg : n.toInt = Int.negSucc m) :
    -Int64.ofIntClamp (m + 1 : Nat) = if n = Int64.minValue then n + 1 else n := by
  have least : Int64.minValue.toInt = -2 ^ 63 := Int64.toInt_minValue
  have bound := n.le_toInt
  apply Int64.toInt_inj.mp
  rw [Int64.toInt_neg, toInt_ofIntClamp_eq_stop, stop]
  split
  · rename_i isLeast
    rw [isLeast] at isNeg ⊢
    have largest : -(max (-2 ^ 63) (min ((m + 1 : Nat) : Int) (2 ^ 63 - 1))) = -(2 ^ 63 - 1) := by omega
    rw [largest]
    rfl
  · rename_i notLeast
    have above : n.toInt ≠ -2 ^ 63 := fun same => notLeast (Int64.toInt_inj.mp (same.trans least.symm))
    have same : -(max (-2 ^ 63) (min ((m + 1 : Nat) : Int) (2 ^ 63 - 1))) = n.toInt := by omega
    rw [same, Int.bmod_eq_of_le_mul_two (by omega) (by have := n.toInt_lt; omega)]

/-- The decimal text of an integer without a sign is one number. -/
theorem reads_toString {n : Int64} {m : Nat} (isNat : n.toInt = m) :
    readInteger none (toString n).toList = n ∧ Expr.parse (toString n).toList = .ok (.number n) := by
  obtain ⟨noBlank, single⟩ := tokenize_toDigits m
  rw [ofIntClamp_of_toInt isNat] at single
  rw [toList_toString isNat]
  exact ⟨(readInteger_of_single noBlank single rfl).1, parse_number single rfl⟩

/-- With a sign it is a minus in front of a number, which stops at the largest integer. -/
theorem reads_toString_neg {n : Int64} {m : Nat} (isNeg : n.toInt = Int.negSucc m) :
    let size := Int64.ofIntClamp (m + 1 : Nat)
    readInteger none (toString n).toList = -size ∧
      Expr.parse (toString n).toList = .ok (.unary .negate (.number size)) := by
  intro size
  obtain ⟨noBlank, single⟩ := tokenize_toDigits (m + 1)
  rw [toList_toString_neg isNeg]
  exact ⟨(readInteger_of_single noBlank single rfl).2, parse_minus single rfl⟩

/-- An integer is read back from its decimal text and is the value of that text, but for the least one: the
digits behind its minus stop at the largest integer. -/
theorem ofText_toString (n : Int64) :
    let back := if n = Int64.minValue then n + 1 else n
    ofText (toString n) = back ∧
      (∀ environment, (Expr.parse (toString n).toList >>= Expr.eval environment) = .ok (.number back)) ∧
      (ofText (toString n) = n ↔ n ≠ Int64.minValue) := by
  intro back
  have reads : ofText (toString n) = back ∧ ∀ environment,
      (Expr.parse (toString n).toList >>= Expr.eval environment) = .ok (.number back) := by
    cases sign : n.toInt with
    | ofNat m =>
      have notLeast : n ≠ Int64.minValue := by
        rintro rfl
        cases sign
      have same : back = n := if_neg notLeast
      obtain ⟨value, parsed⟩ := reads_toString sign
      rw [same, parsed]
      exact ⟨value, fun _ => rfl⟩
    | negSucc m =>
      have same : -Int64.ofIntClamp (m + 1 : Nat) = back := neg_ofIntClamp sign
      obtain ⟨value, parsed⟩ := reads_toString_neg sign
      rw [← same, parsed]
      exact ⟨value, fun _ => rfl⟩
  refine ⟨reads.1, reads.2, ?_⟩
  rw [reads.1]
  have differs : Int64.minValue + 1 ≠ Int64.minValue := by decide
  by_cases isLeast : n = Int64.minValue
  · subst isLeast
    exact iff_of_false differs fun other => other rfl
  · exact iff_of_true (if_neg isLeast) isLeast

end Number

end ModalEdit

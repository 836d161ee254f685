import ModalEdit.Proofs.Number.Digits
import ModalEdit.Proofs.Script.Parting
import ModalEdit.Script.Value

/-!
The literals that values are printed as, read as tokens wherever they stand.
-/

set_option autoImplicit false

namespace ModalEdit.Script

/-- The text does not go on with a literal before it: it ends, or it begins with a mark that separates or
closes. -/
def Delimits (rest : List Char) : Prop :=
  ∀ c ∈ rest.head?, c ∈ [',', ']', '}', ':', ')']

theorem delimits_nil : Delimits [] :=
  nofun

theorem delimits_cons {c : Char} (listed : c ∈ [',', ']', '}', ':', ')']) (rest : List Char) :
    Delimits (c :: rest) := by
  rintro _ ⟨⟩
  exact listed

theorem not_isSeparator_of_isDigit {c : Char} (isDigit : c.isDigit = true) :
    isSeparator c = false := by
  refine Bool.eq_false_iff.mpr fun blank => ?_
  simp only [isSeparator, Bool.or_eq_true, beq_iff_eq] at blank
  rcases blank with rfl | rfl <;> exact absurd isDigit (by decide)

/-- One step: the blanks that a text begins with, and the token behind them. -/
theorem tokensFrom_step {blanks body : List Char} (blank : ∀ c ∈ blanks, isSeparator c = true)
    (stops : ∀ c ∈ body.head?, isSeparator c = false) (before : Nat) :
    tokensFrom before (blanks ++ body) =
      if body.isEmpty then .ok []
      else
        match TokenKind.read body with
        | .error error => .error error
        | .ok (kind, rest) =>
          (tokensFrom (before + blanks.length + (body.length - rest.length)) rest).map
            (⟨kind, before + blanks.length, 0 < blanks.length⟩ :: ·) := by
  have noBlank : body.takeWhile isSeparator = [] ∧ body.dropWhile isSeparator = body := by
    cases body with
    | nil => exact ⟨rfl, rfl⟩
    | cons c body =>
      have notBlank : ¬ isSeparator c = true := Bool.eq_false_iff.mp (stops c rfl)
      exact ⟨List.takeWhile_cons_of_neg notBlank, List.dropWhile_cons_of_neg notBlank⟩
  have taken : (blanks ++ body).takeWhile isSeparator = blanks := by
    rw [List.takeWhile_append_of_pos blank, noBlank.1, List.append_nil]
  have dropped : (blanks ++ body).dropWhile isSeparator = body := by
    rw [List.dropWhile_append_of_pos blank, noBlank.2]
  rw [tokensFrom]
  simp only [taken, dropped]
  split
  · rfl
  · split
    · rename_i failed
      rw [dropped] at failed
      rw [failed]
    · rename_i kind rest ok
      rw [dropped] at ok
      rw [ok]
      dsimp only
      cases tokensFrom (before + blanks.length + (body.length - rest.length)) rest <;> rfl

/-- A token is read behind blanks, and reading goes on behind it. -/
theorem tokensFrom_blanks {blanks spelled rest : List Char} {first : Char} {kind : TokenKind}
    (blank : ∀ c ∈ blanks, isSeparator c = true) (notBlank : isSeparator first = false)
    (read : TokenKind.read (first :: spelled ++ rest) = .ok (kind, rest)) (before : Nat) :
    tokensFrom before (blanks ++ (first :: spelled ++ rest)) =
      (tokensFrom (before + blanks.length + (first :: spelled).length) rest).map
        (⟨kind, before + blanks.length, 0 < blanks.length⟩ :: ·) := by
  have stops : ∀ c ∈ (first :: spelled ++ rest).head?, isSeparator c = false := by
    rintro _ ⟨⟩
    exact notBlank
  have something : ¬ (first :: spelled ++ rest).isEmpty = true := nofun
  rw [tokensFrom_step blank stops, if_neg something, read, List.length_append]
  simp only [Nat.add_sub_cancel]

/-! ### Literals -/

theorem Delimits.not_of_head {rest : List Char} (delimits : Delimits rest) {p : Char → Bool}
    (none : [',', ']', '}', ':', ')'].any p = false) : ∀ c ∈ rest.head?, p c = false :=
  fun c head => Bool.eq_false_iff.mpr (List.any_eq_false.mp none c (delimits c head))

section Digits

variable (n : Nat) {rest : List Char} (stops : ∀ c ∈ rest.head?, (c.isAlphanum || c == '.') = false)

include stops in
theorem readDecimal_toDigits :
    readDecimal (Nat.toDigits 10 n ++ rest) = (.number (Int64.ofIntClamp n), rest) := by
  have isDigit : ∀ digit ∈ Nat.toDigits 10 n, digit.isDigit = true :=
    fun _ member => Number.isDigit_of_mem_toDigits member
  have noDigit : ∀ c ∈ rest.head?, c.isDigit = false := by
    intro c head
    have other := stops c head
    simp only [Char.isAlphanum, Bool.or_eq_false_iff] at other
    exact other.1.2
  have noFraction : ∀ next tail, rest = '.' :: next :: tail → next.isDigit = false := by
    rintro next tail rfl
    exact absurd (stops '.' rfl) (by decide)
  rw [readDecimal_eq, List.takeWhile_append_of_pos isDigit, List.dropWhile_append_of_pos isDigit,
    takeWhile_of_stops noDigit, dropWhile_of_stops noDigit, List.append_nil, decimalOf_of_whole noFraction,
    Number.isOctalRun_toDigits, if_neg Bool.false_ne_true, Number.leadingInteger_toDigits]

include stops in
/-- A number is read from its digits, where no letter, digit or dot goes on behind them. -/
theorem read_toDigits :
    TokenKind.read (Nat.toDigits 10 n ++ rest) = .ok (.number (Int64.ofIntClamp n), rest) := by
  have decimal := readDecimal_toDigits n stops
  cases digits : Nat.toDigits 10 n with
  | nil => exact absurd digits Nat.toDigits_ne_nil
  | cons first others =>
    have isDigit : first.isDigit = true :=
      Number.isDigit_of_mem_toDigits (digits ▸ List.mem_cons_self)
    have plain : ∀ letter more, first :: others ++ rest = '0' :: letter :: more → letter.isAlpha = false := by
      intro letter more split
      rcases Nat.eq_zero_or_pos n with rfl | positive
      · cases digits
        have other := stops letter (congrArg List.head? (List.cons.inj split).2)
        simp only [Char.isAlphanum, Bool.or_eq_false_iff] at other
        exact other.1.1
      · have run := Number.isRun_toDigits positive
        rw [digits] at run
        exact absurd (congrArg Option.some (List.cons.inj split).1) run.nonzero
    have number := (unannounced_of_not_isAlpha plain).readNumber_eq
    rw [digits, List.cons_append] at decimal
    rw [List.cons_append] at number ⊢
    rw [TokenKind.read, if_pos isDigit, number, decimal]

end Digits

theorem readSingleQuoted?_quoted (text : List Char) {rest : List Char} (delimits : Delimits rest) :
    readSingleQuoted?
        (text.flatMap (fun c => if c = '\'' then ['\'', '\''] else [c]) ++ '\'' :: rest) =
      some (text, rest) := by
  induction text with
  | nil =>
    cases rest with
    | nil => rfl
    | cons c rest =>
      have other : c ≠ '\'' := by
        rintro rfl
        exact absurd (delimits '\'' rfl) (by decide)
      simp [readSingleQuoted?, other]
  | cons c text ih =>
    by_cases quote : c = '\''
    · subst quote
      simp [readSingleQuoted?, ih]
    · simp [readSingleQuoted?, quote, ih]

theorem read_quoted (text : String) {rest : List Char} (delimits : Delimits rest) :
    TokenKind.read ((Value.quoted text).toList ++ rest) = .ok (.str text, rest) := by
  have quoted := readSingleQuoted?_quoted text.toList delimits
  simp only [Value.quoted, String.toList_ofList, List.cons_append, List.append_assoc,
    List.nil_append]
  rw [TokenKind.read, if_neg (by decide), if_neg (by decide), if_pos rfl, quoted]
  simp

theorem hexDigit_spells {value : Nat} (isDigit : value < 16) :
    Number.digitValue? 16 (Value.hexDigit value) = some value := by
  revert value
  decide

theorem readBlob_hexBytes (started : Bool) (bytes : List UInt8) {rest : List Char}
    (delimits : Delimits rest) :
    readBlob started (bytes.flatMap Value.hexByte ++ rest) = .ok (bytes, rest) := by
  induction bytes generalizing started with
  | nil =>
    cases rest with
    | nil => rfl
    | cons c rest =>
      have other : Number.isHexDigit c = false := delimits.not_of_head rfl c rfl
      have point : c ≠ '.' := by
        rintro rfl
        exact absurd (delimits '.' rfl) (by decide)
      cases rest <;> simp [readBlob, other, point]
  | cons byte bytes ih =>
    have bound : byte.toNat < 256 := byte.toNat_lt
    have high : Number.digitValue? 16 (Value.hexDigit (byte.toNat / 16)) = _ :=
      hexDigit_spells (by omega)
    have low : Number.digitValue? 16 (Value.hexDigit (byte.toNat % 16)) = _ :=
      hexDigit_spells (by omega)
    have whole : UInt8.ofNat (byte.toNat / 16 * 16 + byte.toNat % 16) = byte := by
      rw [Nat.div_add_mod' byte.toNat 16]
      exact UInt8.ofNat_toNat
    simp [Value.hexByte, readBlob, Number.isHexDigit, Number.isDigitIn, Number.valueOfDigits, high,
      low, ih true, whole, bind, Except.bind, pure, Except.pure]

theorem read_blob (bytes : List UInt8) {rest : List Char} (delimits : Delimits rest) :
    TokenKind.read ('0' :: 'z' :: bytes.flatMap Value.hexByte ++ rest) = .ok (.blob bytes, rest) := by
  have blob := readBlob_hexBytes false bytes delimits
  show (readBlob false (bytes.flatMap Value.hexByte ++ rest)).map
    (fun read => (TokenKind.blob read.1, read.2)) = _
  rw [blob]
  rfl

end ModalEdit.Script

import Mathlib.Algebra.Ring.Int.Defs
import Mathlib.Data.List.TakeWhile
import ModalEdit.Number.Integer

/-!
Numbers and their decimal digits: those that are typed for counts, and those of integers.
-/

set_option autoImplicit false

namespace ModalEdit.Number

theorem saturate_pos {n : Nat} (positive : 0 < n) : 0 < saturate n := by
  unfold saturate maxCount
  omega

/-- It does not matter whether a number stops growing before it goes on growing. -/
theorem saturate_saturate_mul_add {factor : Nat} (n digit : Nat) (positive : 0 < factor) :
    saturate (saturate n * factor + digit) = saturate (n * factor + digit) := by
  have grows : n ≤ n * factor := Nat.le_mul_of_pos_right n positive
  have cutGrows : saturate n ≤ saturate n * factor := Nat.le_mul_of_pos_right _ positive
  by_cases small : n ≤ maxCount
  · rw [saturate_of_le small]
  · unfold saturate at *
    omega

/-- Nor does it matter before it is multiplied by a number that is not zero. -/
theorem saturate_saturate_mul (n : Nat) {factor : Nat} (positive : 0 < factor) :
    saturate (saturate n * factor) = saturate (n * factor) :=
  saturate_saturate_mul_add n 0 positive

theorem saturate_mul_saturate {m n : Nat} (someFirst : 0 < m) (someSecond : 0 < n) :
    saturate (saturate m * saturate n) = saturate (m * n) := by
  rw [saturate_saturate_mul m (saturate_pos someSecond), Nat.mul_comm m,
    saturate_saturate_mul n someFirst, Nat.mul_comm n]

/-- Digits typed one after the other go on with the number before them. -/
theorem foldl_saturate (digits : List Char) (n : Nat) :
    digits.foldl (fun total digit => saturate (total * 10 + decimalValue digit)) (saturate n) =
      saturate (Nat.ofDigitChars 10 digits n) := by
  induction digits generalizing n with
  | nil => rfl
  | cons digit rest ih =>
    rw [List.foldl_cons, saturate_saturate_mul_add n _ (by decide), ih, Nat.ofDigitChars_cons,
      Nat.mul_comm n]
    rfl

/-- A run of digits denotes its decimal value, or the largest count if that is larger. -/
theorem countOfDigits_eq (digits : List Char) :
    countOfDigits digits = saturate (Nat.ofDigitChars 10 digits 0) :=
  foldl_saturate digits 0

/-- The digits of a number denote it. -/
theorem countOfDigits_toDigits (n : Nat) : countOfDigits (Nat.toDigits 10 n) = saturate n := by
  rw [countOfDigits_eq, Nat.ofDigitChars_toDigits (by decide) (by decide)]

/-- Digits in front of something else are read as their count. -/
theorem leadingCount_append {digits rest : List Char}
    (isDigit : ∀ digit ∈ digits, digit.isDigit = true) (stops : ∀ c ∈ rest.head?, c.isDigit = false) :
    leadingCount (digits ++ rest) = (countOfDigits digits, rest) := by
  have none : rest.takeWhile Char.isDigit = [] ∧ rest.dropWhile Char.isDigit = rest := by
    cases rest with
    | nil => exact ⟨rfl, rfl⟩
    | cons c rest =>
      have other : ¬c.isDigit = true := Bool.eq_false_iff.mp (stops c rfl)
      exact ⟨List.takeWhile_cons_of_neg other, List.dropWhile_cons_of_neg other⟩
  unfold leadingCount
  rw [List.takeWhile_append_of_pos isDigit, List.dropWhile_append_of_pos isDigit, none.1, none.2,
    List.append_nil]

theorem isDigit_of_mem_toDigits {n : Nat} {digit : Char} (member : digit ∈ Nat.toDigits 10 n) :
    digit.isDigit = true :=
  Nat.isDigit_of_mem_toDigits (by decide) (by decide) member

theorem le_ofDigitChars (digits : List Char) (n : Nat) : n ≤ Nat.ofDigitChars 10 digits n := by
  induction digits generalizing n with
  | nil => exact Nat.le_refl n
  | cons digit rest ih =>
    rw [Nat.ofDigitChars_cons]
    have next := ih (10 * n + (digit.toNat - '0'.toNat))
    omega

/-- Digits that can be typed as a count: the first of them, if there is any, is not zero. -/
structure IsRun (digits : List Char) : Prop where
  digit : ∀ digit ∈ digits, digit.isDigit = true
  nonzero : digits.head? ≠ some '0'

instance (digits : List Char) : Decidable (IsRun digits) :=
  decidable_of_iff (digits.all Char.isDigit = true ∧ digits.head? ≠ some '0')
    ⟨fun run => ⟨List.all_eq_true.mp run.1, run.2⟩,
      fun run => ⟨List.all_eq_true.mpr run.digit, run.nonzero⟩⟩

theorem IsRun.append_left {first second : List Char} (run : IsRun (first ++ second)) :
    IsRun first := by
  constructor
  · exact fun digit member => run.digit digit (List.mem_append_left second member)
  · intro zero
    refine run.nonzero ?_
    rw [List.head?_append, zero]
    rfl

theorem decimalValue_pos {digit : Char} (isDigit : digit.isDigit = true) (nonzero : digit ≠ '0') :
    0 < decimalValue digit := by
  simp only [Char.isDigit, Bool.and_eq_true, decide_eq_true_eq, UInt32.le_iff_toNat_le] at isDigit
  have differ : digit.val.toNat ≠ 48 := fun same => nonzero (Char.ext (UInt32.toNat_inj.mp same))
  have low : 48 ≤ digit.val.toNat := isDigit.1
  show 0 < digit.val.toNat - 48
  omega

/-- A count that is typed is at least one. -/
theorem IsRun.pos {digits : List Char} (run : IsRun digits) (some : digits ≠ []) :
    0 < Nat.ofDigitChars 10 digits 0 := by
  cases digits with
  | nil => exact absurd rfl some
  | cons digit rest =>
    have first := decimalValue_pos (run.digit digit List.mem_cons_self)
      fun zero => run.nonzero (congrArg Option.some zero)
    rw [Nat.ofDigitChars_cons, Nat.mul_zero, Nat.zero_add]
    exact Nat.lt_of_lt_of_le first (le_ofDigitChars rest _)

/-- The digits of a number that is not zero can be typed as a count. -/
theorem isRun_toDigits {n : Nat} (positive : 0 < n) : IsRun (Nat.toDigits 10 n) := by
  constructor
  · exact fun digit member => isDigit_of_mem_toDigits member
  · have single : ∀ n < 10, 0 < n → [n.digitChar].head? ≠ some '0' := by decide
    induction n using Nat.strongRecOn with
    | ind n ih =>
      rw [Nat.toDigits_eq_if (by decide)]
      split
      · rename_i short
        exact single n short positive
      · have shorter := ih (n / 10) (by omega) (by omega)
        cases front : Nat.toDigits 10 (n / 10) with
        | nil => exact absurd front Nat.toDigits_ne_nil
        | cons digit rest =>
          rw [front] at shorter
          exact shorter

/-- The count that runs of digits make up: their values multiplied, or the largest count if that is
larger. Empty runs have not been typed. -/
def runsCount? (runs : List (List Char)) : Option Nat :=
  let typed := runs.filter (· ≠ [])
  if typed = [] then none
  else some (saturate (typed.foldr (fun run product => Nat.ofDigitChars 10 run 0 * product) 1))

/-- The digits that a count is typed with. -/
def digitsOf (count? : Option Nat) : List Char :=
  (count?.map (Nat.toDigits 10)).getD []

/-- Whether a count can be typed. -/
def IsCount (count? : Option Nat) : Prop :=
  ∀ count ∈ count?, 0 < count ∧ count ≤ maxCount

theorem runsCount?_single (digits : List Char) :
    runsCount? [digits] = if digits = [] then none else some (countOfDigits digits) := by
  unfold runsCount?
  rw [countOfDigits_eq]
  by_cases empty : digits = []
  · rw [empty]
    rfl
  · simp [empty]

theorem IsRun.isCount {digits : List Char} (run : IsRun digits) : IsCount (runsCount? [digits]) := by
  intro count counts
  rw [runsCount?_single] at counts
  split at counts
  · cases counts
  · rename_i typed
    cases counts
    rw [countOfDigits_eq]
    exact ⟨saturate_pos (run.pos typed), saturate_le _⟩

/-- Without any digits, things are done once. -/
theorem IsRun.one_le {digits : List Char} (run : IsRun digits) : 1 ≤ (runsCount? [digits]).getD 1 := by
  cases count : runsCount? [digits] with
  | none => exact Nat.le_refl 1
  | some times => exact (run.isCount times count).1

theorem isRun_digitsOf {count? : Option Nat} (counts : IsCount count?) : IsRun (digitsOf count?) := by
  cases count? with
  | none => exact ⟨nofun, nofun⟩
  | some count => exact isRun_toDigits (counts count rfl).1

/-- The digits of a count denote it. -/
theorem runsCount?_digitsOf {count? : Option Nat} (counts : IsCount count?) :
    runsCount? [digitsOf count?] = count? := by
  rw [runsCount?_single]
  cases count? with
  | none => rfl
  | some count =>
    have denoted : countOfDigits (digitsOf (some count)) = count :=
      (countOfDigits_toDigits count).trans (saturate_of_le (counts count rfl).2)
    rw [denoted]
    exact if_neg Nat.toDigits_ne_nil

theorem digitValue?_of_isDigit {digit : Char} (isDigit : digit.isDigit = true) :
    digitValue? 10 digit = some (digit.toNat - '0'.toNat) := by
  have inRange := isDigit
  simp only [Char.isDigit, Bool.and_eq_true, decide_eq_true_eq, UInt32.le_iff_toNat_le] at inRange
  have high : digit.toNat ≤ 57 := inRange.2
  have small : digit.toNat - '0'.toNat < 10 := by
    have zero : '0'.toNat = 48 := rfl
    omega
  simp only [digitValue?, isDigit, if_true, small]

theorem isDigitIn_of_isDigit {digit : Char} (isDigit : digit.isDigit = true) :
    isDigitIn 10 digit = true := by
  rw [isDigitIn, digitValue?_of_isDigit isDigit]
  rfl

theorem foldl_digitValue {digits : List Char} (isDigit : ∀ digit ∈ digits, digit.isDigit = true)
    (total : Nat) :
    digits.foldl (fun total digit => total * 10 + (digitValue? 10 digit).getD 0) total =
      Nat.ofDigitChars 10 digits total := by
  induction digits generalizing total with
  | nil => rfl
  | cons digit rest ih =>
    rw [List.foldl_cons, ih fun c member => isDigit c (List.mem_cons_of_mem digit member),
      Nat.ofDigitChars_cons, digitValue?_of_isDigit (isDigit digit List.mem_cons_self),
      Nat.mul_comm total]
    rfl

theorem valueOfDigits_eq {digits : List Char} (isDigit : ∀ digit ∈ digits, digit.isDigit = true) :
    valueOfDigits 10 digits = Nat.ofDigitChars 10 digits 0 :=
  foldl_digitValue isDigit 0

/-- The digits of a number are read as it, as far as it fits. -/
theorem leadingInteger_toDigits (n : Nat) :
    leadingInteger 10 (Nat.toDigits 10 n) = Int64.ofIntClamp n := by
  have isDigit : ∀ digit ∈ Nat.toDigits 10 n, digit.isDigit = true :=
    fun _ member => isDigit_of_mem_toDigits member
  have all : (Nat.toDigits 10 n).takeWhile (isDigitIn 10) = Nat.toDigits 10 n :=
    List.takeWhile_eq_self_iff.mpr fun c member => isDigitIn_of_isDigit (isDigit c member)
  rw [leadingInteger, all, valueOfDigits_eq isDigit, Nat.ofDigitChars_toDigits (by decide) (by decide)]

/-- An integer, or the end of the range of 64 bits that it is beyond. -/
def stop (n : Int) : Int :=
  max (-2 ^ 63) (min n (2 ^ 63 - 1))

theorem toInt_ofIntClamp_eq_stop (n : Int) : (Int64.ofIntClamp n).toInt = stop n := by
  have largest : Int64.maxValue.toInt = 2 ^ 63 - 1 := Int64.toInt_maxValue
  have least : Int64.minValue.toInt = -2 ^ 63 := Int64.toInt_minValue
  unfold Int64.ofIntClamp stop
  split
  · split
    · rw [Int64.toInt_ofIntLE]
      omega
    · omega
  · omega

theorem toInt_ofIntClamp {n : Nat} (fits : (n : Int) ≤ Int64.maxValue.toInt) :
    (Int64.ofIntClamp n).toInt = n := by
  have largest : Int64.maxValue.toInt = 2 ^ 63 - 1 := Int64.toInt_maxValue
  rw [toInt_ofIntClamp_eq_stop, stop]
  omega

theorem ofIntClamp_of_toInt {value : Int64} {n : Nat} (isNat : value.toInt = n) : Int64.ofIntClamp n = value := by
  refine Int64.toInt_inj.mp ((toInt_ofIntClamp ?_).trans isNat.symm)
  rw [← isNat]
  exact value.toInt_le

/-- The digits of a number are never taken for octal ones: only the number zero begins with a zero. -/
theorem isOctalRun_toDigits (n : Nat) : isOctalRun (Nat.toDigits 10 n) = false := by
  rcases Nat.eq_zero_or_pos n with rfl | positive
  · rfl
  · have run := isRun_toDigits positive
    unfold isOctalRun
    split
    · rename_i zero
      rw [zero] at run
      exact absurd rfl run.nonzero
    · rfl

/-- A number that is read from digits has no sign. -/
theorem toInt_leadingInteger_nonneg (base : Nat) (text : List Char) :
    0 ≤ (leadingInteger base text).toInt := by
  unfold leadingInteger Int64.ofIntClamp
  generalize valueOfDigits base (text.takeWhile (isDigitIn base)) = n
  have natural : (0 : Int) ≤ n := Int.natCast_nonneg n
  split
  · split
    · rw [Int64.toInt_ofIntLE]
      exact natural
    · decide
  · rename_i low
    have least : Int64.minValue.toInt ≤ 0 := by decide
    exact absurd (Int.le_trans least natural) low

/-- The decimal text of an integer. -/
theorem toList_toString {value : Int64} {n : Nat} (isNat : value.toInt = n) :
    (toString value).toList = Nat.toDigits 10 n := by
  show (Int.repr value.toInt).toList = _
  rw [isNat]
  exact String.toList_ofList

theorem toList_toString_neg {value : Int64} {n : Nat} (isNeg : value.toInt = Int.negSucc n) :
    (toString value).toList = '-' :: Nat.toDigits 10 (n + 1) := by
  show (Int.repr value.toInt).toList = _
  rw [isNeg]
  simp [Int.repr]

theorem all_isDigit_toString {value : Int64} (nonneg : 0 ≤ value.toInt) :
    (toString value).toList.all Char.isDigit = true := by
  obtain ⟨n, isNat⟩ := Int.eq_ofNat_of_zero_le nonneg
  rw [toList_toString isNat, List.all_eq_true]
  exact fun _ member => isDigit_of_mem_toDigits member

end ModalEdit.Number

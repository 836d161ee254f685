/-!
Counts of 64 bits: those that are typed stop at the largest one, sums and products of them start again from zero.
Steps are repeated as often as a count says.
-/

set_option autoImplicit false

namespace ModalEdit.Number

/-- The largest count. -/
def maxCount : Nat := 18446744073709551615

/-- The count itself, or the largest count when it is larger. -/
def saturate (n : Nat) : Nat :=
  min n maxCount

theorem saturate_le (n : Nat) : saturate n ≤ maxCount := Nat.min_le_right _ _

theorem saturate_of_le {n : Nat} (h : n ≤ maxCount) : saturate n = n := Nat.min_eq_left h

theorem saturate_saturate (n : Nat) : saturate (saturate n) = saturate n :=
  saturate_of_le (saturate_le n)

/-- The value of a decimal digit. -/
def decimalValue (c : Char) : Nat :=
  c.toNat - '0'.toNat

/-- The value of a run of decimal digits, stopping at the largest count. -/
def countOfDigits (digits : List Char) : Nat :=
  digits.foldl (fun total digit => saturate (total * 10 + decimalValue digit)) 0

/-- The decimal digits that a text starts with, as a count, and the rest of the text. -/
def leadingCount (text : List Char) : Nat × List Char :=
  (countOfDigits (text.takeWhile Char.isDigit), text.dropWhile Char.isDigit)

/-- The sum of two counts, modulo the word size. -/
def wrapAdd (a b : Nat) : Nat :=
  (a + b) % (maxCount + 1)

/-- The product of two counts, modulo the word size. -/
def wrapMul (a b : Nat) : Nat :=
  (a * b) % (maxCount + 1)

theorem wrapAdd_of_le {a b : Nat} (h : a + b ≤ maxCount) : wrapAdd a b = a + b :=
  Nat.mod_eq_of_lt (Nat.lt_succ_of_le h)

theorem wrapMul_of_le {a b : Nat} (h : a * b ≤ maxCount) : wrapMul a b = a * b :=
  Nat.mod_eq_of_lt (Nat.lt_succ_of_le h)

/-- The value after `count` steps. A step that changes nothing ends the run. -/
def repeated {α : Type} [DecidableEq α] (step : α → α) : Nat → α → α
  | 0, value => value
  | count + 1, value => if step value = value then value else repeated step count (step value)

theorem repeated_zero {α : Type} [DecidableEq α] (step : α → α) (value : α) :
    repeated step 0 value = value := rfl

theorem repeated_of_fixed {α : Type} [DecidableEq α] {step : α → α} {value : α}
    (h : step value = value) (count : Nat) : repeated step count value = value := by
  cases count with
  | zero => rfl
  | succ count => simp [repeated, h]

theorem repeated_succ {α : Type} [DecidableEq α] (step : α → α) (count : Nat) (value : α) :
    repeated step (count + 1) value = repeated step count (step value) := by
  by_cases h : step value = value
  · simp [repeated, h, repeated_of_fixed h]
  · simp [repeated, h]

end ModalEdit.Number

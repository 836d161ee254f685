/-!
Floating-point numbers of 64 bits. Arithmetic is exact on the rationals that the bits stand for,
and one rounding, to the nearest with ties to even, brings the result back.
-/

set_option autoImplicit false

namespace ModalEdit.Number

/-- A double-precision number, given by its bits. -/
structure Binary64 where
  bits : UInt64
deriving DecidableEq, Inhabited

namespace Binary64

/-- The bits of infinity, without a sign. -/
def infinityMagnitude : Nat := 0x7FF0000000000000

/-- The bit that makes a number negative. -/
def signBit : Nat := 0x8000000000000000

/-- The number with this sign and these other bits. -/
def ofSignMagnitude (negative : Bool) (magnitude : Nat) : Binary64 :=
  ⟨UInt64.ofNat (if negative then signBit + magnitude else magnitude)⟩

/-- Whether the sign bit is set, for a zero too. -/
def negative (x : Binary64) : Bool :=
  signBit ≤ x.bits.toNat

/-- The bits other than the sign. -/
def magnitude (x : Binary64) : Nat :=
  x.bits.toNat % signBit

def isNaN (x : Binary64) : Bool :=
  infinityMagnitude < x.magnitude

def isInfinite (x : Binary64) : Bool :=
  x.magnitude = infinityMagnitude

def isZero (x : Binary64) : Bool :=
  x.magnitude = 0

def zero : Binary64 := ⟨0⟩

def one : Binary64 := ⟨0x3FF0000000000000⟩

def nan : Binary64 := ⟨0x7FF8000000000000⟩

def infinity (negative : Bool) : Binary64 :=
  ofSignMagnitude negative infinityMagnitude

/-- How far the scale of exact values lies below one: every finite number is a multiple of
`2 ^ -1074`. -/
def scaleBits : Nat := 1074

/-- The number of multiples of `2 ^ -1074` that make up one. -/
def scale : Nat := Nat.pow 2 scaleBits

/-- The number of fractions that belong to one exponent, and the value of the hidden bit. -/
def fractions : Nat := 0x10000000000000

/-- A finite number's size as a multiple of `2 ^ -1074`. -/
def units (x : Binary64) : Nat :=
  let exponent := x.magnitude / fractions
  let fraction := x.magnitude % fractions
  if exponent = 0 then fraction else (fraction + fractions) * Nat.pow 2 (exponent - 1)

/-- The quotient rounded to the nearest integer, a half to the even neighbour. -/
def roundDiv (numerator denominator : Nat) : Nat :=
  let quotient := numerator / denominator
  let double := 2 * (numerator % denominator)
  if double < denominator then quotient
  else if double = denominator then quotient + quotient % 2
  else quotient + 1

/-- The number nearest to a quotient: ties go to the even neighbour, and what is too large
becomes infinity. -/
def ofRatio (negative : Bool) (numerator denominator : Nat) : Binary64 :=
  if numerator = 0 then ofSignMagnitude negative 0
  else
    let scaled := numerator * scale
    let estimate := scaled.log2 - denominator.log2 - 53
    let shift :=
      if scaled / (denominator * Nat.pow 2 estimate) < 2 * fractions then estimate
      else estimate + 1
    let bits := shift * fractions + roundDiv scaled (denominator * Nat.pow 2 shift)
    ofSignMagnitude negative (min bits infinityMagnitude)

def ofInt (n : Int) : Binary64 :=
  ofRatio (n < 0) n.natAbs 1

/-- The number nearest to `digits * 10 ^ exponent`, where `digits` has at most `count` decimal
digits. -/
def ofDecimal (digits : Nat) (count : Nat) (exponent : Int) : Binary64 :=
  if digits = 0 then zero
  else if 400 < exponent then infinity false
  else if exponent + count < -400 then zero
  else if 0 ≤ exponent then ofRatio false (digits * Nat.pow 10 exponent.toNat) 1
  else ofRatio false digits (Nat.pow 10 (-exponent).toNat)

/-- A finite number as a signed multiple of `2 ^ -1074`. -/
def toUnits (x : Binary64) : Int :=
  if x.negative then -(x.units : Int) else x.units

def neg (x : Binary64) : Binary64 :=
  ofSignMagnitude (!x.negative) x.magnitude

def abs (x : Binary64) : Binary64 :=
  ofSignMagnitude false x.magnitude

/-- Sum. Opposite infinities have none. -/
def add (x y : Binary64) : Binary64 :=
  if x.isNaN || y.isNaN then nan
  else if x.isInfinite then
    if y.isInfinite && x.negative != y.negative then nan else x
  else if y.isInfinite then y
  else
    let sum := x.toUnits + y.toUnits
    let negative := if sum = 0 then x.negative && y.negative else sum < 0
    ofRatio negative sum.natAbs scale

def sub (x y : Binary64) : Binary64 :=
  add x y.neg

/-- Product. Zero times infinity has none. -/
def mul (x y : Binary64) : Binary64 :=
  let negative := x.negative != y.negative
  if x.isNaN || y.isNaN then nan
  else if x.isInfinite || y.isInfinite then
    if x.isZero || y.isZero then nan else infinity negative
  else ofRatio negative (x.units * y.units) (scale * scale)

/-- Quotient. A number over zero is infinite, and zero over zero has none. -/
def div (x y : Binary64) : Binary64 :=
  let negative := x.negative != y.negative
  if x.isNaN || y.isNaN then nan
  else if x.isInfinite then
    if y.isInfinite then nan else infinity negative
  else if y.isInfinite then ofSignMagnitude negative 0
  else if y.isZero then
    if x.isZero then nan else infinity negative
  else ofRatio negative x.units y.units

/-- The place of a number in the order of all numbers but NaN; both zeros have the same. -/
def orderKey (x : Binary64) : Int :=
  if x.negative then -(x.magnitude : Int) else x.magnitude

/-- The order of two numbers; NaN is not ordered. -/
def compare? (x y : Binary64) : Option Ordering :=
  if x.isNaN || y.isNaN then none
  else some (compare x.orderKey y.orderKey)

/-- The number without its fraction, cut off toward zero; infinities stop at the given bounds and
NaN gives zero. -/
def truncate (low high : Int) (x : Binary64) : Int :=
  if x.isNaN then 0
  else if x.isInfinite then if x.negative then low else high
  else
    let whole : Nat := x.units / scale
    let signed : Int := if x.negative then -(whole : Int) else whole
    max low (min high signed)

end Binary64

end ModalEdit.Number

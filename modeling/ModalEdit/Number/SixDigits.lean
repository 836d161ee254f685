import ModalEdit.Number.Binary64

/-!
The text of a floating-point number: six significant digits, trailing zeros dropped, and always a
decimal point.
-/

set_option autoImplicit false

namespace ModalEdit.Number

/-- How many significant digits are shown. -/
def significantDigits : Nat := 6

/-- The largest `exponent` with `10 ^ exponent ≤ numerator / denominator`, for a positive quotient,
searched for downwards from `bound`. -/
def decimalExponent (numerator denominator : Nat) : (bound : Nat) → Int
  | 0 => -400
  | bound + 1 =>
    let exponent : Int := (bound : Int) - 400
    let fits :=
      if 0 ≤ exponent then denominator * Nat.pow 10 exponent.toNat ≤ numerator
      else denominator ≤ numerator * Nat.pow 10 (-exponent).toNat
    if fits then exponent else decimalExponent numerator denominator bound

/-- The six significant digits of a positive quotient and the exponent of the first, rounded to
the nearest with ties to even. -/
def roundToSix (numerator denominator : Nat) : Nat × Int :=
  let exponent := decimalExponent numerator denominator 800
  let places := (significantDigits : Int) - 1 - exponent
  let digits :=
    if 0 ≤ places then Binary64.roundDiv (numerator * Nat.pow 10 places.toNat) denominator
    else Binary64.roundDiv numerator (denominator * Nat.pow 10 (-places).toNat)
  if digits = Nat.pow 10 significantDigits then
    (Nat.pow 10 (significantDigits - 1), exponent + 1)
  else (digits, exponent)

/-- Digits with a point after the first `whole` of them: zeros at the end are dropped, and one
digit always follows the point. -/
def pointedDigits (whole : Nat) (digits : List Char) : String :=
  let fraction := (((digits.drop whole).reverse.dropWhile (· == '0')).reverse)
  String.ofList (digits.take whole) ++ "." ++
    (if fraction.isEmpty then "0" else String.ofList fraction)

/-- The shown text of a positive quotient: positional while the exponent is from -4 to 5, with
an exponent otherwise. -/
def showRatio (numerator denominator : Nat) : String :=
  let (digits, exponent) := roundToSix numerator denominator
  let shown := (toString digits).toList
  if exponent < -4 ∨ 6 ≤ exponent then
    pointedDigits 1 shown ++ "e" ++ toString exponent
  else if exponent < 0 then
    pointedDigits 1 (List.replicate (-exponent).toNat '0' ++ shown)
  else pointedDigits (exponent.toNat + 1) shown

/-- The shown text of a floating-point number. -/
def Binary64.format (x : Binary64) : String :=
  if x.isNaN then "nan"
  else
    let sign := if x.negative then "-" else ""
    if x.isInfinite then sign ++ "inf"
    else if x.isZero then sign ++ "0.0"
    else sign ++ showRatio x.units Binary64.scale

end ModalEdit.Number

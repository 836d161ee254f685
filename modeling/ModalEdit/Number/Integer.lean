import ModalEdit.Number.Counting
import ModalEdit.Text.Blank

/-!
Reading integers in the bases that scripts use, and in decimal from a whole text. Integers have 64
bits; what is too large stops at the largest, and so do the sums and products of settings.
-/

set_option autoImplicit false

namespace ModalEdit.Number

/-- The value of a digit in bases up to 36. -/
def digitValue? (base : Nat) (c : Char) : Option Nat :=
  let value :=
    if c.isDigit then c.toNat - '0'.toNat
    else if c.isAlpha then c.toLower.toNat - 'a'.toNat + 10
    else base
  if value < base then some value else none

/-- A digit of the base. -/
def isDigitIn (base : Nat) (c : Char) : Bool :=
  (digitValue? base c).isSome

def isHexDigit (c : Char) : Bool :=
  isDigitIn 16 c

/-- The number that digits of a base denote. -/
def valueOfDigits (base : Nat) (digits : List Char) : Nat :=
  digits.foldl (fun total digit => total * base + (digitValue? base digit).getD 0) 0

/-- The digits of a base that a text starts with, as an integer. -/
def leadingInteger (base : Nat) (text : List Char) : Int64 :=
  Int64.ofIntClamp (valueOfDigits base (text.takeWhile (isDigitIn base)))

/-- The base that a letter after a zero announces. -/
def announcedBase? (letter : Char) : Option Nat :=
  match letter.toLower with
  | 'x' => some 16
  | 'b' => some 2
  | 'o' => some 8
  | _ => none

/-- Decimal digits with a zero in front and no digit above seven are octal. -/
def isOctalRun (digits : List Char) : Bool :=
  match digits with
  | '0' :: _ :: _ => digits.all (isDigitIn 8)
  | _ => false

/-- The base of a number without a sign, and its digits. A given base accepts only its own
announcement. -/
def splitBase (base? : Option Nat) (text : List Char) : Nat × List Char :=
  let announced? := match text with
    | '0' :: letter :: rest => (announcedBase? letter).map (·, rest)
    | _ => none
  match announced?, base? with
  | some (base, digits), none => (base, digits)
  | some (base, digits), some wanted => if base = wanted then (base, digits) else (wanted, text)
  | none, some wanted => (wanted, text)
  | none, none => (if isOctalRun (text.takeWhile Char.isDigit) then 8 else 10, text)

/-- Reads an integer from the start of a text, blanks and a sign in front allowed. A text without
digits reads as zero. -/
def readInteger (base? : Option Nat) (text : List Char) : Int64 :=
  let (negative, body) := match Text.trimStart text with
    | '-' :: rest => (true, rest)
    | '+' :: rest => (false, rest)
    | rest => (false, rest)
  let (base, digits) := splitBase base? body
  let value := leadingInteger base digits
  if negative then -value else value

/-- The integer that a text stands for where a number is wanted. -/
def ofText (text : String) : Int64 :=
  readInteger none text.toList

/-- Reads a whole text as an integer: digits with at most one sign in front, and a value that 64
bits can hold. -/
def parseInteger? (text : List Char) : Option Int64 :=
  let (negative, digits) := match text with
    | '-' :: rest => (true, rest)
    | '+' :: rest => (false, rest)
    | rest => (false, rest)
  if digits.isEmpty || !digits.all Char.isDigit then none
  else
    let magnitude : Int := valueOfDigits 10 digits
    let value := if negative then -magnitude else magnitude
    if Int64.minValue.toInt ≤ value ∧ value ≤ Int64.maxValue.toInt then some (Int64.ofInt value)
    else none

/-- The sum, stopping at the ends of the range. -/
def addClamped (a b : Int64) : Int64 :=
  Int64.ofIntClamp (a.toInt + b.toInt)

/-- The difference, stopping at the ends of the range. -/
def subClamped (a b : Int64) : Int64 :=
  Int64.ofIntClamp (a.toInt - b.toInt)

/-- The product, stopping at the ends of the range. -/
def mulClamped (a b : Int64) : Int64 :=
  Int64.ofIntClamp (a.toInt * b.toInt)

end ModalEdit.Number

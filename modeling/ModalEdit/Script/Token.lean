import ModalEdit.Key.Spelling
import ModalEdit.Number.Binary64
import ModalEdit.Number.Integer
import ModalEdit.Script.Error
import ModalEdit.Options.Scope

/-!
The tokens of expressions, and reading one token from the start of a text.
-/

set_option autoImplicit false

namespace ModalEdit.Script

/-- Comparison operators, apart from how they treat case. -/
inductive Comparison where
  | equal
  | notEqual
  | greater
  | greaterEqual
  | less
  | lessEqual
  | matches
  | noMatch
  | is
  | isNot
deriving DecidableEq, Inhabited

/-- The text of a comparison operator. -/
def Comparison.text : Comparison → String
  | equal => "=="
  | notEqual => "!="
  | greater => ">"
  | greaterEqual => ">="
  | less => "<"
  | lessEqual => "<="
  | .matches => "=~"
  | noMatch => "!~"
  | .is => "is"
  | isNot => "isnot"

/-- How a comparison treats case: as the option says, as written, or not at all. -/
inductive CaseMode where
  | default
  | «match»
  | ignore
deriving DecidableEq, Inhabited

/-- The sign behind a comparison operator. -/
def CaseMode.suffix : CaseMode → String
  | default => ""
  | .match => "#"
  | ignore => "?"

/-- Brackets, separators and the operators that are not comparisons. -/
inductive Mark where
  | openParen
  | closeParen
  | openBracket
  | closeBracket
  | openBrace
  | openLiteralBrace
  | closeBrace
  | comma
  | colon
  | question
  | plus
  | minus
  | star
  | slash
  | percent
  | dot
  | dotDot
  | bang
  | andAnd
  | orOr
deriving DecidableEq, Inhabited

/-- The text of a mark. -/
def Mark.text : Mark → String
  | openParen => "("
  | closeParen => ")"
  | openBracket => "["
  | closeBracket => "]"
  | openBrace => "\x7b"
  | openLiteralBrace => "#\x7b"
  | closeBrace => "\x7d"
  | comma => ","
  | colon => ":"
  | question => "?"
  | plus => "+"
  | minus => "-"
  | star => "*"
  | slash => "/"
  | percent => "%"
  | dot => "."
  | dotDot => ".."
  | bang => "!"
  | andAnd => "&&"
  | orOr => "||"

/-- What a token is. -/
inductive TokenKind where
  | number (value : Int64)
  | float (value : Number.Binary64)
  | str (text : String)
  | blob (bytes : List UInt8)
  /-- A variable or function name, its scope letter included. -/
  | ident (name : String)
  | option (name : String) (scope : Scope)
  | register (name : Char)
  | env (name : String)
  | mark (sign : Mark)
  | compare (operator : Comparison) (case : CaseMode)
deriving DecidableEq, Inhabited

/-- A token, the number of characters before it, and whether a blank comes right before it. -/
structure Token where
  kind : TokenKind
  start : Nat
  spaced : Bool
deriving DecidableEq, Inhabited

/-- A letter, a digit or an underscore, all of ASCII. -/
def isNameChar (c : Char) : Bool :=
  c.isAlphanum || c == '_'

/-- Reads the rest of a blob: pairs of hexadecimal digits, with single points between pairs. -/
def readBlob (started : Bool) : List Char → Except ScriptError (List UInt8 × List Char)
  | high :: low :: rest =>
    if Number.isHexDigit high then
      if Number.isHexDigit low then do
        let (bytes, after) ← readBlob true rest
        return (UInt8.ofNat (Number.valueOfDigits 16 [high, low]) :: bytes, after)
      else .error .oddBlobLiteral
    else if high = '.' && Number.isHexDigit low && started then readBlob started (low :: rest)
    else .ok ([], high :: low :: rest)
  | [last] => if Number.isHexDigit last then .error .oddBlobLiteral else .ok ([], [last])
  | [] => .ok ([], [])

/-- Reads a text in single quotes after its opening quote; a doubled quote is one quote. -/
def readSingleQuoted? : List Char → Option (List Char × List Char)
  | '\'' :: '\'' :: rest => (readSingleQuoted? rest).map fun (text, after) => ('\'' :: text, after)
  | '\'' :: rest => some ([], rest)
  | c :: rest => (readSingleQuoted? rest).map fun (text, after) => (c :: text, after)
  | [] => none

/-- The text that a key stands for inside a double-quoted text. -/
def keyText? (key : Key) : Option Char :=
  if key.modifiers = .none then
    match key.code with
    | .char c => some c
    | .escape => some '\x1b'
    | .enter => some '\r'
    | .tab => some '\t'
    | .backspace => some '\x08'
    | .delete => some '\x7f'
    | _ => none
  else
    match key.code with
    | .char c =>
      if key.isCtrl c && c.isAlpha then Text.charOfCode? (c.toUpper.toNat - 64) else none
    | _ => none

/-- Reads up to `count` hexadecimal digits as one character. Without digits the letter stands for
itself, and a number that is no character stands for nothing. -/
def readCodePoint (count : Nat) (letter : Char) (text : List Char) : List Char × List Char :=
  let digits := (text.take count).takeWhile Number.isHexDigit
  if digits.isEmpty then ([letter], text)
  else ((Text.charOfCode? (Number.valueOfDigits 16 digits)).toList, text.drop digits.length)

/-- Reads an escape of a double-quoted text after its backslash: what it stands for and the rest. -/
def readEscape : List Char → List Char × List Char
  | [] => (['\\'], [])
  | 'n' :: rest => (['\n'], rest)
  | 't' :: rest => (['\t'], rest)
  | 'r' :: rest => (['\r'], rest)
  | 'e' :: rest => (['\x1b'], rest)
  | 'b' :: rest => (['\x08'], rest)
  | 'f' :: rest => (['\x0c'], rest)
  | 'x' :: rest => readCodePoint 2 'x' rest
  | 'X' :: rest => readCodePoint 2 'x' rest
  | 'u' :: rest => readCodePoint 4 'u' rest
  | 'U' :: rest => readCodePoint 8 'U' rest
  | '<' :: rest =>
    match Key.readBracketed? rest with
    | some (key, after) =>
      match keyText? key with
      | some c => ([c], after)
      | none => (['<'], rest)
    | none => (['<'], rest)
  | c :: rest =>
    if Number.isDigitIn 8 c then
      let digits := c :: (rest.take 2).takeWhile (Number.isDigitIn 8)
      ((Text.charOfCode? (Number.valueOfDigits 8 digits)).toList, rest.drop (digits.length - 1))
    else ([c], rest)

theorem length_readCodePoint (count : Nat) (letter : Char) (text : List Char) :
    (readCodePoint count letter text).2.length ≤ text.length := by
  simp only [readCodePoint]
  split <;> simp

theorem length_readEscape (text : List Char) : (readEscape text).2.length ≤ text.length := by
  unfold readEscape
  split <;> try (simp; done)
  · exact Nat.le_succ_of_le (length_readCodePoint _ _ _)
  · exact Nat.le_succ_of_le (length_readCodePoint _ _ _)
  · exact Nat.le_succ_of_le (length_readCodePoint _ _ _)
  · exact Nat.le_succ_of_le (length_readCodePoint _ _ _)
  · split
    · rename_i heq
      have := Key.length_readBracketed? heq
      split
      · simp; omega
      · simp
    · simp
  · split
    · simp; omega
    · simp

/-- Reads a text in double quotes after its opening quote. -/
def readDoubleQuoted? : List Char → Option (List Char × List Char)
  | '"' :: rest => some ([], rest)
  | '\\' :: rest =>
    (readDoubleQuoted? (readEscape rest).2).map fun (text, after) =>
      ((readEscape rest).1 ++ text, after)
  | c :: rest => (readDoubleQuoted? rest).map fun (text, after) => (c :: text, after)
  | [] => none
termination_by text => text.length
decreasing_by
  · exact Nat.lt_succ_of_le (length_readEscape rest)
  · simp

/-- The letters that name a scope of variables. -/
def isScopeLetter (c : Char) : Bool :=
  c ∈ ['g', 'b', 'w', 't', 's', 'l', 'a', 'v']

/-- The case suffix of a comparison, and the rest. -/
def readCaseMode : List Char → CaseMode × List Char
  | '#' :: rest => (.match, rest)
  | '?' :: rest => (.ignore, rest)
  | rest => (.default, rest)

/-- A comparison whose operator has been read. -/
def comparisonToken (operator : Comparison) (rest : List Char) : TokenKind × List Char :=
  (.compare operator (readCaseMode rest).1, (readCaseMode rest).2)

/-- Reads a name: a variable with its scope letter, a word, or a comparison spelled as a word. -/
def readName (text : List Char) : TokenKind × List Char :=
  let first := text.takeWhile isNameChar
  let rest := text.dropWhile isNameChar
  let plain :=
    if first = ['i', 's'] then comparisonToken .is rest
    else if first = ['i', 's', 'n', 'o', 't'] then comparisonToken .isNot rest
    else (.ident (String.ofList first), rest)
  match first, rest with
  | [letter], ':' :: next :: tail =>
    if isScopeLetter letter && isNameChar next then
      let name := (next :: tail).takeWhile fun c => isNameChar c || c == '#'
      let after := (next :: tail).dropWhile fun c => isNameChar c || c == '#'
      (.ident (String.ofList (letter :: ':' :: name)), after)
    else plain
  | _, _ => plain

/-- Reads the digits of a base after its announcement. -/
def readBasedNumber (base : Nat) (text : List Char) : TokenKind × List Char :=
  (.number (Number.leadingInteger base text), text.dropWhile (Number.isDigitIn base))

/-- The sign of an exponent and what follows, if the text starts like an exponent. -/
def exponentSign? : List Char → Option (Bool × List Char)
  | 'e' :: '-' :: body | 'E' :: '-' :: body => some (true, body)
  | 'e' :: '+' :: body | 'E' :: '+' :: body => some (false, body)
  | 'e' :: body | 'E' :: body => some (false, body)
  | _ => none

/-- An exponent, if digits follow its letter and sign: its value and the rest. -/
def readExponent (text : List Char) : Int × List Char :=
  match exponentSign? text with
  | some (negative, body) =>
    let digits := body.takeWhile Char.isDigit
    let value : Int := Number.valueOfDigits 10 digits
    if digits.isEmpty then (0, text)
    else (if negative then -value else value, body.dropWhile Char.isDigit)
  | none => (0, text)

/-- Reads a number in base ten, a leading zero meaning base eight, or a floating-point number. -/
def readDecimal (text : List Char) : TokenKind × List Char :=
  let whole := text.takeWhile Char.isDigit
  let rest := text.dropWhile Char.isDigit
  let integer :=
    (.number (Number.leadingInteger (if Number.isOctalRun whole then 8 else 10) whole), rest)
  match rest with
  | '.' :: next :: tail =>
    if next.isDigit then
      let fraction := (next :: tail).takeWhile Char.isDigit
      let (exponent, after) := readExponent ((next :: tail).dropWhile Char.isDigit)
      let digits := whole ++ fraction
      (.float (.ofDecimal (Number.valueOfDigits 10 digits) digits.length
        (exponent - fraction.length)), after)
    else integer
  | _ => integer

/-- Reads a number or a blob. An announced base needs a digit of that base. -/
def readNumber (text : List Char) : Except ScriptError (TokenKind × List Char) :=
  match text with
  | '0' :: letter :: rest =>
    if letter = 'z' || letter = 'Z' then
      (readBlob false rest).map fun (bytes, after) => (.blob bytes, after)
    else
      match Number.announcedBase? letter, rest with
      | some base, digit :: _ =>
        if Number.isDigitIn base digit then .ok (readBasedNumber base rest)
        else .ok (readDecimal text)
      | _, _ => .ok (readDecimal text)
  | _ => .ok (readDecimal text)

/-- Reads an option after its ampersand. -/
def readOption? (text : List Char) : Option (TokenKind × List Char) :=
  let (scope, body) := Scope.splitName text
  let name := body.takeWhile Char.isAlphanum
  if name.isEmpty then none
  else some (.option (String.ofList name) scope, body.dropWhile Char.isAlphanum)

/-- Reads an environment variable after its dollar sign. -/
def readEnv? (text : List Char) : Option (TokenKind × List Char) :=
  let name := text.takeWhile isNameChar
  if name.isEmpty then none else some (.env (String.ofList name), text.dropWhile isNameChar)

/-- Reads a mark. -/
def readMark? : List Char → Option (Mark × List Char)
  | '(' :: rest => some (.openParen, rest)
  | ')' :: rest => some (.closeParen, rest)
  | '[' :: rest => some (.openBracket, rest)
  | ']' :: rest => some (.closeBracket, rest)
  | '{' :: rest => some (.openBrace, rest)
  | '}' :: rest => some (.closeBrace, rest)
  | '#' :: '{' :: rest => some (.openLiteralBrace, rest)
  | ',' :: rest => some (.comma, rest)
  | ':' :: rest => some (.colon, rest)
  | '?' :: rest => some (.question, rest)
  | '+' :: rest => some (.plus, rest)
  | '-' :: rest => some (.minus, rest)
  | '*' :: rest => some (.star, rest)
  | '/' :: rest => some (.slash, rest)
  | '%' :: rest => some (.percent, rest)
  | '.' :: '.' :: rest => some (.dotDot, rest)
  | '.' :: rest => some (.dot, rest)
  | '&' :: '&' :: rest => some (.andAnd, rest)
  | '|' :: '|' :: rest => some (.orOr, rest)
  | '!' :: rest => some (.bang, rest)
  | _ => none

/-- Reads a comparison spelled with signs. -/
def readComparison? : List Char → Option (TokenKind × List Char)
  | '=' :: '=' :: rest => some (comparisonToken .equal rest)
  | '=' :: '~' :: rest => some (comparisonToken .matches rest)
  | '!' :: '=' :: rest => some (comparisonToken .notEqual rest)
  | '!' :: '~' :: rest => some (comparisonToken .noMatch rest)
  | '>' :: '=' :: rest => some (comparisonToken .greaterEqual rest)
  | '>' :: rest => some (comparisonToken .greater rest)
  | '<' :: '=' :: rest => some (comparisonToken .lessEqual rest)
  | '<' :: rest => some (comparisonToken .less rest)
  | _ => none

/-- The error for a text that starts no token. -/
def invalidAt (text : List Char) : ScriptError :=
  .invalidExpression (String.ofList text)

/-- Reads the token that a text starts with. -/
def TokenKind.read (text : List Char) : Except ScriptError (TokenKind × List Char) :=
  match text with
  | [] => .error (invalidAt text)
  | c :: rest =>
    if c.isDigit then readNumber text
    else if c.isAlpha || c = '_' then .ok (readName text)
    else if c = '\'' then
      match readSingleQuoted? rest with
      | some (quoted, after) => .ok (.str (String.ofList quoted), after)
      | none => .error (.missingSingleQuote (String.ofList text))
    else if c = '"' then
      match readDoubleQuoted? rest with
      | some (quoted, after) => .ok (.str (String.ofList quoted), after)
      | none => .error (.missingDoubleQuote (String.ofList text))
    else if c = '@' then .ok (.register (rest.head?.getD '"'), rest.tail)
    else if c = '$' then
      match readEnv? rest with
      | some read => .ok read
      | none => .error (invalidAt text)
    else
      match readComparison? text with
      | some read => .ok read
      | none =>
        match readMark? text with
        | some (read, after) => .ok (.mark read, after)
        | none =>
          if c = '&' then
            match readOption? rest with
            | some read => .ok read
            | none => .error (invalidAt text)
          else .error (invalidAt text)

end ModalEdit.Script

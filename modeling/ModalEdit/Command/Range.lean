import ModalEdit.Number.Counting
import ModalEdit.Number.Integer
import ModalEdit.Script.Error
import ModalEdit.Text.Blank

/-!
Line ranges in front of commands: reading them, and the lines that they stand for.
-/

set_option autoImplicit false

namespace ModalEdit.Command

/-- What an address counts from. -/
inductive Base where
  | current
  | last
  /-- A line number, counted from one. -/
  | number (line : Nat)
  | mark (name : Char)
deriving DecidableEq, Inhabited

/-- A line address: a base and the sum of the offsets behind it. -/
structure Address where
  base : Base
  offset : Int64
deriving DecidableEq, Inhabited

/-- A range of lines. -/
inductive Range where
  | whole
  /-- One address or two. With `semicolon` the second counts from the line of the first. -/
  | lines (start : Address) (end? : Option Address) (semicolon : Bool)
deriving DecidableEq, Inhabited

namespace Address

/-- The current line. -/
def current : Address := ⟨.current, 0⟩

/-- The line that an address counts from, counted from zero. -/
def baseLine (address : Address) (current last : Nat) (mark : Char → Option Nat) :
    Except ScriptError Nat :=
  match address.base with
  | .current => .ok current
  | .last => .ok last
  | .number line => .ok (line - 1)
  | .mark name =>
    match mark name with
    | some line => .ok line
    | none => .error .markNotSet

/-- The line of an address, counted from zero, which has to be one of the lines up to the last. -/
def line (address : Address) (current last : Nat) (mark : Char → Option Nat) :
    Except ScriptError Nat := do
  let base ← address.baseLine current last mark
  if Int64.maxValue.toInt < base then throw .invalidRange
  let line := (Number.addClamped (Int64.ofNat base) address.offset).toInt
  if 0 ≤ line ∧ line ≤ last then return line.toNat else throw .invalidRange

/-- Reads what an address counts from. -/
def readBase (text : List Char) : Except ScriptError (Option Base × List Char) :=
  match text with
  | '.' :: rest => .ok (some .current, rest)
  | '$' :: rest => .ok (some .last, rest)
  | '\'' :: name :: rest => .ok (some (.mark name), rest)
  | ['\''] => .error .invalidRange
  | c :: rest =>
    if c.isDigit then
      let (line, after) := Number.leadingCount (c :: rest)
      .ok (some (.number line), after)
    else .ok (none, c :: rest)
  | [] => .ok (none, [])

theorem length_leadingCount (text : List Char) :
    (Number.leadingCount text).2.length ≤ text.length :=
  (List.dropWhile_suffix _).length_le

theorem length_readBase {text rest : List Char} {base? : Option Base}
    (h : readBase text = .ok (base?, rest)) : rest.length ≤ text.length := by
  unfold readBase at h
  split at h
  case h_5 c tail _ _ _ =>
    split at h
    · simp only [Except.ok.injEq, Prod.mk.injEq] at h
      rw [← h.2]
      exact length_leadingCount _
    · simp only [Except.ok.injEq, Prod.mk.injEq] at h
      exact Nat.le_of_eq (congrArg List.length h.2.symm)
  all_goals first
    | (simp only [Except.ok.injEq, Prod.mk.injEq] at h
       rw [← h.2]
       simp only [List.length_cons]
       omega)
    | (simp only [Except.ok.injEq, Prod.mk.injEq] at h
       exact Nat.le_of_eq (congrArg List.length h.2.symm))
    | simp at h

/-- A number behind a sign, which is one if it is left out. -/
def readOffsetSize (text : List Char) : Int64 × List Char :=
  if text.head?.any Char.isDigit then
    (Int64.ofIntClamp (Number.leadingCount text).1, (Number.leadingCount text).2)
  else (1, text)

theorem length_readOffsetSize (text : List Char) :
    (readOffsetSize text).2.length ≤ text.length := by
  unfold readOffsetSize
  split
  · exact length_leadingCount text
  · exact Nat.le_refl _

/-- Reads the offsets behind a base. Without any, there is none. -/
def readOffsets (total? : Option Int64) (text : List Char) : Option Int64 × List Char :=
  match text with
  | [] => (total?, [])
  | sign :: rest =>
    let total := total?.getD 0
    if sign = '+' then
      readOffsets (some (Number.addClamped total (readOffsetSize rest).1)) (readOffsetSize rest).2
    else if sign = '-' then
      readOffsets (some (Number.subClamped total (readOffsetSize rest).1)) (readOffsetSize rest).2
    else (total?, sign :: rest)
termination_by text.length
decreasing_by
  all_goals exact Nat.lt_succ_of_le (length_readOffsetSize rest)

theorem length_readOffsets (total? : Option Int64) (text : List Char) :
    (readOffsets total? text).2.length ≤ text.length := by
  fun_induction readOffsets total? text with
  | case1 => exact Nat.le_refl _
  | case2 _ rest _ ih => exact Nat.le_succ_of_le (Nat.le_trans ih (length_readOffsetSize rest))
  | case3 _ rest _ _ ih => exact Nat.le_succ_of_le (Nat.le_trans ih (length_readOffsetSize rest))
  | case4 => exact Nat.le_refl _

/-- Reads an address, if the text starts with one. -/
def read (text : List Char) : Except ScriptError (Option Address × List Char) :=
  match readBase (Text.trimStart text) with
  | .error error => .error error
  | .ok (base?, rest) =>
    let (offset?, after) := readOffsets none rest
    match base?, offset? with
    | none, none => .ok (none, after)
    | base?, offset? => .ok (some ⟨base?.getD .current, offset?.getD 0⟩, after)

theorem length_read {text rest : List Char} {address? : Option Address}
    (h : read text = .ok (address?, rest)) : rest.length ≤ text.length := by
  have htrim : (Text.trimStart text).length ≤ text.length := (List.dropWhile_suffix _).length_le
  unfold read at h
  split at h
  · simp at h
  · rename_i base? afterBase hbase
    have hbase := length_readBase hbase
    have hoffsets := length_readOffsets none afterBase
    simp only at h
    split at h <;>
      (simp only [Except.ok.injEq, Prod.mk.injEq] at h
       rw [← h.2]
       omega)

end Address

namespace Range

/-- The lines of a range, first and last, counted from zero. Two addresses may come in either
order. -/
def resolve (range : Range) (current last : Nat) (mark : Char → Option Nat) :
    Except ScriptError (Nat × Nat) :=
  match range with
  | whole => .ok (0, last)
  | lines start end? semicolon => do
    let first ← start.line current last mark
    match end? with
    | none => return (first, first)
    | some stop =>
      let second ← stop.line (if semicolon then first else current) last mark
      return (min first second, max first second)

/-- Reads the addresses behind the first, each with a separator before it. Of more than two the
last two count, and one that is left out is the current line. -/
def readMore (start? end? : Option Address) (semicolon : Bool) (text : List Char) :
    Except ScriptError (Option Range × List Char) :=
  match text with
  | [] => .ok (start?.map (.lines · end? semicolon), [])
  | separator :: rest =>
    if separator = ',' ∨ separator = ';' then
      match _h : Address.read rest with
      | .error error => .error error
      | .ok (next?, after) =>
        let start := (end? <|> start?).getD Address.current
        readMore (some start) (some (next?.getD Address.current)) (separator = ';') after
    else .ok (start?.map (.lines · end? semicolon), separator :: rest)
termination_by text.length
decreasing_by exact Nat.lt_succ_of_le (Address.length_read _h)

/-- Reads the range that a text starts with, if any. -/
def read (text : List Char) : Except ScriptError (Option Range × List Char) :=
  match text with
  | '%' :: rest => .ok (some .whole, rest)
  | text => do
    let (first?, rest) ← Address.read text
    readMore first? none false rest

end Range

end ModalEdit.Command

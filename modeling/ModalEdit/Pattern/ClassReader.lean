import ModalEdit.Pattern.Flags

/-!
Classes of characters in brackets: single characters, ranges, named classes, classes within
classes, and the intersection, difference and symmetric difference of classes.
-/

set_option autoImplicit false

namespace ModalEdit.Pattern

/-- An operator between two classes. -/
inductive ClassOperator where
  | inter
  | diff
  | symmDiff
deriving DecidableEq, Inhabited

/-- What an operator makes of two classes. -/
def ClassOperator.apply (flags : Flags) (a b : CharSet) : ClassOperator → CharSet
  | inter => (flags.fold a).inter (flags.fold b)
  | diff => (flags.fold a).diff (flags.fold b)
  | symmDiff => (flags.fold a).symmDiff (flags.fold b)

/-- Takes an operator, which is a doubled sign. -/
def takeClassOperator? (symbols : List Symbol) : Option (ClassOperator × Fewer symbols) :=
  match symbols with
  | first :: second :: rest =>
    if first = second then
      let shorter : Fewer (first :: second :: rest) :=
        ⟨rest, by simp only [List.length_cons]; omega⟩
      if first = .bare '&' then some (.inter, shorter)
      else if first = .bare '-' then some (.diff, shorter)
      else if first = .bare '~' then some (.symmDiff, shorter)
      else none
    else none
  | _ => none

/-- The name up to a colon, and what follows the colon. -/
def takeClassName? (symbols : List Symbol) : Option (List Char × Fewer symbols) :=
  match symbols with
  | [] => none
  | .bare c :: rest =>
    if c = ':' then some ([], ⟨rest, Nat.lt_succ_self _⟩)
    else
      match takeClassName? rest with
      | none => none
      | some (name, ⟨after, h⟩) => some (c :: name, ⟨after, Nat.lt_succ_of_lt h⟩)
  | _ => none

/-- Takes a named class behind an opening bracket: `:name:]` or `:^name:]`. -/
def takeNamedClass? (flags : Flags) (symbols : List Symbol) :
    Option (Option CharSet × Fewer symbols) :=
  match takeBare? ':' symbols with
  | none => none
  | some ⟨afterColon, hcolon⟩ =>
    let (negated, ⟨nameSymbols, hname⟩) : Bool × NoMore afterColon :=
      match takeBare? '^' afterColon with
      | some rest => (true, rest.noMore)
      | none => (false, .all afterColon)
    match takeClassName? nameSymbols with
    | none => none
    | some (name, ⟨afterName, hafterName⟩) =>
      match CharSet.named? (String.ofList name), takeBare? ']' afterName with
      | some set, some ⟨rest, h⟩ =>
        some (flags.complement negated (flags.fold set), ⟨rest, by omega⟩)
      | _, _ => none

/-- A character that stands for itself within a class. -/
def classLiteral? : Symbol → Option Char
  | .bare c => some c
  | .quoted c => some c
  | _ => none

/-- What stands at the start of a class: its negation, and the dashes or the closing bracket that
stand for themselves there. -/
def readClassStart (flags : Flags) (symbols : List Symbol) :
    (Bool × List Char) × NoMore symbols :=
  let ⟨opened, hopened⟩ := skipBlanks flags symbols
  let (negated, ⟨body, hbody⟩) : Bool × NoMore opened :=
    match takeBare? '^' opened with
    | some ⟨rest, h⟩ =>
      let ⟨after, hafter⟩ := skipBlanks flags rest
      (true, ⟨after, by omega⟩)
    | none => (false, ⟨opened, Nat.le_refl _⟩)
  let (dashes, ⟨afterDashes, hdashes⟩) := takeDashes body
  if dashes.isEmpty then
    match takeBare? ']' afterDashes with
    | some ⟨rest, h⟩ =>
      let ⟨after, hafter⟩ := skipBlanks flags rest
      ((negated, [']']), ⟨after, by omega⟩)
    | none => ((negated, []), ⟨afterDashes, by omega⟩)
  else ((negated, dashes), ⟨afterDashes, by omega⟩)
where
  /-- The dashes that a class starts with. -/
  takeDashes (symbols : List Symbol) : List Char × NoMore symbols :=
    match takeBare? '-' symbols with
    | some ⟨rest, h⟩ =>
      let ⟨after, hafter⟩ := skipBlanks flags rest
      let (dashes, ⟨last, hlast⟩) := takeDashes after
      ('-' :: dashes, ⟨last, by omega⟩)
    | none => ([], ⟨symbols, Nat.le_refl _⟩)
  termination_by symbols.length

/-- A class, and how deeply classes nest in it. -/
structure NestedSet where
  set : CharSet
  depth : Nat
deriving DecidableEq, Inhabited

/-- The items of a class between two operators. Several of them are a class within the class. -/
def NestedSet.ofItems (items : List NestedSet) : NestedSet :=
  let depth := (items.map NestedSet.depth).foldl max 0
  ⟨.unions (items.map NestedSet.set), if items.length < 2 then depth else depth + 1⟩

/-- What stands before an operator, and the operator. -/
structure LeftOperand where
  operator : ClassOperator
  left : NestedSet
deriving DecidableEq, Inhabited

/-- The items behind an operator together with what stands before it. -/
def NestedSet.joined (flags : Flags) (pending? : Option LeftOperand) (items : List NestedSet) :
    NestedSet :=
  let right := ofItems items
  match pending? with
  | none => right
  | some ⟨operator, left⟩ =>
    ⟨operator.apply flags left.set right.set, max left.depth right.depth + 1⟩

/-- Characters as items of a class. -/
def itemsOfChars (chars : List Char) : List NestedSet :=
  chars.map fun c => ⟨.single c, 0⟩

/-- Without Unicode a class may only hold ASCII. -/
def allowed (flags : Flags) (c : Char) : Bool :=
  flags.unicode || c.val < 128

/-- Reads a single character or a range, whose first symbol is given. -/
def readClassItem (flags : Flags) (first : Symbol) (symbols : List Symbol) :
    Option (CharSet × NoMore symbols) :=
  match flags.shorthand? first with
  | some set? =>
    let ⟨rest, h⟩ := skipBlanks flags symbols
    match set?, takeBare? '-' rest with
    | none, _ => none
    | some set, none => some (set, ⟨rest, h⟩)
    | some set, some ⟨afterDash, _⟩ =>
      -- A shorthand cannot start a range; a dash behind it ends the class or starts an operator.
      if endsRange afterDash then some (set, ⟨rest, h⟩) else none
  | none =>
    match classLiteral? first with
    | none => none
    | some c =>
      if !allowed flags c then none
      else
        let ⟨rest, h⟩ := skipBlanks flags symbols
        match takeBare? '-' rest with
        | none => some (.single c, ⟨rest, h⟩)
        | some ⟨afterDash, hdash⟩ =>
          if endsRange afterDash then some (.single c, ⟨rest, h⟩)
          else
            let ⟨lastSymbols, hlast⟩ := skipBlanks flags afterDash
            match lastSymbols, hlast with
            | [], _ => none
            | last :: after, hlast =>
              match classLiteral? last with
              | none => none
              | some stop =>
                if allowed flags stop && c.val ≤ stop.val then
                  some (.range c stop, ⟨after, by simp only [List.length_cons] at hlast; omega⟩)
                else none
where
  /-- Whether a dash before these symbols starts no range. The mark of a comment counts as a blank
  here, and the comment as part of the class. -/
  endsRange (symbols : List Symbol) : Bool :=
    let isBlank : Symbol → Bool
      | .bare c => flags.verbose && Text.isBlank c
      | _ => false
    let rest :=
      match symbols.dropWhile isBlank with
      | .bare '#' :: comment => if flags.verbose then comment.dropWhile isBlank else symbols
      | rest => rest
    rest.head? == some (.bare ']') || rest.head? == some (.bare '-')

/-- Reads the rest of a class. `pending?` is what stands before the last operator, and `items` what
has been read since. -/
def readClassBody (flags : Flags) (negated : Bool) (pending? : Option LeftOperand)
    (items : List NestedSet) (symbols : List Symbol) : Option (NestedSet × NoMore symbols) :=
  match skipBlanks flags symbols with
  | ⟨[], _⟩ => none
  | ⟨symbol :: rest, hskip⟩ =>
    if symbol = .bare ']' then
      let whole := NestedSet.joined flags pending? items
      match flags.complement negated (flags.fold whole.set) with
      | none => none
      | some closed =>
        some (⟨closed, whole.depth + 1⟩, ⟨rest, by simp only [List.length_cons] at hskip; omega⟩)
    else if symbol = .bare '[' then
      match takeNamedClass? flags rest with
      | some (none, _) => none
      | some (some named, ⟨after, h⟩) =>
        match readClassBody flags negated pending? (⟨named, 0⟩ :: items) after with
        | none => none
        | some (result, ⟨last, hlast⟩) =>
          some (result, ⟨last, by simp only [List.length_cons] at hskip; omega⟩)
      | none =>
        let ((innerNegated, chars), ⟨inner, hinner⟩) := readClassStart flags rest
        match readClassBody flags innerNegated none (itemsOfChars chars) inner with
        | none => none
        | some (nested, ⟨after, hafter⟩) =>
          match readClassBody flags negated pending? (nested :: items) after with
          | none => none
          | some (result, ⟨last, hlast⟩) =>
            some (result, ⟨last, by simp only [List.length_cons] at hskip; omega⟩)
    else
      match takeClassOperator? (symbol :: rest) with
      | some (operator, ⟨after, h⟩) =>
        let left := NestedSet.joined flags pending? items
        match readClassBody flags negated (some ⟨operator, left⟩) [] after with
        | none => none
        | some (result, ⟨last, hlast⟩) => some (result, ⟨last, by omega⟩)
      | none =>
        match readClassItem flags symbol rest with
        | none => none
        | some (item, ⟨after, h⟩) =>
          match readClassBody flags negated pending? (⟨item, 0⟩ :: items) after with
          | none => none
          | some (result, ⟨last, hlast⟩) =>
            some (result, ⟨last, by simp only [List.length_cons] at hskip; omega⟩)
termination_by symbols.length
decreasing_by all_goals (simp only [List.length_cons] at *; omega)

/-- Reads a class behind its opening bracket. -/
def readClass (flags : Flags) (symbols : List Symbol) : Option (NestedSet × NoMore symbols) :=
  let ((negated, chars), ⟨body, hbody⟩) := readClassStart flags symbols
  match readClassBody flags negated none (itemsOfChars chars) body with
  | none => none
  | some (set, ⟨rest, h⟩) => some (set, ⟨rest, Nat.le_trans h hbody⟩)

end ModalEdit.Pattern

import ModalEdit.Pattern.ClassReader
import ModalEdit.Pattern.Cost
import ModalEdit.Pattern.Search
import ModalEdit.Number.Integer
import ModalEdit.Text.Alphanumeric

/-!
Regular expressions read from the symbols of a pattern: alternatives, groups, switches,
repetitions, classes, and the conditions and characters between them.
-/

set_option autoImplicit false

namespace ModalEdit.Pattern

/-- What opens: a group, or switches for the rest of the group that they stand in. -/
inductive Opening where
  | group (flags : Flags) (counted : Bool) (name? : Option (List Char))
  | switches (flags : Flags)
deriving DecidableEq, Inhabited

/-- Whether a character may stand in the name of a group. -/
def isGroupNameChar (first : Bool) (c : Char) : Bool :=
  c = '_' || Text.isAlphabetic c
    || (!first && (c ∈ ['.', '[', ']'] || Text.isAlphanumeric c))

/-- Takes the name of a group and the bracket behind it. -/
def takeGroupName? (first : Bool) (symbols : List Symbol) : Option (List Char × Fewer symbols) :=
  match symbols with
  | [] => none
  | .bare c :: rest =>
    if c = '>' then some ([], ⟨rest, Nat.lt_succ_self _⟩)
    else if !isGroupNameChar first c then none
    else
      match takeGroupName? false rest with
      | none => none
      | some (name, ⟨after, h⟩) => some (c :: name, ⟨after, Nat.lt_succ_of_lt h⟩)
  | _ => none

/-- Whether the symbols ask for a look ahead or behind, which there is not. -/
def startsLookaround (symbols : List Symbol) : Bool :=
  [['?', '='], ['?', '!'], ['?', '<', '='], ['?', '<', '!']].any fun text =>
    (takeText? text symbols).isSome

/-- Reads switches up to a parenthesis or colon: whether these end the group, and the switches
then in force. Each may be named once, those behind a dash are cleared, and a dash comes once and
not last. -/
def readSwitches? (flags : Flags) (seen : List Char) (negated dangling : Bool)
    (symbols : List Symbol) : Option ((Bool × Flags) × Fewer symbols) :=
  match symbols with
  | .bare c :: rest =>
    if c = ')' then
      if dangling || seen.isEmpty then none
      else some ((true, flags), ⟨rest, Nat.lt_succ_self _⟩)
    else if c = ':' then
      if dangling then none else some ((false, flags), ⟨rest, Nat.lt_succ_self _⟩)
    else if c = '-' then
      if negated then none
      else
        match readSwitches? flags seen true true rest with
        | none => none
        | some (read, ⟨after, h⟩) => some (read, ⟨after, Nat.lt_succ_of_lt h⟩)
    else if seen.contains c then none
    else
      match flags.set c (!negated) with
      | none => none
      | some flags =>
        match readSwitches? flags (c :: seen) negated false rest with
        | none => none
        | some (read, ⟨after, h⟩) => some (read, ⟨after, Nat.lt_succ_of_lt h⟩)
  | _ => none

/-- Reads what stands behind an opening parenthesis. -/
def readOpening? (flags : Flags) (symbols : List Symbol) : Option (Opening × NoMore symbols) :=
  let ⟨opened, hopened⟩ := skipBlanks flags symbols
  if startsLookaround opened then none
  else
    match takeText? ['?', 'P', '<'] opened <|> takeText? ['?', '<'] opened with
    | some ⟨nameSymbols, hname⟩ =>
      match takeGroupName? true nameSymbols with
      | none => none
      | some (name, ⟨after, h⟩) =>
        if name.isEmpty then none else some (.group flags true (some name), ⟨after, by omega⟩)
    | none =>
      match takeBare? '?' opened with
      | none => some (.group flags true none, ⟨opened, hopened⟩)
      | some ⟨switchSymbols, hswitch⟩ =>
        match readSwitches? flags [] false false switchSymbols with
        | none => none
        | some ((closed, switched), ⟨after, h⟩) =>
          let opening : Opening := if closed then .switches switched else .group switched false none
          some (opening, ⟨after, by omega⟩)

/-- How often something is repeated; without a highest number there is no limit. -/
structure Bounds where
  lowest : Nat
  highest? : Option Nat
deriving DecidableEq, Inhabited

/-- The digits at the start of the symbols, which blanks may surround. -/
def readCount (flags : Flags) (symbols : List Symbol) : List Char × NoMore symbols :=
  let opened := dropBlanks symbols
  let (digits, after) := takeDigits opened.1
  (digits, opened.trans (after.trans (dropBlanks after.1)))
where
  /-- Leaves out blanks, whatever the switches. -/
  dropBlanks (symbols : List Symbol) : NoMore symbols :=
    match symbols with
    | .bare c :: rest =>
      if Text.isBlank c then
        let ⟨after, h⟩ := dropBlanks rest
        ⟨after, Nat.le_succ_of_le h⟩
      else ⟨.bare c :: rest, Nat.le_refl _⟩
    | symbols => ⟨symbols, Nat.le_refl _⟩
  takeDigits (symbols : List Symbol) : List Char × NoMore symbols :=
    match symbols with
    | .bare c :: rest =>
      if c.isDigit then
        let ⟨next, hnext⟩ := skipBlanks flags rest
        let (digits, ⟨after, h⟩) := takeDigits next
        (c :: digits, ⟨after, by simp only [List.length_cons]; omega⟩)
      else ([], ⟨.bare c :: rest, Nat.le_refl _⟩)
    | symbols => ([], ⟨symbols, Nat.le_refl _⟩)
  termination_by symbols.length
  decreasing_by simp only [List.length_cons]; omega

/-- The number that digits give, which has to fit 32 bits. -/
def countOf? (digits : List Char) : Option Nat :=
  let value := Number.valueOfDigits 10 digits
  if digits.isEmpty || 0xFFFFFFFF < value then none else some value

/-- Reads the numbers of a repetition behind its opening brace, and the closing brace. -/
def readBounds? (flags : Flags) (symbols : List Symbol) : Option (Bounds × Fewer symbols) :=
  let opened := skipBlanks flags symbols
  let (lowDigits, afterLow) := readCount flags opened.1
  let low := opened.trans afterLow
  match countOf? lowDigits with
  | none => none
  | some lowest =>
    match takeBare? ',' low.1 with
    | none =>
      match takeBare? '\x7d' low.1 with
      | none => none
      | some rest => some (⟨lowest, some lowest⟩, low.fewer rest)
    | some comma =>
      let high := (low.fewer comma).noMore.trans (skipBlanks flags comma.1)
      match takeBare? '\x7d' high.1 with
      | some rest => some (⟨lowest, none⟩, high.fewer rest)
      | none =>
        let (highDigits, afterHigh) := readCount flags high.1
        match countOf? highDigits, takeBare? '\x7d' afterHigh.1 with
        | some highest, some rest =>
          if lowest ≤ highest then
            some (⟨lowest, some highest⟩, (high.trans afterHigh).fewer rest)
          else none
        | _, _ => none

/-- The bounds that a sign stands for. -/
def Bounds.ofSign? : Symbol → Option Bounds
  | .bare '*' => some ⟨0, none⟩
  | .bare '+' => some ⟨1, none⟩
  | .bare '?' => some ⟨0, some 1⟩
  | _ => none

/-- Reads a repetition that starts with the given symbol, and whether it takes as much as it can.
-/
def readRepetition? (flags : Flags) (first : Symbol) (symbols : List Symbol) :
    Option ((Bounds × Bool) × NoMore symbols) :=
  match Bounds.ofSign? first with
  | some bounds =>
    let (greedy, rest) := readGreed symbols
    some ((bounds, greedy), rest)
  | none =>
    match readBounds? flags symbols with
    | none => none
    | some (bounds, afterBounds) =>
      let next := skipBlanks flags afterBounds.1
      let (greedy, rest) := readGreed next.1
      some ((bounds, greedy), afterBounds.noMore.trans (next.trans rest))
where
  /-- A question mark behind a repetition turns its greed round. -/
  readGreed (symbols : List Symbol) : Bool × NoMore symbols :=
    match takeBare? '?' symbols with
    | some rest => (flags.swapGreed, rest.noMore)
    | none => (!flags.swapGreed, .all symbols)

/-- A part of a pattern: what it matches, and how deeply parts nest in it. -/
structure Part where
  regex : Regex
  depth : Nat
deriving DecidableEq, Inhabited

namespace Part

/-- A part that nothing nests in. -/
def plain (regex : Regex) : Part := ⟨regex, 0⟩

/-- Several parts put together, one deeper than the deepest of them; a single part stays as it is.
-/
def combine (together : List Regex → Regex) (parts : List Part) : Part :=
  match parts with
  | [part] => part
  | parts =>
    ⟨together (parts.map Part.regex),
      if parts.isEmpty then 0 else (parts.map Part.depth).foldl max 0 + 1⟩

end Part

/-- The kinds of word boundaries by name. -/
def boundaryOfName? (flags : Flags) (name : List Char) : Option Look :=
  let ascii := !flags.unicode
  match String.ofList name with
  | "start" => some (.wordStart ascii false)
  | "end" => some (.wordEnd ascii false)
  | "start-half" => some (.wordStart ascii true)
  | "end-half" => some (.wordEnd ascii true)
  | _ => none

/-- The letters and dashes at the start of the symbols. -/
def takeBoundaryName (flags : Flags) (symbols : List Symbol) : List Char × NoMore symbols :=
  match symbols with
  | .bare c :: rest =>
    if c.isAlpha || c = '-' then
      let ⟨next, hnext⟩ := skipBlanks flags rest
      let (name, ⟨after, h⟩) := takeBoundaryName flags next
      (c :: name, ⟨after, by simp only [List.length_cons]; omega⟩)
    else ([], ⟨.bare c :: rest, Nat.le_refl _⟩)
  | symbols => ([], ⟨symbols, Nat.le_refl _⟩)
termination_by symbols.length
decreasing_by simp only [List.length_cons]; omega

/-- Reads a word boundary, whose kind may be named in braces. Braces that hold no name are left. -/
def readBoundary? (flags : Flags) (symbols : List Symbol) : Option (Look × NoMore symbols) :=
  let plain : Look × NoMore symbols := (.boundary (!flags.unicode), ⟨symbols, Nat.le_refl _⟩)
  match takeBare? '\x7b' symbols with
  | none => some plain
  | some ⟨inside, hinside⟩ =>
    let ⟨opened, hopened⟩ := skipBlanks flags inside
    if opened.isEmpty then none
    else
      let (name, ⟨after, hafter⟩) := takeBoundaryName flags opened
      if name.isEmpty then some plain
      else
        match boundaryOfName? flags name, takeBare? '\x7d' after with
        | some look, some ⟨rest, h⟩ => some (look, ⟨rest, by omega⟩)
        | _, _ => none

/-- Reads what a character matches on its own that no backslash comes before. -/
def readBare? (flags : Flags) (c : Char) (rest : List Symbol) : Option (Part × NoMore rest) :=
  let stay (r : Regex) : Part × NoMore rest := (.plain r, ⟨rest, Nat.le_refl _⟩)
  match c with
  | '.' => flags.dot?.map fun chars => stay (.ofSet chars)
  | '^' => some (stay (.look flags.lineStart))
  | '$' => some (stay (.look flags.lineEnd))
  | '[' =>
    match readClass flags rest with
    | none => none
    | some (⟨chars, depth⟩, after) => some (⟨.ofSet chars, depth⟩, after)
  | c => some (stay (flags.literal c))

/-- Reads what a symbol matches on its own. -/
def readAtom? (flags : Flags) (symbol : Symbol) (rest : List Symbol) :
    Option (Part × NoMore rest) :=
  match symbol with
  | .bare c => readBare? flags c rest
  | .quoted c => some (.plain (flags.literal c), ⟨rest, Nat.le_refl _⟩)
  | .boundary =>
    match readBoundary? flags rest with
    | none => none
    | some (look, after) => some (.plain (.look look), after)
  | shorthand =>
    match flags.shorthand? shorthand with
    | some (some chars) => some (.plain (.ofSet chars), ⟨rest, Nat.le_refl _⟩)
    | _ => none

/-- A group as far as it is read: the alternatives that are complete, the parts of the one that is
not, the last part first, and whether the last part can be repeated. -/
structure PartialGroup where
  complete : List Part := []
  parts : List Part := []
  canRepeat : Bool := false
deriving DecidableEq, Inhabited

namespace PartialGroup

/-- The alternative that is being read. -/
def current (group : PartialGroup) : Part :=
  .combine Regex.sequence group.parts.reverse

/-- One more part. -/
def push (group : PartialGroup) (part : Part) : PartialGroup :=
  { group with parts := part :: group.parts, canRepeat := true }

/-- Switches are a part that matches nothing and cannot be repeated. -/
def setAside (group : PartialGroup) : PartialGroup :=
  { group with parts := .plain .empty :: group.parts, canRepeat := false }

/-- The current alternative is complete. -/
def alternate (group : PartialGroup) : PartialGroup :=
  ⟨group.complete ++ [group.current], [], false⟩

/-- Repeats the last part. -/
def repeat? (group : PartialGroup) (bounds : Bounds) (greedy : Bool) : Option PartialGroup :=
  match group.canRepeat, group.parts with
  | true, last :: rest =>
    let part : Part :=
      ⟨.repeated greedy bounds.lowest bounds.highest? last.regex, last.depth + 1⟩
    some { group with parts := part :: rest }
  | _, _ => none

/-- The whole group, where the earlier alternatives are preferred. -/
def close (group : PartialGroup) : Part :=
  .combine Regex.oneOf (group.complete ++ [group.current])

end PartialGroup

/-- Whether a symbol starts a repetition. -/
def startsRepetition (symbol : Symbol) : Bool :=
  symbol ∈ [.bare '*', .bare '+', .bare '?', .bare '\x7b']

/-- Reads a group to its end, or to the end of the pattern outside all groups. `names` are the
names of the groups so far. -/
def readGroup? (inside : Bool) (flags : Flags) (names : List (List Char)) (group : PartialGroup)
    (symbols : List Symbol) : Option ((Part × List (List Char)) × NoMore symbols) :=
  match skipBlanks flags symbols with
  | ⟨[], _⟩ => if inside then none else some ((group.close, names), ⟨[], Nat.zero_le _⟩)
  | ⟨symbol :: rest, hskip⟩ =>
    have hrest : rest.length < symbols.length := by
      simp only [List.length_cons] at hskip
      omega
    if symbol = .bare ')' then
      if inside then some ((group.close, names), ⟨rest, Nat.le_of_lt hrest⟩) else none
    else if symbol = .bare '|' then
      match readGroup? inside flags names group.alternate rest with
      | none => none
      | some (read, ⟨after, h⟩) => some (read, ⟨after, by omega⟩)
    else if symbol = .bare '(' then
      match readOpening? flags rest with
      | none => none
      | some (.switches switched, ⟨body, hbody⟩) =>
        match readGroup? inside switched names group.setAside body with
        | none => none
        | some (read, ⟨after, h⟩) => some (read, ⟨after, by omega⟩)
      | some (.group switched counted name?, ⟨body, hbody⟩) =>
        if name?.any names.contains then none
        else
          match readGroup? true switched (name?.toList ++ names) {} body with
          | none => none
          | some ((inner, names), ⟨afterInner, hinner⟩) =>
            let part : Part := ⟨if counted then .group inner.regex else inner.regex, inner.depth + 1⟩
            match readGroup? inside flags names (group.push part) afterInner with
            | none => none
            | some (read, ⟨after, h⟩) => some (read, ⟨after, by omega⟩)
    else if startsRepetition symbol then
      match readRepetition? flags symbol rest with
      | none => none
      | some ((bounds, greedy), ⟨afterBounds, hbounds⟩) =>
        match group.repeat? bounds greedy with
        | none => none
        | some group =>
          match readGroup? inside flags names group afterBounds with
          | none => none
          | some (read, ⟨after, h⟩) => some (read, ⟨after, by omega⟩)
    else
      match readAtom? flags symbol rest with
      | none => none
      | some (atom, ⟨afterAtom, hatom⟩) =>
        match readGroup? inside flags names (group.push atom) afterAtom with
        | none => none
        | some (read, ⟨after, h⟩) => some (read, ⟨after, by omega⟩)
termination_by symbols.length

/-- How deeply the parts of a pattern may nest. -/
def maxDepth : Nat := 250

/-- The regular expression that a pattern stands for, unless it nests too deeply or takes too much
memory. The pattern's own word on case comes before the given one. -/
def Regex.ofPattern? (pattern : List Char) (ignoreCase : Bool) : Option Regex :=
  let read := Symbols.read pattern
  let flags : Flags := { ignoreCase := read.ignoreCase?.getD ignoreCase }
  match readGroup? false flags [] {} read.symbols with
  | none => none
  | some ((part, _), _) =>
    if part.depth ≤ maxDepth && part.regex.isAffordable then some part.regex else none

/-- The program that looks for a pattern. -/
def Program.ofPattern? (pattern : List Char) (ignoreCase : Bool) : Option Program :=
  (Regex.ofPattern? pattern ignoreCase).map .ofRegex

end ModalEdit.Pattern

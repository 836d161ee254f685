import ModalEdit.Command.Basic
import ModalEdit.Command.Range
import ModalEdit.Proofs.Number.Digits

/-!
Lines that name no lines, and lines that name some by a number and a count, or by the marks of a selection, and
which lines these are.
-/

set_option autoImplicit false

namespace ModalEdit

namespace Command

variable {c : Char} {rest : List Char}

theorem ne_of_isAlpha {other : Char} (letter : c.isAlpha = true) (notLetter : other.isAlpha = false) :
    c ≠ other := by
  intro same
  rw [same, notLetter] at letter
  cases letter

theorem Address.readOffsets_of_ne (total? : Option Int64) (plus : c ≠ '+') (minus : c ≠ '-') :
    readOffsets total? (c :: rest) = (total?, c :: rest) := by
  rw [readOffsets]
  simp only [plus, minus, ↓reduceIte]

theorem Address.readOffsets_of_isAlpha (total? : Option Int64) (letter : c.isAlpha = true) :
    readOffsets total? (c :: rest) = (total?, c :: rest) :=
  readOffsets_of_ne total? (ne_of_isAlpha letter rfl) (ne_of_isAlpha letter rfl)

theorem Range.readMore_of_isAlpha (start? end? : Option Address) (semicolon : Bool)
    (letter : c.isAlpha = true) :
    readMore start? end? semicolon (c :: rest) =
      .ok (start?.map (.lines · end? semicolon), c :: rest) := by
  have comma : c ≠ ',' := ne_of_isAlpha letter rfl
  have colon : c ≠ ';' := ne_of_isAlpha letter rfl
  rw [readMore]
  simp only [comma, colon, or_self, ↓reduceIte]

theorem Address.read_of_isAlpha (letter : c.isAlpha = true)
    (baseless : readBase (Text.trimStart (c :: rest)) = .ok (none, c :: rest)) :
    read (c :: rest) = .ok (none, c :: rest) := by
  unfold read
  rw [baseless]
  dsimp only
  rw [readOffsets_of_isAlpha none letter]

theorem Range.read_of_isAlpha (letter : c.isAlpha = true)
    (baseless : Address.readBase (Text.trimStart (c :: rest)) = .ok (none, c :: rest)) :
    read (c :: rest) = .ok (none, c :: rest) := by
  have address := Address.read_of_isAlpha letter baseless
  have more := @readMore_of_isAlpha c rest none none false letter
  unfold read
  split
  case h_1 _ same =>
    have percent : c = '%' := congrArg (List.headD · c) same
    exact absurd percent (ne_of_isAlpha letter rfl)
  case h_2 =>
    rw [address]
    exact more

end Command

namespace Command

open Number (countOfDigits leadingCount saturate)

variable {c : Char} {rest : List Char}

namespace Address

theorem readBase_of_isDigit (digit : c.isDigit = true) :
    readBase (c :: rest) =
      .ok (some (.number (leadingCount (c :: rest)).1), (leadingCount (c :: rest)).2) := by
  unfold readBase
  split
  case h_5 other tail _ _ _ same =>
    cases same
    rw [if_pos digit]
  case h_6 same => cases same
  all_goals
    rename_i same
    cases same
    cases digit

/-- A base in front of something that is no sign is an address. -/
theorem read_of_base {text : List Char} {base : Base} (visible : Text.trimStart text = text)
    (isBase : readBase text = .ok (some base, c :: rest)) (plus : c ≠ '+') (minus : c ≠ '-') :
    read text = .ok (some ⟨base, 0⟩, c :: rest) := by
  unfold read
  rw [visible, isBase]
  dsimp only
  rw [readOffsets_of_ne none plus minus]
  rfl

/-- The number of a line in front of a name. -/
theorem read_number (line : Nat) (letter : c.isAlpha = true) :
    read (Nat.toDigits 10 line ++ c :: rest) =
      .ok (some ⟨.number (saturate line), 0⟩, c :: rest) := by
  have counted : leadingCount (Nat.toDigits 10 line ++ c :: rest) = (saturate line, c :: rest) := by
    rw [Number.leadingCount_append (fun _ => Number.isDigit_of_mem_toDigits),
      Number.countOfDigits_toDigits]
    rintro other ⟨⟩
    exact Text.isDigit_of_isAlpha letter
  cases digits : Nat.toDigits 10 line with
  | nil => exact absurd digits Nat.toDigits_ne_nil
  | cons digit more =>
    have isDigit : digit.isDigit = true :=
      Number.isDigit_of_mem_toDigits (n := line) (digits ▸ List.mem_cons_self)
    rw [digits] at counted
    refine read_of_base (Text.trimStart_cons (Text.isBlank_of_isDigit isDigit)) ?_
      (ne_of_isAlpha letter rfl) (ne_of_isAlpha letter rfl)
    rw [List.cons_append, readBase_of_isDigit isDigit, ← List.cons_append, counted]

/-- A mark in front of something that is no sign. -/
theorem read_mark (name : Char) (plus : c ≠ '+') (minus : c ≠ '-') :
    read ('\'' :: name :: c :: rest) = .ok (some ⟨.mark name, 0⟩, c :: rest) :=
  read_of_base (Text.trimStart_cons (by decide)) rfl plus minus

/-- The line of an address without offsets. -/
theorem line_of_base {address : Address} {current last base : Nat} {mark : Char → Option Nat}
    (isBase : address.baseLine current last mark = .ok base) (plain : address.offset = 0)
    (fits : base ≤ Int64.maxValue.toInt) (isLine : base ≤ last) :
    address.line current last mark = .ok base := by
  have largest : Int64.maxValue.toInt = 2 ^ 63 - 1 := Int64.toInt_maxValue
  have least : Int64.minValue.toInt = -2 ^ 63 := Int64.toInt_minValue
  have sum : (Number.addClamped (Int64.ofNat base) 0).toInt = base := by
    unfold Number.addClamped
    rw [Int64.toInt_ofNat_of_lt (by omega), Int64.toInt_zero, Int.add_zero]
    exact Int64.toInt_ofIntClamp (by omega) (by omega)
  unfold line
  rw [isBase, plain]
  dsimp only [Except.bind, bind]
  rw [if_neg (by omega), sum, if_pos (by omega)]
  rfl

end Address

namespace Range

theorem read_eq_readMore {text after : List Char} {first? : Option Address}
    (found : Address.read text = .ok (first?, after)) (percent : text.head? ≠ some '%') :
    read text = readMore first? none false after := by
  unfold read
  split
  · exact absurd rfl percent
  · rw [found]
    rfl

/-- The marks of a selection in front of a name. -/
theorem read_selection (letter : c.isAlpha = true) :
    read (['\'', '<', ',', '\'', '>'] ++ c :: rest) =
      .ok (some (.lines ⟨.mark '<', 0⟩ (some ⟨.mark '>', 0⟩) false), c :: rest) := by
  have first : Address.read (['\'', '<', ',', '\'', '>'] ++ c :: rest) =
      .ok (some ⟨.mark '<', 0⟩, [',', '\'', '>'] ++ c :: rest) :=
    Address.read_mark '<' (by decide) (by decide)
  have second : Address.read ('\'' :: '>' :: c :: rest) = .ok (some ⟨.mark '>', 0⟩, c :: rest) :=
    Address.read_mark '>' (ne_of_isAlpha letter rfl) (ne_of_isAlpha letter rfl)
  have more : readMore (some ⟨.mark '<', 0⟩) none false ([',', '\'', '>'] ++ c :: rest) =
      .ok (some (.lines ⟨.mark '<', 0⟩ (some ⟨.mark '>', 0⟩) false), c :: rest) := by
    rw [List.cons_append, readMore, if_pos (Or.inl rfl)]
    split
    · rename_i error failed
      cases second.symm.trans failed
    · rename_i next after found
      cases second.symm.trans found
      exact readMore_of_isAlpha _ _ false letter
  have percent : some '\'' ≠ some '%' := by decide
  exact (read_eq_readMore first percent).trans more

/-- The lines between two marks. -/
theorem resolve_marks {current last first second : Nat} {mark : Char → Option Nat} {low high : Char}
    (isFirst : mark low = some first) (isSecond : mark high = some second)
    (fits : last ≤ Int64.maxValue.toInt) (firstLine : first ≤ last) (secondLine : second ≤ last) :
    resolve (.lines ⟨.mark low, 0⟩ (some ⟨.mark high, 0⟩) false) current last mark =
      .ok (min first second, max first second) := by
  have baseOf {name : Char} {line : Nat} (marked : mark name = some line) :
      Address.baseLine ⟨.mark name, 0⟩ current last mark = .ok line := by
    unfold Address.baseLine
    dsimp only
    rw [marked]
  unfold resolve
  dsimp only
  rw [Address.line_of_base (baseOf isFirst) rfl (by omega) firstLine]
  dsimp only [Except.bind, bind]
  rw [if_neg Bool.false_ne_true, Address.line_of_base (baseOf isSecond) rfl (by omega) secondLine]
  rfl

/-- The line of a number. -/
theorem resolve_number {line current last : Nat} {mark : Char → Option Nat}
    (fits : last ≤ Int64.maxValue.toInt) (isLine : line ≤ last) :
    resolve (.lines ⟨.number (line + 1), 0⟩ none false) current last mark = .ok (line, line) := by
  have address : Address.line ⟨.number (line + 1), 0⟩ current last mark = .ok line :=
    Address.line_of_base rfl rfl (by omega) isLine
  unfold resolve
  dsimp only
  rw [address]
  rfl

end Range

/-- A line is read piece by piece: its range, the name of its command, and what the command takes. -/
theorem parse_pieces {text name after : List Char} {range? : Option Range} {definition : Definition}
    {arguments : Arguments} (starts : ∀ c ∈ text.head?, c ≠ ':' ∧ Text.isBlank c = false)
    (ends : ∀ c ∈ text.getLast?, Text.isBlank c = false)
    (ranged : Range.read text = .ok (range?, name ++ after)) (named : name ≠ [])
    (letters : ∀ c ∈ name, c.isAlpha = true) (blank : after = [] ∨ ∃ rest, after = ' ' :: rest)
    (resolved : Definition.resolve (String.ofList name) = .ok definition)
    (taken : readArguments definition.grammar (Text.trimStart after) = .ok arguments) :
    parse text = .ok ⟨range?, definition.id, false, arguments⟩ := by
  have whole : Text.trimEnd (text.dropWhile fun c => c == ':' || Text.isBlank c) = text := by
    have kept : text.dropWhile (fun c => c == ':' || Text.isBlank c) = text := by
      cases text with
      | nil => rfl
      | cons c rest =>
        obtain ⟨colon, visible⟩ := starts c rfl
        refine List.dropWhile_cons_of_neg ?_
        rw [visible, Bool.or_false, beq_iff_eq]
        exact colon
    rw [kept, Text.trimEnd_of_visible ends]
  have bare : Text.trimStart (name ++ after) = name ++ after := by
    cases name with
    | nil => exact absurd rfl named
    | cons c more =>
      exact Text.trimStart_cons (Text.isBlank_of_isAlpha (letters c List.mem_cons_self))
  have behind : after.takeWhile Char.isAlpha = [] ∧ after.dropWhile Char.isAlpha = after := by
    rcases blank with rfl | ⟨rest, rfl⟩ <;> exact ⟨rfl, rfl⟩
  have nameTaken : (name ++ after).takeWhile Char.isAlpha = name := by
    rw [List.takeWhile_append_of_pos letters, behind.1, List.append_nil]
  have nameDropped : (name ++ after).dropWhile Char.isAlpha = after := by
    rw [List.dropWhile_append_of_pos letters, behind.2]
  have definitionFound : resolveIn text name = .ok definition := by
    unfold resolveIn
    rw [resolved]
  have someName : name.isEmpty = false := List.isEmpty_eq_false_iff.mpr named
  have read : parse text = (readArguments definition.grammar (Text.trimStart after)).map fun arguments =>
      ⟨range?, definition.id, false, arguments⟩ := by
    unfold parse
    dsimp only [Except.bind, bind]
    rw [whole, ranged]
    dsimp only
    rw [bare, nameTaken, nameDropped, someName, if_neg Bool.false_ne_true, definitionFound]
    rcases blank with rfl | ⟨rest, rfl⟩ <;> rfl
  rw [read, taken]
  rfl

/-- The register and the count of a command on lines. -/
def registerCount (register? : Option Char) (count : Nat) : List Char :=
  register?.elim [] ([·, ' ']) ++ Nat.toDigits 10 count

/-- The line that deletes lines from one on, into a register. -/
def deleteLine (line : Nat) (register? : Option Char) (count : Nat) : List Char :=
  Nat.toDigits 10 (line + 1) ++ (['d', 'e', 'l', 'e', 't', 'e'] ++ ' ' :: registerCount register? count)

theorem isRegisterName_of_isAlpha {name : Char} (names : name.isAlpha = true ∨ name = '_') :
    isRegisterName name = true := by
  rcases names with letter | rfl
  · unfold isRegisterName Char.isAlphanum
    rw [letter]
    rfl
  · decide

/-- A register and a count, as the line gives them. -/
theorem readRegisterCount_registerCount {register? : Option Char} {count : Nat}
    (names : ∀ name ∈ register?, name.isAlpha = true ∨ name = '_') (positive : 0 < count) :
    readRegisterCount (registerCount register? count) =
      .ok (.registerCount register? (some (saturate count))) := by
  unfold registerCount
  have counted : leadingCount (Nat.toDigits 10 count) = (saturate count, []) := by
    have all : leadingCount (Nat.toDigits 10 count ++ []) = _ :=
      Number.leadingCount_append (fun _ => Number.isDigit_of_mem_toDigits) nofun
    rwa [List.append_nil, Number.countOfDigits_toDigits] at all
  have some : saturate count ≠ 0 := Nat.ne_of_gt (Number.saturate_pos positive)
  cases digits : Nat.toDigits 10 count with
  | nil => exact absurd digits Nat.toDigits_ne_nil
  | cons digit more =>
    have isDigit : digit.isDigit = true :=
      Number.isDigit_of_mem_toDigits (n := count) (digits ▸ List.mem_cons_self)
    rw [digits] at counted
    have first : (digit :: more).head?.any Char.isDigit = true := isDigit
    cases register? with
    | none =>
      have taken : takeRegister? (digit :: more) = none := by
        unfold takeRegister?
        dsimp only
        rw [isDigit]
        rfl
      unfold readRegisterCount
      dsimp only [Option.elim_none, List.nil_append]
      rw [taken]
      dsimp only
      rw [first, counted, if_pos rfl, if_neg some]
      rfl
    | some name =>
      have noDigit : name.isDigit = false := by
        rcases names name rfl with letter | rfl
        · exact Text.isDigit_of_isAlpha letter
        · decide
      have taken : takeRegister? (name :: ' ' :: digit :: more) = .some (name, digit :: more) := by
        have visible : Text.trimStart (digit :: more) = digit :: more :=
          Text.trimStart_cons (Text.isBlank_of_isDigit isDigit)
        unfold takeRegister?
        dsimp only
        rw [isRegisterName_of_isAlpha (names name rfl), noDigit]
        exact congrArg (fun rest => Option.some (name, rest)) visible
      unfold readRegisterCount
      dsimp only [Option.elim_some, List.cons_append, List.nil_append]
      rw [taken]
      dsimp only
      rw [first, counted, if_pos rfl, if_neg some]
      rfl

/-- A register and a count start with something that can be seen, and end with a digit. -/
theorem trimStart_registerCount {register? : Option Char} {count : Nat}
    (names : ∀ name ∈ register?, name.isAlpha = true ∨ name = '_') :
    Text.trimStart (' ' :: registerCount register? count) = registerCount register? count := by
  have blank : Text.trimStart (' ' :: registerCount register? count) =
      Text.trimStart (registerCount register? count) :=
    List.dropWhile_cons_of_pos (by decide)
  rw [blank]
  unfold registerCount
  cases register? with
  | none =>
    cases digits : Nat.toDigits 10 count with
    | nil => rfl
    | cons digit more =>
      have isDigit : digit.isDigit = true :=
        Number.isDigit_of_mem_toDigits (n := count) (digits ▸ List.mem_cons_self)
      exact Text.trimStart_cons (Text.isBlank_of_isDigit isDigit)
  | some name =>
    refine Text.trimStart_cons ?_
    rcases names name rfl with letter | rfl
    · exact Text.isBlank_of_isAlpha letter
    · decide

/-- What the line that deletes lines says. -/
theorem parse_deleteLine {line count : Nat} {register? : Option Char}
    (names : ∀ name ∈ register?, name.isAlpha = true ∨ name = '_') (positive : 0 < count) :
    parse (deleteLine line register? count) =
      .ok ⟨some (.lines ⟨.number (saturate (line + 1)), 0⟩ none false), .delete, false,
        .registerCount register? (some (saturate count))⟩ := by
  have starts : ∀ c ∈ (deleteLine line register? count).head?, c.isDigit = true := by
    unfold deleteLine
    cases digits : Nat.toDigits 10 (line + 1) with
    | nil => exact absurd digits Nat.toDigits_ne_nil
    | cons digit more =>
      rintro c ⟨⟩
      exact Number.isDigit_of_mem_toDigits (n := line + 1) (digits ▸ List.mem_cons_self)
  have ends : ∀ c ∈ (deleteLine line register? count).getLast?, c.isDigit = true := by
    intro c last
    unfold deleteLine registerCount at last
    rw [← List.cons_append, ← List.append_assoc, ← List.append_assoc, List.getLast?_append] at last
    cases digits : (Nat.toDigits 10 count).getLast? with
    | none => exact absurd (List.getLast?_eq_none_iff.mp digits) Nat.toDigits_ne_nil
    | some digit =>
      rw [digits] at last
      cases last
      exact Number.isDigit_of_mem_toDigits (List.mem_of_getLast? digits)
  have colon (c : Char) (digit : c.isDigit = true) : c ≠ ':' := by
    rintro rfl
    cases digit
  have address : Address.read (deleteLine line register? count) =
      .ok (some ⟨.number (saturate (line + 1)), 0⟩,
        ['d', 'e', 'l', 'e', 't', 'e'] ++ ' ' :: registerCount register? count) :=
    Address.read_number (line + 1) (by decide)
  have ranged : Range.read (deleteLine line register? count) =
      .ok (some (.lines ⟨.number (saturate (line + 1)), 0⟩ none false),
        ['d', 'e', 'l', 'e', 't', 'e'] ++ ' ' :: registerCount register? count) :=
    (Range.read_eq_readMore address fun percent => Bool.false_ne_true (starts '%' percent)).trans
      (Range.readMore_of_isAlpha _ none false (by decide))
  have taken := readRegisterCount_registerCount names positive
  rw [← trimStart_registerCount names] at taken
  exact parse_pieces
    (fun c first => ⟨colon c (starts c first), Text.isBlank_of_isDigit (starts c first)⟩)
    (fun c last => Text.isBlank_of_isDigit (ends c last)) ranged (List.cons_ne_nil _ _)
    (List.all_eq_true.mp rfl) (Or.inr ⟨_, rfl⟩) rfl taken

/-- The name of an operator on lines, as short as can be, and its command. -/
inductive LineOperator : Operator → Char → CommandId → Prop where
  | delete : LineOperator .delete 'd' .delete
  | yank : LineOperator .yank 'y' .yank

/-- What the line says that operates on the lines of a selection. -/
theorem parse_selection {operator : Operator} {name : Char} {id : CommandId}
    (onLines : LineOperator operator name id) :
    parse (['\'', '<', ',', '\'', '>'] ++ [name]) =
      .ok ⟨some (.lines ⟨.mark '<', 0⟩ (some ⟨.mark '>', 0⟩) false), id, false,
        .registerCount none none⟩ := by
  have letter : name.isAlpha = true := by cases onLines <;> rfl
  have ranged : Range.read (['\'', '<', ',', '\'', '>'] ++ [name]) =
      .ok (some (.lines ⟨.mark '<', 0⟩ (some ⟨.mark '>', 0⟩) false), [name] ++ []) :=
    Range.read_selection letter
  have starts : ∀ c ∈ (['\'', '<', ',', '\'', '>'] ++ [name]).head?,
      c ≠ ':' ∧ Text.isBlank c = false := by
    rintro c ⟨⟩
    decide
  have ends : ∀ c ∈ (['\'', '<', ',', '\'', '>'] ++ [name]).getLast?, Text.isBlank c = false := by
    rintro c ⟨⟩
    exact Text.isBlank_of_isAlpha letter
  have letters : ∀ c ∈ [name], c.isAlpha = true := by
    intro c member
    exact List.mem_singleton.mp member ▸ letter
  cases onLines with
  | delete => exact parse_pieces starts ends ranged (List.cons_ne_nil _ _) letters (Or.inl rfl) rfl rfl
  | yank => exact parse_pieces starts ends ranged (List.cons_ne_nil _ _) letters (Or.inl rfl) rfl rfl

end Command

end ModalEdit

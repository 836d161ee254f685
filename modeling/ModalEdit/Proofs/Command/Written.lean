import ModalEdit.Proofs.Command.Lines

/-!
Addresses and ranges as they are written: blanks, what an address counts from, and offsets with a sign each;
an address, or a chain of them with a separator between two. Their text, and what is read from it, which of a
chain is the last two addresses; everything that is read as an address or as a range has been written in this
way.
-/

set_option autoImplicit false

namespace ModalEdit.Command

open Number (countOfDigits leadingCount saturate)

theorem trimStart_of_visible {text : List Char} (visible : ∀ c ∈ text.head?, Text.isBlank c = false) :
    Text.trimStart text = text := by
  cases text with
  | nil => rfl
  | cons c rest => exact Text.trimStart_cons (visible c rfl)

namespace Address

theorem readOffsetSize_of_isDigit {text : List Char} (digit : text.head?.any Char.isDigit = true) :
    readOffsetSize text = (Int64.ofIntClamp (leadingCount text).1, (leadingCount text).2) :=
  if_pos digit

theorem readOffsetSize_of_not_isDigit {text : List Char}
    (noDigit : ¬ text.head?.any Char.isDigit = true) : readOffsetSize text = (1, text) :=
  if_neg noDigit

/-- What starts with no base is left to the offsets. -/
theorem readBase_of_bare {text : List Char}
    (bare : ∀ c ∈ text.head?, c.isDigit = false ∧ c ∉ ['.', '$', '\'']) :
    readBase text = .ok (none, text) := by
  cases text with
  | nil => rfl
  | cons c rest =>
    obtain ⟨noDigit, noBase⟩ := bare c rfl
    simp only [List.mem_cons, List.not_mem_nil, or_false, not_or] at noBase
    obtain ⟨dot, dollar, quote⟩ := noBase
    unfold readBase
    split
    case h_5 other _ _ _ same =>
      cases same
      rw [noDigit]
      rfl
    all_goals
      rename_i same
      cases same
    · exact absurd rfl dot
    · exact absurd rfl dollar
    · exact absurd rfl quote
    · exact absurd rfl quote

/-- The address of a base and of the sum of offsets, if there is one of them. -/
def ofParts? : Option Base → Option Int64 → Option Address
  | none, none => none
  | base?, offset? => some ⟨base?.getD .current, offset?.getD 0⟩

theorem read_of_readBase {text rest : List Char} {base? : Option Base}
    (isBase : readBase (Text.trimStart text) = .ok (base?, rest)) :
    read text = .ok (ofParts? base? (readOffsets none rest).1, (readOffsets none rest).2) := by
  unfold read
  rw [isBase]
  dsimp only
  cases base? with
  | some base => rfl
  | none => cases (readOffsets none rest).1 <;> rfl

end Address

/-- A number as it is written. -/
structure WrittenNumber where
  digits : List Char
  isDigit : ∀ digit ∈ digits, digit.isDigit = true
  some : digits ≠ []

namespace WrittenNumber

def value (number : WrittenNumber) : Nat :=
  Nat.ofDigitChars 10 number.digits 0

theorem leadingCount_digits (number : WrittenNumber) {rest : List Char}
    (stops : ∀ c ∈ rest.head?, c.isDigit = false) :
    leadingCount (number.digits ++ rest) = (saturate number.value, rest) := by
  rw [Number.leadingCount_append number.isDigit stops, Number.countOfDigits_eq]
  rfl

theorem head?_digits_append (number : WrittenNumber) (rest : List Char) :
    ∃ digit ∈ number.digits, (number.digits ++ rest).head? = Option.some digit := by
  cases digits : number.digits with
  | nil => exact absurd digits number.some
  | cons digit more => exact ⟨digit, List.mem_cons_self, rfl⟩

/-- A count that is read from digits is the number that they are. -/
theorem exists_of_isDigit {text : List Char} (digit : text.head?.any Char.isDigit = true) :
    ∃ number : WrittenNumber, text = number.digits ++ (leadingCount text).2 ∧
      (leadingCount text).1 = saturate number.value := by
  have some : text.takeWhile Char.isDigit ≠ [] := by
    cases text with
    | nil => cases digit
    | cons c rest =>
      have first : c.isDigit = true := digit
      rw [List.takeWhile_cons_of_pos first]
      exact List.cons_ne_nil _ _
  refine ⟨⟨text.takeWhile Char.isDigit, fun _ => List.mem_takeWhile_imp, some⟩, ?_, ?_⟩
  · exact List.takeWhile_append_dropWhile.symm
  · exact Number.countOfDigits_eq _

end WrittenNumber

/-- An offset as it is written: a sign, and a number that is one if it is left out. -/
structure WrittenOffset where
  negative : Bool
  size? : Option WrittenNumber

namespace WrittenOffset

def size (offset : WrittenOffset) : Nat :=
  offset.size?.elim 1 WrittenNumber.value

def value (offset : WrittenOffset) : Int :=
  if offset.negative then -offset.size else offset.size

def sizeText (offset : WrittenOffset) : List Char :=
  offset.size?.elim [] WrittenNumber.digits

def text (offset : WrittenOffset) : List Char :=
  (if offset.negative then '-' else '+') :: offset.sizeText

/-- The sum of the offsets so far and this one, as far as 64 bits can hold it. -/
def addTo (total : Int64) (offset : WrittenOffset) : Int64 :=
  if offset.negative then Number.subClamped total (Int64.ofIntClamp (saturate offset.size))
  else Number.addClamped total (Int64.ofIntClamp (saturate offset.size))

/-- The sum of offsets behind those so far. Without any, there is none. -/
def sumFrom? (total? : Option Int64) (offsets : List WrittenOffset) : Option Int64 :=
  offsets.foldl (fun total? offset => some (addTo (total?.getD 0) offset)) total?

theorem sumFrom?_cons (total? : Option Int64) (offset : WrittenOffset) (rest : List WrittenOffset) :
    sumFrom? total? (offset :: rest) = sumFrom? (some (addTo (total?.getD 0) offset)) rest := rfl

theorem getD_sumFrom? (total? : Option Int64) (offsets : List WrittenOffset) :
    (sumFrom? total? offsets).getD 0 = offsets.foldl addTo (total?.getD 0) := by
  induction offsets generalizing total? with
  | nil => rfl
  | cons offset rest ih => exact ih _

theorem sumFrom?_some (total : Int64) (offsets : List WrittenOffset) :
    sumFrom? (some total) offsets = some (offsets.foldl addTo total) := by
  induction offsets generalizing total with
  | nil => rfl
  | cons offset rest ih => exact ih _

theorem readOffsetSize_sizeText {offset : WrittenOffset} {rest : List Char}
    (stops : ∀ c ∈ rest.head?, c.isDigit = false) :
    Address.readOffsetSize (offset.sizeText ++ rest) =
      (Int64.ofIntClamp (saturate offset.size), rest) := by
  unfold sizeText size
  cases offset.size? with
  | none =>
    have noDigit : ¬ rest.head?.any Char.isDigit = true := by
      rw [Bool.not_eq_true, Option.any_eq_false]
      exact stops
    exact Address.readOffsetSize_of_not_isDigit noDigit
  | some number =>
    obtain ⟨digit, member, first⟩ := number.head?_digits_append rest
    have isDigit : (number.digits ++ rest).head?.any Char.isDigit = true := by
      rw [first]
      exact number.isDigit digit member
    have read := Address.readOffsetSize_of_isDigit isDigit
    rw [number.leadingCount_digits stops] at read
    exact read

theorem head?_flatMap_text {offsets : List WrittenOffset} {rest : List Char} {p : Char → Prop}
    (signs : p '+' ∧ p '-') (stops : ∀ c ∈ rest.head?, p c) :
    ∀ c ∈ (offsets.flatMap text ++ rest).head?, p c := by
  cases offsets with
  | nil => exact stops
  | cons offset more =>
    rintro c ⟨⟩
    cases offset.negative
    · exact signs.1
    · exact signs.2

/-- Offsets that are written are read with their sum. -/
theorem readOffsets_text {rest : List Char}
    (stops : ∀ c ∈ rest.head?, c.isDigit = false ∧ c ≠ '+' ∧ c ≠ '-')
    (offsets : List WrittenOffset) (total? : Option Int64) :
    Address.readOffsets total? (offsets.flatMap text ++ rest) = (sumFrom? total? offsets, rest) := by
  induction offsets generalizing total? with
  | nil =>
    cases rest with
    | nil => rw [List.flatMap_nil, List.nil_append, Address.readOffsets]; rfl
    | cons c rest =>
      obtain ⟨-, plus, minus⟩ := stops c rfl
      exact Address.readOffsets_of_ne total? plus minus
  | cons offset more ih =>
    have behind : Address.readOffsetSize (offset.sizeText ++ (more.flatMap text ++ rest)) =
        (Int64.ofIntClamp (saturate offset.size), more.flatMap text ++ rest) :=
      readOffsetSize_sizeText (head?_flatMap_text ⟨rfl, rfl⟩ fun c first => (stops c first).1)
    have sign : (offset :: more).flatMap text ++ rest =
        (if offset.negative then '-' else '+') ::
          (offset.sizeText ++ (more.flatMap text ++ rest)) := by
      rw [List.flatMap_cons, List.append_assoc]
      rfl
    rw [sign, sumFrom?_cons, ← ih, Address.readOffsets]
    unfold addTo
    cases offset.negative
    · rw [if_neg Bool.false_ne_true, if_pos rfl, behind]
      rfl
    · rw [if_pos rfl, if_neg (by decide), if_pos rfl, behind]
      rfl

/-- A sign and the size that is read behind it are an offset. -/
theorem exists_of_readOffsetSize (negative : Bool) (rest : List Char) :
    ∃ offset : WrittenOffset,
      (if negative then '-' else '+') :: rest = offset.text ++ (Address.readOffsetSize rest).2 ∧
        ∀ total, addTo total offset =
          if negative then Number.subClamped total (Address.readOffsetSize rest).1
          else Number.addClamped total (Address.readOffsetSize rest).1 := by
  by_cases digit : rest.head?.any Char.isDigit = true
  · rw [Address.readOffsetSize_of_isDigit digit]
    obtain ⟨number, written, counted⟩ := WrittenNumber.exists_of_isDigit digit
    refine ⟨⟨negative, some number⟩, congrArg ((if negative then '-' else '+') :: ·) written, ?_⟩
    rw [counted]
    exact fun _ => rfl
  · rw [Address.readOffsetSize_of_not_isDigit digit]
    exact ⟨⟨negative, none⟩, rfl, fun _ => rfl⟩

/-- A sign that is read in front of offsets that have been written is that of one more. -/
theorem exists_of_sign (negative : Bool) {rest after : List Char} {total? sum? : Option Int64}
    (behind : ∃ offsets : List WrittenOffset,
      (Address.readOffsetSize rest).2 = offsets.flatMap WrittenOffset.text ++ after ∧
        sum? = sumFrom? (some <| if negative then
            Number.subClamped (total?.getD 0) (Address.readOffsetSize rest).1
          else Number.addClamped (total?.getD 0) (Address.readOffsetSize rest).1) offsets) :
    ∃ offsets : List WrittenOffset,
      (if negative then '-' else '+') :: rest = offsets.flatMap WrittenOffset.text ++ after ∧
        sum? = sumFrom? total? offsets := by
  obtain ⟨offsets, more, sum⟩ := behind
  obtain ⟨offset, written, added⟩ := exists_of_readOffsetSize negative rest
  refine ⟨offset :: offsets, ?_, ?_⟩
  · rw [List.flatMap_cons, List.append_assoc, ← more]
    exact written
  · rw [sum, sumFrom?_cons, added]

/-- Offsets that are read have been written. -/
theorem exists_of_readOffsets (total? : Option Int64) (text : List Char) :
    ∃ offsets : List WrittenOffset,
      text = offsets.flatMap WrittenOffset.text ++ (Address.readOffsets total? text).2 ∧
        (Address.readOffsets total? text).1 = sumFrom? total? offsets := by
  fun_induction Address.readOffsets total? text with
  | case1 => exact ⟨[], rfl, rfl⟩
  | case2 _ _ _ ih => exact exists_of_sign false ih
  | case3 _ _ _ _ ih => exact exists_of_sign true ih
  | case4 => exact ⟨[], rfl, rfl⟩

end WrittenOffset

/-- What an address counts from, as it is written. -/
inductive WrittenBase where
  | current
  | last
  | number (line : WrittenNumber)
  | mark (name : Char)

namespace WrittenBase

def text : WrittenBase → List Char
  | current => ['.']
  | last => ['$']
  | number line => line.digits
  | mark name => ['\'', name]

/-- What is read from it. -/
def base : WrittenBase → Base
  | current => .current
  | last => .last
  | number line => .number (saturate line.value)
  | mark name => .mark name

theorem isBlank_of_mem_head? (written : WrittenBase) (rest : List Char) :
    ∀ c ∈ (written.text ++ rest).head?, Text.isBlank c = false := by
  cases written with
  | current | last | mark =>
    rintro c ⟨⟩
    decide
  | number line =>
    obtain ⟨digit, member, first⟩ := line.head?_digits_append rest
    intro c isFirst
    obtain rfl : digit = c := Option.some.inj (first.symm.trans isFirst)
    exact Text.isBlank_of_isDigit (line.isDigit digit member)

theorem readBase_text {written : WrittenBase} {rest : List Char}
    (stops : ∀ c ∈ rest.head?, c.isDigit = false) :
    Address.readBase (written.text ++ rest) = .ok (some written.base, rest) := by
  cases written with
  | current | last | mark => rfl
  | number line =>
    have counted := line.leadingCount_digits stops
    show Address.readBase (line.digits ++ rest) = .ok (some (.number (saturate line.value)), rest)
    cases digits : line.digits with
    | nil => exact absurd digits line.some
    | cons digit more =>
      have isDigit : digit.isDigit = true := line.isDigit digit (digits ▸ List.mem_cons_self)
      rw [digits] at counted
      rw [List.cons_append, Address.readBase_of_isDigit isDigit, ← List.cons_append, counted]

/-- What an address counts from has been written, or left out. -/
theorem exists_of_readBase {text rest : List Char} {base? : Option Base}
    (read : Address.readBase text = .ok (base?, rest)) :
    ∃ written? : Option WrittenBase, text = written?.elim [] WrittenBase.text ++ rest ∧
      base? = written?.map base := by
  unfold Address.readBase at read
  split at read
  case h_1 =>
    cases read
    exact ⟨some current, rfl, rfl⟩
  case h_2 =>
    cases read
    exact ⟨some last, rfl, rfl⟩
  case h_3 name _ =>
    cases read
    exact ⟨some (mark name), rfl, rfl⟩
  case h_4 => cases read
  case h_5 =>
    split at read
    · rename_i digit
      obtain ⟨number, written, counted⟩ := @WrittenNumber.exists_of_isDigit (_ :: _) digit
      cases read
      exact ⟨some (.number number), written, congrArg (some <| Base.number ·) counted⟩
    · cases read
      exact ⟨none, rfl, rfl⟩
  case h_6 =>
    cases read
    exact ⟨none, rfl, rfl⟩

end WrittenBase

/-- An address as it is written: blanks, what it counts from, and offsets. -/
structure WrittenAddress where
  blanks : List Char
  isBlank : ∀ c ∈ blanks, Text.isBlank c = true
  base? : Option WrittenBase
  offsets : List WrittenOffset

namespace WrittenAddress

/-- An address with no blanks in front. -/
def tight (base? : Option WrittenBase) (offsets : List WrittenOffset) : WrittenAddress :=
  ⟨[], List.forall_mem_nil _, base?, offsets⟩

/-- Nothing but blanks. -/
def Omitted (written : WrittenAddress) : Prop :=
  written.base? = none ∧ written.offsets = []

def text (written : WrittenAddress) : List Char :=
  written.blanks ++ (written.base?.elim [] WrittenBase.text ++
    written.offsets.flatMap WrittenOffset.text)

/-- What is read from it. One that is left out is the current line. -/
def address (written : WrittenAddress) : Address :=
  ⟨written.base?.elim .current WrittenBase.base, written.offsets.foldl WrittenOffset.addTo 0⟩

/-- What is read from it, where it can be left out. -/
def address? (written : WrittenAddress) : Option Address :=
  Address.ofParts? (written.base?.map WrittenBase.base) (WrittenOffset.sumFrom? none written.offsets)

theorem address?_of_not_omitted {written : WrittenAddress} (given : ¬ written.Omitted) :
    written.address? = some written.address := by
  have sum := WrittenOffset.getD_sumFrom? none written.offsets
  unfold address? address
  cases isBase : written.base? with
  | some base => exact congrArg (fun sum => some (Address.mk base.base sum)) sum
  | none =>
    cases offsets : written.offsets with
    | nil => exact absurd ⟨isBase, offsets⟩ given
    | cons offset more =>
      rw [WrittenOffset.sumFrom?_cons, WrittenOffset.sumFrom?_some]
      rfl

theorem address?_of_omitted {written : WrittenAddress} (omitted : written.Omitted) :
    written.address? = none ∧ written.address = Address.current := by
  unfold address? address
  rw [omitted.1, omitted.2]
  exact ⟨rfl, rfl⟩

theorem getD_address? (written : WrittenAddress) :
    written.address?.getD Address.current = written.address := by
  by_cases omitted : written.Omitted
  · obtain ⟨none, current⟩ := address?_of_omitted omitted
    rw [none, current]
    rfl
  · rw [address?_of_not_omitted omitted]
    rfl

/-- Whether an address ends in front of a text. -/
def StopsAt (written : WrittenAddress) (rest : List Char) : Prop :=
  ∀ c ∈ rest.head?, c.isDigit = false ∧ c ∉ ['+', '-', '.', '$', '\''] ∧
    (written.Omitted → Text.isBlank c = false)

/-- What an address counts from is read behind its blanks. -/
theorem readBase_text {written : WrittenAddress} {rest : List Char} (stops : written.StopsAt rest) :
    Address.readBase (Text.trimStart (written.text ++ rest)) =
      .ok (written.base?.map WrittenBase.base, written.offsets.flatMap WrittenOffset.text ++ rest) := by
  have noDigit : ∀ c ∈ (written.offsets.flatMap WrittenOffset.text ++ rest).head?, c.isDigit = false :=
    WrittenOffset.head?_flatMap_text ⟨rfl, rfl⟩ fun c first => (stops c first).1
  have trimmed : Text.trimStart (written.text ++ rest) =
      Text.trimStart (written.base?.elim [] WrittenBase.text ++
        (written.offsets.flatMap WrittenOffset.text ++ rest)) := by
    unfold Text.trimStart text
    rw [List.append_assoc, List.append_assoc, List.dropWhile_append_of_pos written.isBlank]
  rw [trimmed]
  cases given : written.base? with
  | some base =>
    rw [Option.elim_some, trimStart_of_visible (base.isBlank_of_mem_head? _)]
    exact WrittenBase.readBase_text noDigit
  | none =>
    have visible : ∀ c ∈ (written.offsets.flatMap WrittenOffset.text ++ rest).head?,
        Text.isBlank c = false := by
      cases offsets : written.offsets with
      | nil => exact fun c first => (stops c first).2.2 ⟨given, offsets⟩
      | cons offset more =>
        rintro c ⟨⟩
        cases offset.negative <;> decide
    rw [Option.elim_none, List.nil_append, trimStart_of_visible visible]
    refine Address.readBase_of_bare (WrittenOffset.head?_flatMap_text ⟨by decide, by decide⟩ ?_)
    intro c first
    obtain ⟨noDigit, noSign, -⟩ := stops c first
    exact ⟨noDigit, fun member => noSign (List.mem_cons_of_mem _ (List.mem_cons_of_mem _ member))⟩

/-- An address that is written is read. -/
theorem read_text {written : WrittenAddress} {rest : List Char} (stops : written.StopsAt rest) :
    Address.read (written.text ++ rest) = .ok (written.address?, rest) := by
  have offsetsRead : Address.readOffsets none (written.offsets.flatMap WrittenOffset.text ++ rest) =
      (WrittenOffset.sumFrom? none written.offsets, rest) := by
    refine WrittenOffset.readOffsets_text ?_ written.offsets none
    intro c first
    obtain ⟨noDigit, noSign, -⟩ := stops c first
    simp only [List.mem_cons, not_or] at noSign
    exact ⟨noDigit, noSign.1, noSign.2.1⟩
  rw [Address.read_of_readBase (readBase_text stops), offsetsRead]
  rfl

/-- An address that is read has been written. -/
theorem exists_of_read {text rest : List Char} {address? : Option Address}
    (read : Address.read text = .ok (address?, rest)) :
    ∃ written : WrittenAddress, text = written.text ++ rest ∧ address? = written.address? := by
  cases isBase : Address.readBase (Text.trimStart text) with
  | error error =>
    unfold Address.read at read
    rw [isBase] at read
    cases read
  | ok based =>
    obtain ⟨base?, behind⟩ := based
    rw [Address.read_of_readBase isBase] at read
    obtain ⟨writtenBase?, baseText, isRead⟩ := WrittenBase.exists_of_readBase isBase
    obtain ⟨offsets, offsetsText, sum⟩ := WrittenOffset.exists_of_readOffsets none behind
    cases read
    refine ⟨⟨text.takeWhile Text.isBlank, fun _ => List.mem_takeWhile_imp, writtenBase?, offsets⟩,
      ?_, ?_⟩
    · unfold WrittenAddress.text
      rw [List.append_assoc, List.append_assoc, ← offsetsText, ← baseText]
      exact List.takeWhile_append_dropWhile.symm
    · unfold WrittenAddress.address?
      rw [isRead, sum]

end WrittenAddress

/-- What stands between two addresses. -/
def separator (semicolon : Bool) : Char :=
  if semicolon then ';' else ','

theorem separator_iff {c : Char} : c = ',' ∨ c = ';' ↔ ∃ semicolon, c = separator semicolon := by
  constructor
  · rintro (rfl | rfl)
    · exact ⟨false, rfl⟩
    · exact ⟨true, rfl⟩
  · rintro ⟨semicolon, rfl⟩
    cases semicolon
    · exact Or.inl rfl
    · exact Or.inr rfl

theorem separator_eq_semicolon_iff (semicolon : Bool) : separator semicolon = ';' ↔ semicolon = true := by
  cases semicolon <;> decide

/-- The text of addresses, each with the separator behind it. -/
def linkText (links : List (WrittenAddress × Bool)) : List Char :=
  links.flatMap fun link => link.1.text ++ [separator link.2]

theorem linkText_cons_append (link : WrittenAddress × Bool) (links : List (WrittenAddress × Bool))
    (rest : List Char) :
    linkText (link :: links) ++ rest = link.1.text ++ separator link.2 :: (linkText links ++ rest) := by
  unfold linkText
  rw [List.flatMap_cons]
  simp only [List.append_assoc, List.cons_append, List.nil_append]

theorem WrittenAddress.stopsAt_separator (written : WrittenAddress) (semicolon : Bool)
    (rest : List Char) : written.StopsAt (separator semicolon :: rest) := by
  rintro c ⟨⟩
  cases semicolon
  · exact ⟨by decide, by decide, fun _ => by decide⟩
  · exact ⟨by decide, by decide, fun _ => by decide⟩

/-- A range as it is written. Of a chain of addresses the last two are told apart. -/
inductive WrittenRange where
  | whole
  | single (address : WrittenAddress) (given : ¬ address.Omitted)
  | chain (dropped : List (WrittenAddress × Bool)) (start : WrittenAddress) (semicolon : Bool)
    (stop : WrittenAddress)

namespace WrittenRange

def text : WrittenRange → List Char
  | whole => ['%']
  | single address _ => address.text
  | chain dropped start semicolon stop => linkText (dropped ++ [(start, semicolon)]) ++ stop.text

/-- What is read from it. -/
def range : WrittenRange → Range
  | whole => .whole
  | single address _ => .lines address.address none false
  | chain _ start semicolon stop => .lines start.address (some stop.address) semicolon

/-- Whether a range ends in front of a text. -/
def StopsAt : WrittenRange → List Char → Prop
  | whole, _ => True
  | single address _, rest => address.StopsAt rest ∧ ∀ c ∈ rest.head?, c ≠ ',' ∧ c ≠ ';'
  | chain _ _ _ stop, rest => stop.StopsAt rest ∧ ∀ c ∈ rest.head?, c ≠ ',' ∧ c ≠ ';'

end WrittenRange

namespace Range

theorem readMore_of_stops {start? end? : Option Address} {semicolon : Bool} {rest : List Char}
    (stops : ∀ c ∈ rest.head?, c ≠ ',' ∧ c ≠ ';') :
    readMore start? end? semicolon rest = .ok (start?.map (.lines · end? semicolon), rest) := by
  rw [readMore.eq_def]
  cases rest with
  | nil => rfl
  | cons c rest =>
    obtain ⟨comma, colon⟩ := stops c rfl
    exact if_neg (not_or.mpr ⟨comma, colon⟩)

theorem readMore_separator {start? end? next? : Option Address} {before semicolon : Bool}
    {text rest : List Char} (read : Address.read text = .ok (next?, rest)) :
    readMore start? end? before (separator semicolon :: text) =
      readMore (some ((end? <|> start?).getD Address.current)) (some (next?.getD Address.current))
        semicolon rest := by
  rw [readMore, if_pos (separator_iff.mpr ⟨semicolon, rfl⟩)]
  split
  · rename_i error failed
    cases read.symm.trans failed
  · rename_i found
    cases read.symm.trans found
    simp only [separator_eq_semicolon_iff, Bool.decide_eq_true]

/-- The address and the separator in front of the last address of a chain: those of the last link, or
without any link those in front of them all. -/
def keptLink (front : Address × Bool) (links : List (WrittenAddress × Bool)) : Address × Bool :=
  (links.getLast?.map fun link => (link.1.address, link.2)).getD front

theorem keptLink_cons (front : Address × Bool) (link : WrittenAddress × Bool)
    (links : List (WrittenAddress × Bool)) :
    keptLink front (link :: links) = keptLink (link.1.address, link.2) links := by
  unfold keptLink
  rw [List.getLast?_cons]
  cases links.getLast? <;> rfl

theorem keptLink_concat (front : Address × Bool) (links : List (WrittenAddress × Bool))
    (link : WrittenAddress × Bool) : keptLink front (links ++ [link]) = (link.1.address, link.2) := by
  unfold keptLink
  rw [List.getLast?_concat]
  rfl

/-- Seen from the first address, the last link of a chain is kept. -/
theorem keptLink_of_concat {dropped links : List (WrittenAddress × Bool)} {first start : WrittenAddress}
    {second semicolon : Bool} (all : dropped ++ [(start, semicolon)] = (first, second) :: links) :
    keptLink ((none <|> first.address?).getD Address.current, second) links =
      (start.address, semicolon) := by
  have last := keptLink_concat (first.address, second) dropped (start, semicolon)
  rw [all, keptLink_cons] at last
  show keptLink (first.address?.getD Address.current, second) links = _
  rw [first.getD_address?, last]

/-- Of the addresses behind the first, the last one and the one in front of it are kept. -/
theorem readMore_links {stop : WrittenAddress} {rest : List Char} (stops : stop.StopsAt rest)
    (ends : ∀ c ∈ rest.head?, c ≠ ',' ∧ c ≠ ';') (links : List (WrittenAddress × Bool))
    (start? end? : Option Address) (before semicolon : Bool) :
    let kept := keptLink ((end? <|> start?).getD Address.current, semicolon) links
    readMore start? end? before (separator semicolon :: (linkText links ++ (stop.text ++ rest))) =
      .ok (some (.lines kept.1 (some stop.address) kept.2), rest) := by
  induction links generalizing start? end? before semicolon with
  | nil =>
    rw [linkText, List.flatMap_nil, List.nil_append, readMore_separator (stop.read_text stops),
      readMore_of_stops ends, stop.getD_address?]
    rfl
  | cons link links ih =>
    rw [linkText_cons_append,
      readMore_separator (link.1.read_text (link.1.stopsAt_separator link.2 _)), ih,
      link.1.getD_address?, keptLink_cons]
    rfl

theorem read_of_found {text after : List Char} {first? : Option Address}
    (found : Address.read text = .ok (first?, after)) (other : first? ≠ none ∨ after.head? ≠ some '%') :
    read text = readMore first? none false after := by
  refine read_eq_readMore found fun percent => ?_
  obtain ⟨rest, rfl⟩ : ∃ rest, text = '%' :: rest := by
    cases text with
    | nil => cases percent
    | cons c rest => exact ⟨rest, congrArg (· :: rest) (Option.some.inj percent)⟩
  have trimmed : Text.trimStart ('%' :: rest) = '%' :: rest := Text.trimStart_cons (by decide)
  have bare : Address.readBase (Text.trimStart ('%' :: rest)) = .ok (none, '%' :: rest) := by
    rw [trimmed]
    refine Address.readBase_of_bare ?_
    rintro c ⟨⟩
    decide
  have offsets : Address.readOffsets none ('%' :: rest) = (none, '%' :: rest) :=
    Address.readOffsets_of_ne none (by decide) (by decide)
  have left : Address.read ('%' :: rest) = .ok (none, '%' :: rest) := by
    rw [Address.read_of_readBase bare, offsets]
    rfl
  cases found.symm.trans left
  exact other.elim (absurd rfl) (absurd rfl)

/-- A range that is written is read. -/
theorem read_text {written : WrittenRange} {rest : List Char} (stops : written.StopsAt rest) :
    read (written.text ++ rest) = .ok (some written.range, rest) := by
  cases written with
  | whole => rfl
  | single address given =>
    have found := address.read_text stops.1
    rw [WrittenAddress.address?_of_not_omitted given] at found
    exact (read_of_found found (Or.inl nofun)).trans (readMore_of_stops stops.2)
  | chain dropped start semicolon stop =>
    obtain ⟨⟨first, second⟩, links, all⟩ :
        ∃ link links, dropped ++ [(start, semicolon)] = link :: links :=
      List.exists_cons_of_ne_nil (by simp)
    have text : linkText (dropped ++ [(start, semicolon)]) ++ stop.text ++ rest =
        first.text ++ separator second :: (linkText links ++ (stop.text ++ rest)) := by
      rw [all, List.append_assoc, linkText_cons_append]
    have found := first.read_text (first.stopsAt_separator second (linkText links ++ (stop.text ++ rest)))
    have percent : (separator second :: (linkText links ++ (stop.text ++ rest))).head? ≠ some '%' := by
      cases second <;> exact nofun
    have read := readMore_links stops.1 stops.2 links first.address? none false second
    rw [keptLink_of_concat all] at read
    show Range.read (linkText (dropped ++ [(start, semicolon)]) ++ stop.text ++ rest) = _
    rw [text, read_of_found found (Or.inr percent), read]
    rfl

/-- What is read behind the first address: nothing, or more addresses, each with a separator in front. -/
theorem exists_of_readMore {start? end? : Option Address} {before : Bool} {text rest : List Char}
    {range? : Option Range} (read : readMore start? end? before text = .ok (range?, rest)) :
    (text = rest ∧ range? = start?.map (.lines · end? before)) ∨
      ∃ (semicolon : Bool) (links : List (WrittenAddress × Bool)) (stop : WrittenAddress),
        text = separator semicolon :: (linkText links ++ (stop.text ++ rest)) ∧
          let kept := keptLink ((end? <|> start?).getD Address.current, semicolon) links
          range? = some (.lines kept.1 (some stop.address) kept.2) := by
  -- every address leaves less of the text
  induction size : text.length using Nat.strongRecOn generalizing start? end? before text with
  | ind length ih =>
    cases text with
    | nil =>
      rw [readMore] at read
      cases read
      exact Or.inl ⟨rfl, rfl⟩
    | cons c text =>
      by_cases isSeparator : c = ',' ∨ c = ';'
      · obtain ⟨semicolon, rfl⟩ := separator_iff.mp isSeparator
        cases found : Address.read text with
        | error error =>
          rw [readMore, if_pos isSeparator] at read
          split at read
          · cases read
          · rename_i isRead
            cases found.symm.trans isRead
        | ok next =>
          obtain ⟨next?, after⟩ := next
          rw [readMore_separator found] at read
          obtain ⟨next, written, isNext⟩ := WrittenAddress.exists_of_read found
          have shorter : after.length < length :=
            size ▸ Nat.lt_succ_of_le (Address.length_read found)
          rw [isNext, next.getD_address?] at read
          refine Or.inr ?_
          rcases ih after.length shorter read rfl with
            ⟨ends, isRange⟩ | ⟨second, links, stop, more, isRange⟩
          · exact ⟨semicolon, [], next, by rw [written, ends]; rfl, isRange⟩
          · refine ⟨semicolon, (next, second) :: links, stop, ?_, ?_⟩
            · rw [written, more, linkText_cons_append]
            · rw [keptLink_cons]
              exact isRange
      · rw [readMore, if_neg isSeparator] at read
        cases read
        exact Or.inl ⟨rfl, rfl⟩

/-- A range that is read has been written. -/
theorem exists_of_read {text rest : List Char} {range : Range}
    (read : Range.read text = .ok (some range, rest)) :
    ∃ written : WrittenRange, text = written.text ++ rest ∧ written.range = range := by
  unfold Range.read at read
  split at read
  · cases read
    exact ⟨.whole, rfl, rfl⟩
  · cases found : Address.read text with
    | error error =>
      rw [found] at read
      cases read
    | ok first =>
      obtain ⟨first?, after⟩ := first
      rw [found] at read
      obtain ⟨first, written, rfl⟩ := WrittenAddress.exists_of_read found
      rcases exists_of_readMore read with ⟨rfl, isRange⟩ | ⟨semicolon, links, stop, more, isRange⟩
      · have given : ¬ first.Omitted := by
          intro omitted
          rw [(WrittenAddress.address?_of_omitted omitted).1] at isRange
          cases isRange
        rw [WrittenAddress.address?_of_not_omitted given] at isRange
        exact ⟨.single first given, written, (Option.some.inj isRange).symm⟩
      · -- the first address with its separator is a link itself, so there is a last one
        obtain ⟨dropped, ⟨start, last⟩, all⟩ :
            ∃ dropped link, (first, semicolon) :: links = dropped ++ [link] :=
          ⟨_, _, (List.dropLast_concat_getLast (List.cons_ne_nil _ _)).symm⟩
        dsimp only at isRange
        rw [keptLink_of_concat all.symm] at isRange
        refine ⟨.chain dropped start last stop, ?_, (Option.some.inj isRange).symm⟩
        show text = linkText (dropped ++ [(start, last)]) ++ stop.text ++ rest
        rw [← all, List.append_assoc, linkText_cons_append, ← more]
        exact written

end Range

end ModalEdit.Command

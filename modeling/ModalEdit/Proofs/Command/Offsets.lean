import Mathlib.Data.List.Induction
import ModalEdit.Proofs.Command.Resolving

/-!
The lines of ranges as they are written, compared with those that are computed without any bound on numbers.
Offsets add up as far as 64 bits hold each of their sums, and line zero counts as the first line before any
offset is added to it.
-/

set_option autoImplicit false

namespace ModalEdit.Command

open Number (saturate)

namespace WrittenOffset

/-- The sum of offsets, without any bound. -/
def exactSum (offsets : List WrittenOffset) : Int :=
  (offsets.map value).sum

/-- The sum of offsets, each time stopped at the ends of 64 bits. -/
def stoppedSum (offsets : List WrittenOffset) : Int :=
  offsets.foldl (fun total offset => Number.stop (total + offset.value)) 0

/-- No sum of the first offsets leaves the range of 64 bits. -/
def Fits (offsets : List WrittenOffset) : Prop :=
  ∀ before, before <+: offsets → -2 ^ 63 ≤ exactSum before ∧ exactSum before < 2 ^ 63

theorem exactSum_concat (offsets : List WrittenOffset) (offset : WrittenOffset) :
    exactSum (offsets ++ [offset]) = exactSum offsets + offset.value := by
  unfold exactSum
  rw [List.map_append, List.sum_append]
  simp only [List.map_cons, List.map_nil, List.sum_cons, List.sum_nil, Int.add_zero]

theorem stoppedSum_concat (offsets : List WrittenOffset) (offset : WrittenOffset) :
    stoppedSum (offsets ++ [offset]) = Number.stop (stoppedSum offsets + offset.value) := by
  unfold stoppedSum
  rw [List.foldl_append]
  rfl

/-- Where no sum leaves the range of 64 bits, nothing is ever stopped. -/
theorem stoppedSum_eq_exactSum {offsets : List WrittenOffset} (fits : Fits offsets) :
    stoppedSum offsets = exactSum offsets := by
  induction offsets using List.reverseRecOn with
  | nil => rfl
  | append_singleton offsets offset ih =>
    have before : Fits offsets := fun first isPrefix =>
      fits first (isPrefix.trans (List.prefix_append _ _))
    have whole := fits _ (List.prefix_refl _)
    rw [exactSum_concat] at whole
    rw [stoppedSum_concat, exactSum_concat, ih before]
    unfold Number.stop
    omega

theorem toInt_addTo {offset : WrittenOffset} (small : offset.size < 2 ^ 63) (total : Int64) :
    (addTo total offset).toInt = Number.stop (total.toInt + offset.value) := by
  have kept : saturate offset.size = offset.size :=
    Number.saturate_of_le (by unfold Number.maxCount; omega)
  have size : (Int64.ofIntClamp offset.size).toInt = offset.size := by
    rw [Number.toInt_ofIntClamp_eq_stop]
    unfold Number.stop
    omega
  unfold addTo value
  rw [kept]
  cases offset.negative
  · rw [if_neg Bool.false_ne_true, if_neg Bool.false_ne_true, Number.addClamped,
      Number.toInt_ofIntClamp_eq_stop, size]
  · rw [if_pos rfl, if_pos rfl, Number.subClamped, Number.toInt_ofIntClamp_eq_stop, size,
      Int.sub_eq_add_neg]

/-- Offsets are added up as far as 64 bits hold each sum. -/
theorem toInt_foldl_addTo {offsets : List WrittenOffset}
    (small : ∀ offset ∈ offsets, offset.size < 2 ^ 63) :
    (offsets.foldl addTo 0).toInt = stoppedSum offsets := by
  induction offsets using List.reverseRecOn with
  | nil => rfl
  | append_singleton offsets offset ih =>
    have before : ∀ offset ∈ offsets, offset.size < 2 ^ 63 := fun other member =>
      small other (List.mem_append_left _ member)
    rw [List.foldl_append, stoppedSum_concat, ← ih before]
    exact toInt_addTo (small offset (by simp)) _

end WrittenOffset

/-- The line that an address counts from, from a current line that may be any integer. Line zero counts as the
first. -/
def WrittenBase.lineFrom (current : Int) (last : Nat) (mark : Char → Option Nat) : WrittenBase → Int
  | .current => current
  | .last => last
  | .number line => (line.value - 1 : Nat)
  | .mark name => (mark name).getD 0

namespace WrittenAddress

/-- The numbers in an address can be held by 64 bits. -/
def Small (written : WrittenAddress) : Prop :=
  (∀ line, written.base? = some (.number line) → line.value < 2 ^ 63) ∧
    ∀ offset ∈ written.offsets, offset.size < 2 ^ 63

/-- The line of an address as an integer, its offsets added up in some way. -/
def lineBy (sum : List WrittenOffset → Int) (written : WrittenAddress) (current : Int) (last : Nat)
    (mark : Char → Option Nat) : Int :=
  written.base?.elim current (WrittenBase.lineFrom current last mark) + sum written.offsets

variable {written : WrittenAddress} {current last : Nat} {mark : Char → Option Nat} (small : written.Small)
  (isSet : ¬ written.address.Unset mark) (isLine : current ≤ last) (bounded : last < 2 ^ 62)
  (marked : ∀ name line, mark name = some line → line < 2 ^ 63)

include small isSet isLine bounded marked

/-- Where no mark is missing, an address counts from the line that is written. -/
theorem exists_baseLine :
    ∃ base, written.address.baseLine current last mark = .ok base ∧ base < 2 ^ 63 ∧
      (base : Int) = written.base?.elim (current : Int) (WrittenBase.lineFrom current last mark) := by
  unfold address Address.Unset at isSet
  unfold address Address.baseLine
  cases given : written.base? with
  | none => exact ⟨current, rfl, by omega, rfl⟩
  | some base =>
    cases base with
    | current => exact ⟨current, rfl, by omega, rfl⟩
    | last => exact ⟨last, rfl, by omega, rfl⟩
    | number line =>
      have lineSmall := small.1 line given
      have kept : saturate line.value = line.value :=
        Number.saturate_of_le (by unfold Number.maxCount; omega)
      refine ⟨line.value - 1, ?_, by omega, rfl⟩
      show Except.ok (saturate line.value - 1) = _
      rw [kept]
    | mark name =>
      cases isMarked : mark name with
      | none => exact absurd ⟨name, by rw [given]; rfl, isMarked⟩ isSet
      | some line =>
        refine ⟨line, ?_, marked name line isMarked, ?_⟩
        · dsimp only [Option.elim_some, WrittenBase.base]
          rw [isMarked]
        · show (line : Int) = ((mark name).getD 0 : Nat)
          rw [isMarked]
          rfl

/-- What is read as an address stands for its line, if that is one of the lines. -/
theorem line_address :
    written.address.line current last mark =
      let line := written.lineBy WrittenOffset.stoppedSum current last mark
      if 0 ≤ line ∧ line ≤ last then .ok line.toNat else .error .invalidRange := by
  have offset : written.address.offset.toInt = WrittenOffset.stoppedSum written.offsets :=
    WrittenOffset.toInt_foldl_addTo small.2
  obtain ⟨base, isBase, fits, same⟩ := exists_baseLine small isSet isLine bounded marked
  rw [Address.line_of_bounded isBase fits bounded, offset, same]
  rfl

theorem line_address_eq_ok {line : Nat} (found : written.address.line current last mark = .ok line) :
    (line : Int) = written.lineBy WrittenOffset.stoppedSum current last mark := by
  rw [line_address small isSet isLine bounded marked] at found
  dsimp only at found
  split at found
  · cases found
    omega
  · cases found

theorem line_address_eq_invalidRange_iff :
    written.address.line current last mark = .error .invalidRange ↔
      written.lineBy WrittenOffset.stoppedSum current last mark < 0 ∨
        last < written.lineBy WrittenOffset.stoppedSum current last mark := by
  rw [line_address small isSet isLine bounded marked]
  dsimp only
  split
  · exact iff_of_false nofun (by omega)
  · exact iff_of_true rfl (by omega)

end WrittenAddress

namespace WrittenRange

/-- The addresses of a range that are not forgotten. -/
def addresses : WrittenRange → List WrittenAddress
  | whole => []
  | single address _ => [address]
  | chain _ start _ stop => [start, stop]

/-- The lines of these addresses as integers, their offsets added up in some way. -/
def linesBy (sum : List WrittenOffset → Int) (current : Int) (last : Nat) (mark : Char → Option Nat) :
    WrittenRange → List Int
  | whole => []
  | single address _ => [address.lineBy sum current last mark]
  | chain _ start semicolon stop =>
    let first := start.lineBy sum current last mark
    [first, stop.lineBy sum (if semicolon then first else current) last mark]

/-- Which lines a range stands for, and when it stands for none. -/
structure Resolves (written : WrittenRange) (current last : Nat) (mark : Char → Option Nat) : Prop where
  inside : ∀ first second, written.range.resolve current last mark = .ok (first, second) →
    first ≤ second ∧ second ≤ last
  swapped : ∀ start stop found, written.range = .lines start (some stop) false →
    written.range.resolve current last mark = .ok found →
      Range.resolve (.lines stop (some start) false) current last mark = .ok found
  anchored : ∀ start stop, written.range = .lines start (some stop) true →
    written.range.resolve current last mark =
      (start.line current last mark >>= fun first =>
        Range.resolve (.lines Address.current (some stop) false) first last mark)
  fails : ∀ error, written.range.resolve current last mark = .error error →
    error = .markNotSet ∨ error = .invalidRange
  unset : written.range.resolve current last mark = .error .markNotSet →
    ∃ address ∈ written.addresses, address.address.Unset mark
  outside : (∀ address ∈ written.addresses, ¬ address.address.Unset mark) →
    (written.range.resolve current last mark = .error .invalidRange ↔
      ∃ line ∈ written.linesBy WrittenOffset.stoppedSum current last mark, line < 0 ∨ last < line)
  unstopped : (∀ address ∈ written.addresses, WrittenOffset.Fits address.offsets) →
    written.linesBy WrittenOffset.stoppedSum current last mark =
      written.linesBy WrittenOffset.exactSum current last mark

variable {written : WrittenRange} {current last : Nat} {mark : Char → Option Nat}

/-- A range fails for a mark that is not set, or for a line that is none of the lines. -/
theorem resolve_eq_error {error : ScriptError}
    (failed : written.range.resolve current last mark = .error error) :
    error = .invalidRange ∨
      error = .markNotSet ∧ ∃ address ∈ written.addresses, address.address.Unset mark := by
  cases written with
  | whole => cases failed
  | single address given =>
    exact (Address.line_eq_error (Range.resolve_single_eq_error_iff.mp failed)).imp_right fun unset =>
      ⟨unset.1, address, List.mem_cons_self, unset.2⟩
  | chain dropped start semicolon stop =>
    rcases Range.resolve_pair_eq_error_iff.mp failed with failed | ⟨first, -, failed⟩
    · exact (Address.line_eq_error failed).imp_right fun unset =>
        ⟨unset.1, start, List.mem_cons_self, unset.2⟩
    · exact (Address.line_eq_error failed).imp_right fun unset =>
        ⟨unset.1, stop, List.mem_cons_of_mem _ List.mem_cons_self, unset.2⟩

/-- Where all marks are set, a range fails just if one of its lines is none of the lines of the text. -/
theorem resolve_eq_invalidRange_iff (small : ∀ address ∈ written.addresses, address.Small)
    (areSet : ∀ address ∈ written.addresses, ¬ address.address.Unset mark) (isLine : current ≤ last)
    (bounded : last < 2 ^ 62) (marked : ∀ name line, mark name = some line → line < 2 ^ 63) :
    written.range.resolve current last mark = .error .invalidRange ↔
      ∃ line ∈ written.linesBy WrittenOffset.stoppedSum current last mark, line < 0 ∨ last < line := by
  cases written with
  | whole => exact iff_of_false nofun nofun
  | single address given =>
    have member : address ∈ addresses (single address given) := List.mem_cons_self
    refine Range.resolve_single_eq_error_iff.trans ?_
    rw [WrittenAddress.line_address_eq_invalidRange_iff (small _ member) (areSet _ member) isLine bounded
      marked]
    simp only [linesBy, List.mem_singleton, exists_eq_left]
  | chain dropped start semicolon stop =>
    have first : start ∈ addresses (chain dropped start semicolon stop) := List.mem_cons_self
    have second : stop ∈ addresses (chain dropped start semicolon stop) :=
      List.mem_cons_of_mem _ List.mem_cons_self
    have startFails := WrittenAddress.line_address_eq_invalidRange_iff (small _ first) (areSet _ first)
      isLine bounded marked
    let stopLine := stop.lineBy WrittenOffset.stoppedSum
      (if semicolon then start.lineBy WrittenOffset.stoppedSum current last mark else current) last mark
    -- the second address is looked at only where the first is a line, and then from the same integer
    have stopFails {line : Nat} (isStart : start.address.line current last mark = .ok line) :
        stop.address.line (if semicolon then line else current) last mark = .error .invalidRange ↔
          stopLine < 0 ∨ last < stopLine := by
      have same := WrittenAddress.line_address_eq_ok (small _ first) (areSet _ first) isLine bounded marked
        isStart
      have anchor : (if semicolon then line else current) ≤ last := by
        have lineIn := (Address.line_eq_ok isStart bounded).1
        split <;> assumption
      rw [WrittenAddress.line_address_eq_invalidRange_iff (small _ second) (areSet _ second) anchor bounded
        marked]
      unfold stopLine
      rw [← same]
      cases semicolon <;> rfl
    refine Range.resolve_pair_eq_error_iff.trans ?_
    simp only [linesBy, List.mem_cons, List.not_mem_nil, or_false, or_and_right, exists_or,
      exists_eq_left]
    constructor
    · rintro (failed | ⟨line, isStart, failed⟩)
      · exact Or.inl (startFails.mp failed)
      · exact Or.inr ((stopFails isStart).mp failed)
    · rintro (outside | outside)
      · exact Or.inl (startFails.mpr outside)
      · cases isStart : start.address.line current last mark with
        | error error =>
          rcases Address.line_eq_error isStart with rfl | ⟨-, unset⟩
          · exact Or.inl rfl
          · exact absurd unset (areSet _ first)
        | ok line => exact Or.inr ⟨line, rfl, (stopFails isStart).mpr outside⟩

/-- Where no sum of offsets leaves the range of 64 bits, the lines are the exact ones. -/
theorem linesBy_stoppedSum (fits : ∀ address ∈ written.addresses, WrittenOffset.Fits address.offsets) :
    written.linesBy WrittenOffset.stoppedSum current last mark =
      written.linesBy WrittenOffset.exactSum current last mark := by
  have exact {address : WrittenAddress} (member : address ∈ written.addresses) (current : Int) :
      address.lineBy WrittenOffset.stoppedSum current last mark =
        address.lineBy WrittenOffset.exactSum current last mark := by
    unfold WrittenAddress.lineBy
    rw [WrittenOffset.stoppedSum_eq_exactSum (fits address member)]
  cases written with
  | whole => rfl
  | single address given => exact congrArg ([·]) (exact List.mem_cons_self current)
  | chain dropped start semicolon stop =>
    unfold linesBy
    dsimp only
    rw [exact List.mem_cons_self current, exact (List.mem_cons_of_mem _ List.mem_cons_self)]

/-- A range that has been written stands for lines of the text, whatever they are looked at from. -/
theorem resolves (small : ∀ address ∈ written.addresses, address.Small) (isLine : current ≤ last)
    (bounded : last < 2 ^ 62) (marked : ∀ name line, mark name = some line → line < 2 ^ 63) :
    written.Resolves current last mark where
  inside _ _ found := Range.resolve_le bounded found
  swapped start stop found isRange resolved := by
    rw [isRange] at resolved
    exact Range.resolve_swap resolved
  anchored start stop isRange := by
    rw [isRange]
    exact Range.resolve_semicolon bounded
  fails _ failed := (resolve_eq_error failed).symm.imp_left And.left
  unset failed := (resolve_eq_error failed).elim nofun And.right
  outside areSet := resolve_eq_invalidRange_iff small areSet isLine bounded marked
  unstopped := linesBy_stoppedSum

end WrittenRange

namespace Range

/-- Everything that is read as a range has been written as one or as a chain of addresses, and as such it
stands for lines of the text, for any current line, marks and last line that a text can have. It fails for a
mark that is not set, or because one of its lines is none of the lines, where the line of an address is what
it counts from and its offsets, added up as far as 64 bits hold each sum: the exact line, unless a sum leaves
that range. -/
theorem resolves_of_read {text rest : List Char} {range : Range}
    (parsed : read text = .ok (some range, rest)) :
    (∃ written : WrittenRange, text = written.text ++ rest ∧ written.range = range) ∧
      ∀ (written : WrittenRange) (current last : Nat) (mark : Char → Option Nat),
        text = written.text ++ rest → written.range = range →
          (∀ address ∈ written.addresses, address.Small) → current ≤ last → last < 2 ^ 62 →
            (∀ name line, mark name = some line → line < 2 ^ 63) →
              written.Resolves current last mark :=
  ⟨exists_of_read parsed, fun written _ _ _ _ _ small isLine bounded marked =>
    written.resolves small isLine bounded marked⟩

/-- The second line and the one behind it. -/
theorem resolves_of_read_semicolon :
    let two : WrittenAddress := .tight (some (.number ⟨['2'], List.all_eq_true.mp rfl, nofun⟩)) []
    let next : WrittenAddress := .tight none [⟨false, none⟩]
    let range : Range := .lines ⟨.number 2, 0⟩ (some ⟨.current, 1⟩) true
    read ['2', ';', '+', 'd'] = .ok (some range, ['d']) ∧
      (∀ address ∈ [two, next], address.Small) ∧
        (WrittenRange.chain [] two true next).Resolves 4 9 fun _ => none := by
  intro two next range
  have stops : (WrittenRange.chain [] two true next).StopsAt ['d'] := by
    refine ⟨?_, ?_⟩
    · rintro c ⟨⟩
      exact ⟨rfl, by decide, fun _ => by decide⟩
    · rintro c ⟨⟩
      decide
  have parsed : read ['2', ';', '+', 'd'] = .ok (some range, ['d']) := read_text stops
  have small : ∀ address ∈ [two, next], address.Small := by
    intro address member
    simp only [List.mem_cons, List.not_mem_nil, or_false] at member
    rcases member with rfl | rfl
    · refine ⟨?_, nofun⟩
      rintro line ⟨⟩
      decide
    · refine ⟨nofun, fun offset member => ?_⟩
      rw [List.mem_singleton.mp member]
      decide
  exact ⟨parsed, small, (resolves_of_read parsed).2 (.chain [] two true next) 4 9 (fun _ => none) rfl rfl
    small (by decide) (by decide) nofun⟩

/-- The largest number that 64 bits hold. -/
def largest : WrittenNumber :=
  ⟨"9223372036854775807".toList, List.all_eq_true.mp rfl, by decide⟩

theorem value_largest : largest.value = 2 ^ 63 - 1 := by
  decide

/-- The largest number added twice and taken off twice. -/
def overrun : List WrittenOffset :=
  [⟨false, some largest⟩, ⟨false, some largest⟩, ⟨true, some largest⟩, ⟨true, some largest⟩]

theorem sum_overrun :
    WrittenOffset.exactSum overrun = 0 ∧ WrittenOffset.stoppedSum overrun = -(2 ^ 63 - 1) := by
  have up : WrittenOffset.value ⟨false, some largest⟩ = 2 ^ 63 - 1 :=
    congrArg Nat.cast value_largest
  have down : WrittenOffset.value ⟨true, some largest⟩ = -(2 ^ 63 - 1) :=
    congrArg (fun size : Nat => -(size : Int)) value_largest
  unfold WrittenOffset.exactSum WrittenOffset.stoppedSum overrun
  simp only [List.map_cons, List.map_nil, List.foldl_cons, List.foldl_nil, up, down]
  decide

/-- Behind the first line, exactly that leads back to the first line. It fails all the same, for the sum has
been stopped before anything is taken off. -/
theorem resolve_overrunning :
    let text := ("1+9223372036854775807+9223372036854775807" ++
      "-9223372036854775807-9223372036854775807").toList
    let written : WrittenRange :=
      .single (.tight (some (.number ⟨['1'], List.all_eq_true.mp rfl, nofun⟩)) overrun) nofun
    written.text = text ∧ read text = .ok (some written.range, []) ∧
      (∀ address ∈ written.addresses, address.Small) ∧
        (∀ address ∈ written.addresses, ¬ address.address.Unset fun _ => none) ∧
          written.linesBy WrittenOffset.exactSum 0 9 (fun _ => none) = [0] ∧
            written.range.resolve 0 9 (fun _ => none) = .error .invalidRange := by
  intro text written
  have isText : written.text = text := by decide
  have isRead : read (written.text ++ []) = .ok (some written.range, []) := read_text ⟨nofun, nofun⟩
  rw [List.append_nil, isText] at isRead
  have small : ∀ address ∈ written.addresses, address.Small := by
    intro address member
    rw [List.mem_singleton.mp member]
    refine ⟨?_, fun offset (isOffset : offset ∈ overrun) => ?_⟩
    · rintro line ⟨⟩
      decide
    · have size : offset.size = largest.value := by
        simp only [overrun, List.mem_cons, List.not_mem_nil, or_false] at isOffset
        rcases isOffset with rfl | rfl | rfl | rfl <;> rfl
      rw [size, value_largest]
      decide
  have areSet : ∀ address ∈ written.addresses, ¬ address.address.Unset fun _ => none := by
    intro address member
    rw [List.mem_singleton.mp member]
    rintro ⟨name, ⟨⟩, -⟩
  refine ⟨isText, isRead, small, areSet, ?_, ?_⟩
  · show [(0 : Int) + WrittenOffset.exactSum overrun] = [0]
    rw [sum_overrun.1]
    rfl
  · refine (WrittenRange.resolve_eq_invalidRange_iff small areSet (by decide) (by decide) nofun).mpr ?_
    refine ⟨_, List.mem_singleton_self _, Or.inl ?_⟩
    show (0 : Int) + WrittenOffset.stoppedSum overrun < 0
    rw [sum_overrun.2]
    decide

/-- Two ranges stand for the same lines of every text, or fail alike. -/
def Alike (range other : Range) : Prop :=
  ∀ (current last : Nat) (mark : Char → Option Nat),
    range.resolve current last mark = other.resolve current last mark

end Range

/-- A line number with offsets behind it. -/
def WrittenAddress.ofLine (line : WrittenNumber) (offsets : List WrittenOffset) : WrittenAddress :=
  tight (some (.number line)) offsets

theorem WrittenAddress.line_ofLine {line : WrittenNumber} {offsets : List WrittenOffset}
    (small : line.value < 2 ^ 63) (smallOffsets : ∀ offset ∈ offsets, offset.size < 2 ^ 63)
    (current last : Nat) (mark : Char → Option Nat) :
    (ofLine line offsets).address.line current last mark =
      let found := Number.stop ((line.value - 1 : Nat) + WrittenOffset.stoppedSum offsets)
      if 0 ≤ found ∧ found ≤ last then .ok found.toNat else .error .invalidRange := by
  have isBase : (ofLine line offsets).address.baseLine current last mark = .ok (line.value - 1) := by
    have kept : saturate line.value = line.value :=
      Number.saturate_of_le (by unfold Number.maxCount; omega)
    show Except.ok (saturate line.value - 1) = _
    rw [kept]
  have offset : (ofLine line offsets).address.offset.toInt = WrittenOffset.stoppedSum offsets :=
    WrittenOffset.toInt_foldl_addTo smallOffsets
  rw [Address.line_of_baseLine isBase (by omega), offset]

namespace Range

variable {line plain : WrittenNumber} {offsets : List WrittenOffset} {rest : List Char}

theorem read_ofLine
    (stops : ∀ c ∈ rest.head?, c.isDigit = false ∧ c ∉ ['+', '-', '.', '$', '\'', ',', ';']) :
    read (line.digits ++ offsets.flatMap WrittenOffset.text ++ rest) =
      .ok (some (.lines (WrittenAddress.ofLine line offsets).address none false), rest) := by
  have given : ¬ (WrittenAddress.ofLine line offsets).Omitted := nofun
  refine @read_text (.single _ given) rest ⟨fun c first => ?_, fun c first => ?_⟩
  · obtain ⟨noDigit, noSign⟩ := stops c first
    refine ⟨noDigit, fun member => noSign ?_, fun omitted => absurd omitted given⟩
    exact List.mem_append_left [',', ';'] member
  · have noSign := (stops c first).2
    simp only [List.mem_cons, not_or] at noSign
    exact ⟨noSign.2.2.2.2.2.1, noSign.2.2.2.2.2.2.1⟩

theorem alike_ofLine_iff (small : line.value < 2 ^ 63)
    (smallOffsets : ∀ offset ∈ offsets, offset.size < 2 ^ 63)
    (positive : 1 ≤ plain.value) (smallPlain : plain.value < 2 ^ 63) :
    Alike (.lines (WrittenAddress.ofLine line offsets).address none false)
        (.lines (WrittenAddress.ofLine plain []).address none false) ↔
      (plain.value : Int) = max line.value 1 + WrittenOffset.stoppedSum offsets := by
  have lineOf := WrittenAddress.line_ofLine small smallOffsets
  have plainOf := @WrittenAddress.line_ofLine plain [] smallPlain nofun
  have none : WrittenOffset.stoppedSum [] = 0 := rfl
  constructor
  · intro same
    -- the text whose last line is that of the plain number
    have plainAt : (WrittenAddress.ofLine plain []).address.line 0 (plain.value - 1) (fun _ => .none) =
        .ok (plain.value - 1) := by
      rw [plainOf, none]
      unfold Number.stop
      dsimp only
      rw [if_pos (by omega)]
      congr 1
      omega
    have atLast := same 0 (plain.value - 1) fun _ => .none
    rw [resolve_single, resolve_single, lineOf, plainAt] at atLast
    dsimp only at atLast
    split at atLast
    · have sameLine := congrArg Prod.fst (Except.ok.inj atLast)
      dsimp only at sameLine
      unfold Number.stop at *
      omega
    · cases atLast
  · intro sum current last mark
    have same : (line.value - 1 : Nat) + WrittenOffset.stoppedSum offsets =
        (plain.value - 1 : Nat) + WrittenOffset.stoppedSum [] := by omega
    rw [resolve_single, resolve_single, lineOf, plainOf, same]

/-- A line number with offsets behind it stands for the same lines as a plain line number just if that is the
sum of both, where line zero counts as the first line and sums of offsets are stopped at the ends of 64 bits.
So where no sum leaves that range, line numbers and offsets add up just if the line number is not zero. -/
theorem offsets_add_up_iff {line plain : WrittenNumber} {offsets : List WrittenOffset} {rest : List Char}
    (small : line.value < 2 ^ 63) (smallOffsets : ∀ offset ∈ offsets, offset.size < 2 ^ 63)
    (positive : 1 ≤ plain.value) (smallPlain : plain.value < 2 ^ 63)
    (stops : ∀ c ∈ rest.head?, c.isDigit = false ∧ c ∉ ['+', '-', '.', '$', '\'', ',', ';']) :
    ∃ range plainRange,
      read (line.digits ++ offsets.flatMap WrittenOffset.text ++ rest) = .ok (some range, rest) ∧
        read (plain.digits ++ rest) = .ok (some plainRange, rest) ∧
          (range.Alike plainRange ↔
            (plain.value : Int) = max line.value 1 + WrittenOffset.stoppedSum offsets) ∧
          (WrittenOffset.Fits offsets →
            (plain.value : Int) = line.value + WrittenOffset.exactSum offsets →
              (range.Alike plainRange ↔ line.value ≠ 0)) := by
  have alike := alike_ofLine_iff small smallOffsets positive smallPlain
  have plainRead := @read_ofLine plain [] rest stops
  rw [List.flatMap_nil, List.append_nil] at plainRead
  refine ⟨_, _, read_ofLine stops, plainRead, alike, fun fits sum => ?_⟩
  rw [alike, WrittenOffset.stoppedSum_eq_exactSum fits]
  omega

/-- Line zero and one more: the second line, and not the first. -/
theorem offsets_add_up_iff_zero :
    let zero : WrittenNumber := ⟨['0'], List.all_eq_true.mp rfl, nofun⟩
    let one : WrittenNumber := ⟨['1'], List.all_eq_true.mp rfl, nofun⟩
    (one.value : Int) = zero.value + WrittenOffset.exactSum [⟨false, some one⟩] ∧
      ∃ range plainRange, read ['0', '+', '1'] = .ok (some range, []) ∧
        read ['1'] = .ok (some plainRange, []) ∧ ¬ range.Alike plainRange := by
  intro zero one
  have small : ∀ offset ∈ [(⟨false, some one⟩ : WrittenOffset)], offset.size < 2 ^ 63 := by
    intro offset member
    rw [List.mem_singleton.mp member]
    decide
  obtain ⟨range, plainRange, isRead, plainRead, alike, -⟩ :=
    @offsets_add_up_iff zero one [⟨false, some one⟩] [] (by decide) small (by decide) (by decide) nofun
  refine ⟨rfl, range, plainRange, isRead, plainRead, ?_⟩
  rw [alike]
  decide

end Range

end ModalEdit.Command

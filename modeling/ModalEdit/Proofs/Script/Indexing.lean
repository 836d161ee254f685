import Mathlib.Algebra.Ring.Int.Defs
import Mathlib.Algebra.Ring.Nat
import ModalEdit.Script.Eval

/-!
Items and parts of lists, blobs and texts: which positions have an item, which items are the part
between two positions, and how items and parts go together.
-/

set_option autoImplicit false

namespace ModalEdit.Script

namespace Value

/-! ### Places -/

section Places

variable {α β : Type}

/-- The items whose places lie between two places, both included, in order. -/
def between (first last : Int) (items : List α) : List α :=
  (items.zipIdx.filter fun item => first ≤ item.2 ∧ item.2 ≤ last).map Prod.fst

theorem between_cons (first last : Int) (item : α) (rest : List α) :
    between first last (item :: rest) =
      (if first ≤ 0 ∧ 0 ≤ last then [item] else []) ++ between (first - 1) (last - 1) rest := by
  have shift : (rest.zipIdx 1).filter (fun item => first ≤ item.2 ∧ item.2 ≤ last) =
      (rest.zipIdx.filter fun item => first - 1 ≤ item.2 ∧ item.2 ≤ last - 1).map
        fun item => (item.1, item.2 + 1) := by
    rw [List.zipIdx_succ, List.filter_map]
    congr 2
    funext item
    simp only [Function.comp_apply, decide_eq_decide]
    omega
  unfold between
  rw [List.zipIdx_cons, List.filter_cons, shift]
  by_cases inside : first ≤ 0 ∧ 0 ≤ last
  · simp [inside, Function.comp_def]
  · simp [inside, Function.comp_def]

theorem between_eq (first last : Int) (items : List α) :
    between first last items = (items.take (last + 1).toNat).drop first.toNat := by
  induction items generalizing first last with
  | nil => simp [between]
  | cons item rest ih =>
    rw [between_cons, ih]
    by_cases reached : 0 ≤ last
    · have taken : (last + 1).toNat = (last - 1 + 1).toNat + 1 := by omega
      rw [taken, List.take_succ_cons]
      by_cases started : first ≤ 0
      · have none : first.toNat = 0 := by omega
        have noneLater : (first - 1).toNat = 0 := by omega
        simp [reached, started, none, noneLater]
      · have dropped : first.toNat = (first - 1).toNat + 1 := by omega
        rw [if_neg (by omega), dropped, List.drop_succ_cons, List.nil_append]
    · have none : (last + 1).toNat = 0 := by omega
      have noneLater : (last - 1 + 1).toNat = 0 := by omega
      rw [if_neg (by omega), none, noneLater]
      simp

theorem between_map (f : α → β) (first last : Int) (items : List α) :
    between first last (items.map f) = (between first last items).map f := by
  rw [between_eq, between_eq, List.map_drop, List.map_take]

/-- The single item at a place, if there is one. -/
theorem between_single (place : Int) (items : List α) :
    between (max place 0) (min place (items.length - 1)) items =
      if 0 ≤ place ∧ place < items.length then items[place.toNat]?.toList else [] := by
  rw [between_eq]
  split
  · have taken : (min place (items.length - 1) + 1).toNat = place.toNat + 1 := by omega
    have dropped : (max place 0).toNat = place.toNat := by omega
    rw [taken, dropped, List.drop_take, Nat.add_sub_cancel_left, List.take_one, List.head?_drop]
  · apply List.drop_eq_nil_of_le
    rw [List.length_take]
    omega

theorem part_eq_between (first? last? : Option Int) (items : List α) :
    part first? last? items =
      between (max (fromStart items.length (first?.getD 0)) 0)
        (min (fromStart items.length (last?.getD (-1))) (items.length - 1)) items := by
  rw [between_eq]
  unfold part
  dsimp only
  split
  · apply (List.drop_eq_nil_of_le _).symm
    rw [List.length_take]
    omega
  · rw [List.drop_take]
    congr 1
    omega

/-- What lies before a position and what lies behind it. -/
theorem part_append_part {position : Int} (positive : 1 ≤ position) (items : List α) :
    part none (some (position - 1)) items ++ part (some position) none items = items := by
  have before : fromStart items.length (position - 1) = position - 1 := if_neg (by omega)
  have behind : fromStart items.length position = position := if_neg (by omega)
  have first : fromStart items.length 0 = 0 := rfl
  have last : fromStart items.length (-1) = items.length + -1 := rfl
  rw [part_eq_between, part_eq_between, between_eq, between_eq]
  simp only [Option.getD_none, Option.getD_some, before, behind, first, last]
  have taken : (min (position - 1) (items.length - 1 : Int) + 1).toNat =
      min position.toNat items.length := by omega
  have all : (min (items.length + -1 : Int) (items.length - 1) + 1).toNat = items.length := by omega
  have dropped : (max position 0).toNat = position.toNat := by omega
  have none : (max (0 : Int) 0).toNat = 0 := rfl
  rw [taken, all, dropped, none, ← List.take_eq_take_min, List.take_length, List.drop_zero,
    List.take_append_drop]

theorem itemAt?_eq_some_iff (items : List α) (position : Int) (item : α) :
    itemAt? items position = some item ↔ 0 ≤ fromStart items.length position ∧
      fromStart items.length position < items.length ∧
      items[(fromStart items.length position).toNat]? = some item := by
  unfold itemAt? place?
  dsimp only
  split
  · rename_i inside
    simp [inside]
  · rename_i outside
    simp only [Option.bind_none]
    constructor
    · intro none
      cases none
    · intro inside
      exact absurd ⟨inside.1, inside.2.1⟩ outside

theorem itemAt?_map (f : α → β) (items : List α) (position : Int) :
    itemAt? (items.map f) position = (itemAt? items position).map f := by
  unfold itemAt?
  rw [List.length_map]
  cases place? items.length position <;> simp

theorem part_map (f : α → β) (first? last? : Option Int) (items : List α) :
    part first? last? (items.map f) = (part first? last? items).map f := by
  rw [part_eq_between, part_eq_between, List.length_map, between_map]

/-- The part from a position to the same position is the item there, if there is one. -/
theorem part_single (position : Int) (items : List α) :
    part (some position) (some position) items = (itemAt? items position).toList := by
  rw [part_eq_between, Option.getD_some, Option.getD_some, between_single]
  unfold itemAt? place?
  dsimp only
  split <;> rfl

end Places

/-! ### Containers -/

/-- What a value holds, one by one: the bytes of a blob as numbers, and the characters of a text as
texts. -/
def items? : Value → Option (List Value)
  | list items => some items
  | blob bytes => some (bytes.map fun byte => number (Int64.ofNat byte.toNat))
  | string text => some (text.toList.map fun c => string (String.ofList [c]))
  | _ => none

/-- An item of a list or a blob. -/
theorem index_eq_ok_iff {whole : Value} {items : List Value} (holds : whole.items? = some items)
    (noText : whole.type ≠ .string) (i : Int64) (item : Value) :
    whole.index (number i) = .ok item ↔ itemAt? items i.toInt = some item := by
  have isInteger : (number i).toInteger = .ok i := rfl
  cases whole with
  | list others =>
    cases holds
    cases found : itemAt? items i.toInt <;>
      simp [index, isInteger, found, bind, Except.bind, pure, Except.pure, throw, throwThe,
        MonadExceptOf.throw]
  | blob bytes =>
    cases holds
    rw [itemAt?_map]
    cases found : itemAt? bytes i.toInt <;>
      simp [index, isInteger, found, bind, Except.bind, pure, Except.pure, throw, throwThe,
        MonadExceptOf.throw]
  | string text => exact absurd rfl noText
  | number | float | dict | funcref => cases holds

/-- The part of a list, a blob or a text between two positions. -/
theorem slice_spec {whole : Value} {items : List Value} (holds : whole.items? = some items)
    (first? last? : Option Int64) :
    ∃ cut, whole.slice first? last? = .ok cut ∧ cut.type = whole.type ∧
      cut.items? = some (part (first?.map Int64.toInt) (last?.map Int64.toInt) items) := by
  cases whole with
  | list others =>
    cases holds
    exact ⟨_, rfl, rfl, rfl⟩
  | blob bytes =>
    cases holds
    rw [part_map]
    exact ⟨_, rfl, rfl, rfl⟩
  | string text =>
    cases holds
    rw [part_map]
    refine ⟨_, rfl, rfl, ?_⟩
    simp [items?]
  | number | float | dict | funcref => cases holds

/-- A list or a blob is its part before a position and its part behind it together. -/
theorem slice_add_slice {whole : Value} {items : List Value} (holds : whole.items? = some items)
    (noText : whole.type ≠ .string) {k : Int64} (positive : 1 ≤ k) :
    ∃ before behind, whole.slice none (some (k - 1)) = .ok before ∧
      whole.slice (some k) none = .ok behind ∧
      BinaryOperator.add.apply before behind = .ok whole := by
  have one : (1 : Int64).toInt = 1 := rfl
  have least : 1 ≤ k.toInt := Int64.le_iff_toInt_le.mp positive
  have most := k.toInt_lt
  have exact : (k - 1).toInt = k.toInt - 1 := by
    rw [Int64.toInt_sub, one]
    exact Int.bmod_eq_of_le_mul_two (by omega) (by omega)
  cases whole with
  | list others =>
    refine ⟨_, _, rfl, rfl, ?_⟩
    simp only [BinaryOperator.apply, Option.map_none, Option.map_some, exact, part_append_part least]
  | blob bytes =>
    refine ⟨_, _, rfl, rfl, ?_⟩
    simp only [BinaryOperator.apply, Option.map_none, Option.map_some, exact, part_append_part least]
  | string text => exact absurd rfl noText
  | number | float | dict | funcref => cases holds

/-- What there is at a position, if anything is. -/
theorem toOption_index {whole : Value} {items : List Value} (holds : whole.items? = some items)
    (noText : whole.type ≠ .string) (i : Int64) :
    (whole.index (number i)).toOption = itemAt? items i.toInt := by
  apply Option.ext
  intro item
  rw [← index_eq_ok_iff holds noText]
  cases whole.index (number i) <;> simp [Except.toOption]

/-- The place of a position is found without leaving 64 bits, and so is the last place. -/
theorem toInt_fromStart {length : Nat} (fits : length < 2 ^ 63) (i : Int64) :
    (if i < 0 then Int64.ofNat length + i else i).toInt = fromStart length i.toInt ∧
      (Int64.ofNat length - 1).toInt = length - 1 := by
  have one : (1 : Int64).toInt = 1 := rfl
  have isNegative : i < 0 ↔ i.toInt < 0 := Int64.lt_iff_toInt_lt
  have count : (Int64.ofNat length).toInt = length := Int64.toInt_ofNat_of_lt fits
  have low := i.le_toInt
  have high := i.toInt_lt
  constructor
  · unfold fromStart
    by_cases negative : i.toInt < 0
    · rw [if_pos (isNegative.mpr negative), if_pos negative, Int64.toInt_add, count]
      exact Int.bmod_eq_of_le_mul_two (by omega) (by omega)
    · rw [if_neg (mt isNegative.mp negative), if_neg negative]
  · rw [Int64.toInt_sub, count, one]
    exact Int.bmod_eq_of_le_mul_two (by omega) (by omega)

end Value

/-! ### Expressions -/

namespace Expr

variable {environment : Environment} {target : Expr} {whole : Value}

theorem eval_index {position : Expr} {key : Value} (evaluated : target.eval environment = .ok whole)
    (isKey : position.eval environment = .ok key) :
    (index target position).eval environment = whole.index key := by
  simp [eval, evaluated, isKey, bind, Except.bind]

theorem eval_slice {first? last? : Option Expr} {a? b? : Option Int64}
    (evaluated : target.eval environment = .ok whole)
    (isFirst : evalBound environment first? = .ok a?)
    (isLast : evalBound environment last? = .ok b?) :
    (slice target first? last?).eval environment = whole.slice a? b? := by
  simp [eval, evaluated, isFirst, isLast, bind, Except.bind]

theorem eval_add {left right : Expr} {a b : Value} (isLeft : left.eval environment = .ok a)
    (isRight : right.eval environment = .ok b) :
    (binary .add left right).eval environment = BinaryOperator.add.apply a b := by
  simp [eval, isLeft, isRight, bind, Except.bind]

theorem evalBound_number {bound : Expr} {i : Int64}
    (evaluated : bound.eval environment = .ok (.number i)) :
    evalBound environment (some bound) = .ok (some i) := by
  simp [evalBound, evaluated, Value.toInteger, Value.toNumber, bind, Except.bind, pure, Except.pure]

/-- A position has an item just if its place is one of the container, and the part between two
positions is what lies between their places, as far as the container goes. So the part from a
position to itself is the item there, and a container is its part before a position and its part
behind it together. None of this leaves 64 bits. -/
theorem index_slice_agree {items : List Value} (evaluated : target.eval environment = .ok whole)
    (holds : whole.items? = some items) :
    let count : Int := items.length
    let place (i : Int64) : Int := if 0 ≤ i.toInt then i.toInt else count + i.toInt
    (∀ first? last? a? b?, evalBound environment first? = .ok a? →
      evalBound environment last? = .ok b? →
      ∃ part, (slice target first? last?).eval environment = .ok part ∧ part.type = whole.type ∧
        part.items? = some (Value.between (max (place (a?.getD 0)) 0)
          (min (place (b?.getD (-1))) (count - 1)) items)) ∧
    (whole.type ≠ .string → ∀ position i, position.eval environment = .ok (.number i) →
      (∀ item, (index target position).eval environment = .ok item ↔
        0 ≤ place i ∧ place i < count ∧ items[(place i).toNat]? = some item) ∧
      ∃ part, (slice target (some position) (some position)).eval environment = .ok part ∧
        part.type = whole.type ∧
        part.items? = some ((index target position).eval environment).toOption.toList) ∧
    (whole.type ≠ .string → ∀ before behind k, before.eval environment = .ok (.number (k - 1)) →
      behind.eval environment = .ok (.number k) → 1 ≤ k →
      (binary .add (slice target none (some before)) (slice target (some behind) none)).eval
        environment = .ok whole) ∧
    (items.length < 2 ^ 63 → ∀ i : Int64,
      (if i < 0 then Int64.ofNat items.length + i else i).toInt = place i ∧
        (Int64.ofNat items.length - 1).toInt = count - 1) := by
  intro count place
  have isPlace (i : Int64) : Value.fromStart items.length i.toInt = place i := by
    show (if i.toInt < 0 then _ else _) = if 0 ≤ i.toInt then _ else _
    split <;> split <;> omega
  refine ⟨?_, ?_, ?_, ?_⟩
  · intro first? last? a? b? isFirst isLast
    obtain ⟨part, isSlice, sameType, isPart⟩ := Value.slice_spec holds a? b?
    have first : (a?.map Int64.toInt).getD 0 = (a?.getD 0).toInt := by cases a? <;> rfl
    have last : (b?.map Int64.toInt).getD (-1) = (b?.getD (-1)).toInt := by cases b? <;> rfl
    rw [Value.part_eq_between, first, last, isPlace, isPlace] at isPart
    rw [eval_slice evaluated isFirst isLast]
    exact ⟨part, isSlice, sameType, isPart⟩
  · intro noText position i isAt
    have isBound := evalBound_number isAt
    rw [eval_index evaluated isAt, eval_slice evaluated isBound isBound]
    constructor
    · intro item
      rw [Value.index_eq_ok_iff holds noText, Value.itemAt?_eq_some_iff, isPlace]
    · rw [Value.toOption_index holds noText, ← Value.part_single]
      exact Value.slice_spec holds (some i) (some i)
  · intro noText before behind k isBefore isBehind positive
    obtain ⟨first, second, isFirst, isSecond, together⟩ :=
      Value.slice_add_slice holds noText positive
    have evalFirst : (slice target none (some before)).eval environment = .ok first :=
      (eval_slice evaluated rfl (evalBound_number isBefore)).trans isFirst
    have evalSecond : (slice target (some behind) none).eval environment = .ok second :=
      (eval_slice evaluated (evalBound_number isBehind) rfl).trans isSecond
    exact (eval_add evalFirst evalSecond).trans together
  · intro fits i
    rw [← isPlace]
    exact Value.toInt_fromStart fits i

/-- Two of three bytes, from the least position that there is to the last but one, and the byte there. -/
theorem index_slice_agree_least :
    let target : Expr := .blob [7, 8, 9]
    let least : Expr := .number Int64.minValue
    let position : Expr := .number (-2)
    (∃ part, (slice target (some least) (some position)).eval {} = .ok part ∧ part.type = .blob ∧
      part.items? = some [.number 7, .number 8]) ∧
    (index target position).eval {} = .ok (.number 8) ∧
    (binary .add (slice target none (some (.number 1))) (slice target (some (.number 2)) none)).eval {} =
      .ok (.blob [7, 8, 9]) := by
  intro target least position
  have agree := @index_slice_agree {} target (.blob [7, 8, 9]) [.number 7, .number 8, .number 9] rfl rfl
  refine ⟨?_, ?_, ?_⟩
  · exact agree.1 (some least) (some position) (some Int64.minValue) (some (-2)) rfl rfl
  · apply ((agree.2.1 nofun position (-2) rfl).1 (.number 8)).mpr
    exact ⟨by decide, by decide, rfl⟩
  · exact agree.2.2.1 nofun (.number 1) (.number 2) 2 rfl rfl (by decide)

end Expr

end ModalEdit.Script

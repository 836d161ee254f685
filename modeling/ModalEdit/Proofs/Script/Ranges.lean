import Mathlib.Algebra.Ring.Int.Defs
import ModalEdit.Proofs.Number.Digits
import ModalEdit.Script.Function

/-!
Ranges are arithmetic progressions: which ranges there are, and that their numbers are those of exact
arithmetic, at both ends of what 64 bits hold as well.
-/

set_option autoImplicit false

namespace ModalEdit.Script.Builtin

/-! ### The numbers of a progression -/

/-- Whether `n` has not passed the last number, on the way that the sign of the stride gives. -/
def Reaches (last stride n : Int) : Prop :=
  (0 < stride ∧ n ≤ last) ∨ (stride < 0 ∧ last ≤ n)

/-- The numbers `first`, `first + stride` and so on that do not pass the last number, in order. -/
def IsProgression (first last stride : Int) (numbers : List Int64) : Prop :=
  ∀ (i : Nat) (n : Int64), numbers[i]? = some n ↔
    n.toInt = first + i * stride ∧ Reaches last stride (first + i * stride)

/-- What lies behind a number that has passed the last one has passed it too. -/
theorem not_reaches_later {first last stride : Int} (passed : ¬ Reaches last stride first) (i : Nat) :
    ¬ Reaches last stride (first + i * stride) := by
  intro reaches
  apply passed
  rcases reaches with ⟨up, below⟩ | ⟨down, above⟩
  · have forward : 0 ≤ (i : Int) * stride := Int.mul_nonneg (Int.natCast_nonneg i) (by omega)
    exact .inl ⟨up, by omega⟩
  · have backward : (i : Int) * stride ≤ 0 :=
      Int.mul_nonpos_of_nonneg_of_nonpos (Int.natCast_nonneg i) (by omega)
    exact .inr ⟨down, by omega⟩

namespace IsProgression

variable {first last stride : Int} {numbers : List Int64}

theorem nil (passed : ¬ Reaches last stride first) : IsProgression first last stride [] := by
  intro i n
  constructor
  · intro none
    simp at none
  · intro member
    exact absurd member.2 (not_reaches_later passed i)

theorem cons {n : Int64} (isFirst : n.toInt = first) (reaches : Reaches last stride first)
    (later : IsProgression (first + stride) last stride numbers) :
    IsProgression first last stride (n :: numbers) := by
  intro i m
  cases i with
  | zero =>
    have start : first + ((0 : Nat) : Int) * stride = first := by omega
    rw [start, List.getElem?_cons_zero, Option.some_inj, ← Int64.toInt_inj, isFirst]
    constructor
    · intro same
      exact ⟨same.symm, reaches⟩
    · intro same
      exact same.1.symm
  | succ i =>
    have shift : first + ((i + 1 : Nat) : Int) * stride = first + stride + i * stride := by
      rw [Int.natCast_succ, Int.add_mul]
      omega
    rw [shift, List.getElem?_cons_succ]
    exact later i m

end IsProgression

/-- The loop adds a progression to the numbers before it. -/
theorem progression_spec (last stride : Int64) (before : Array Int64) (n : Int64) :
    ∃ numbers, (progression last stride before n).toList = before.toList ++ numbers ∧
      IsProgression n.toInt last.toInt stride.toInt numbers := by
  have least : Int64.minValue.toInt = -2 ^ 63 := rfl
  have most : Int64.maxValue.toInt = 2 ^ 63 - 1 := rfl
  have low := last.le_toInt
  have high := last.toInt_lt
  fun_induction progression last stride before n with
  | case1 before n within next isNext ih =>
    obtain ⟨numbers, added, isProgression⟩ := ih
    refine ⟨n :: numbers, ?_, ?_⟩
    · rw [added, Array.toList_push, List.append_assoc]
      rfl
    · rw [isWithin_iff] at within
      rw [sum?_eq_some_iff] at isNext
      rw [isNext] at isProgression
      exact .cons rfl within isProgression
  | case2 before n within noNext =>
    -- The next number would pass every number that 64 bits hold.
    refine ⟨[n], Array.toList_push, ?_⟩
    rw [isWithin_iff] at within
    have outside : ¬ (Int64.minValue.toInt ≤ n.toInt + stride.toInt ∧
        n.toInt + stride.toInt ≤ Int64.maxValue.toInt) := by
      intro fits
      rw [sum?, if_pos fits] at noNext
      cases noNext
    have lowest := n.le_toInt
    have highest := n.toInt_lt
    apply IsProgression.cons rfl within
    apply IsProgression.nil
    intro reaches
    rcases reaches with ⟨up, below⟩ | ⟨down, above⟩ <;> omega
  | case3 before n without =>
    refine ⟨[], (List.append_nil _).symm, ?_⟩
    rw [isWithin_iff] at without
    exact .nil without

/-! ### Ranges -/

/-- Whether a range starts more than one step of one behind its end. -/
def StartsPastEnd (start stop stride : Int) : Prop :=
  (0 < stride ∧ stop + 1 < start) ∨ (stride < 0 ∧ start < stop - 1)

theorem clamp_lt_iff (last first : Int64) :
    Int64.ofIntClamp (last.toInt + 1) < first ↔ last.toInt + 1 < first.toInt := by
  rw [Int64.lt_iff_toInt_lt, Number.toInt_ofIntClamp_eq_stop, Number.stop]
  have low := last.le_toInt
  have high := first.toInt_lt
  omega

theorem lt_clamp_iff (first last : Int64) :
    first < Int64.ofIntClamp (last.toInt - 1) ↔ first.toInt < last.toInt - 1 := by
  rw [Int64.lt_iff_toInt_lt, Number.toInt_ofIntClamp_eq_stop, Number.stop]
  have low := first.le_toInt
  have high := last.toInt_lt
  omega

/-- The room of one step stops at the ends of what 64 bits hold, which makes no difference. -/
theorem rangeOf_eq (start stop stride : Int64) (some : stride.toInt ≠ 0) :
    (StartsPastEnd start.toInt stop.toInt stride.toInt ∧
      rangeOf start stop stride = .error .startPastEnd) ∨
    (¬ StartsPastEnd start.toInt stop.toInt stride.toInt ∧
      rangeOf start stop stride = .ok (progression stop stride #[] start).toList) := by
  have nonzero : stride ≠ 0 := by
    intro none
    exact some (congrArg Int64.toInt none)
  have isUp : 0 < stride ↔ 0 < stride.toInt := Int64.lt_iff_toInt_lt
  have isDown : stride < 0 ↔ stride.toInt < 0 := Int64.lt_iff_toInt_lt
  unfold rangeOf StartsPastEnd
  rw [if_neg nonzero]
  simp only [clamp_lt_iff, lt_clamp_iff, isUp, isDown]
  by_cases up : 0 < stride.toInt ∧ stop.toInt + 1 < start.toInt
  · rw [if_pos up]
    exact .inl ⟨.inl up, rfl⟩
  · rw [if_neg up]
    by_cases down : stride.toInt < 0 ∧ start.toInt < stop.toInt - 1
    · rw [if_pos down]
      exact .inl ⟨.inr down, rfl⟩
    · rw [if_neg down]
      refine .inr ⟨?_, rfl⟩
      intro past
      rcases past with upwards | downwards
      · exact up upwards
      · exact down downwards

/-- The result is an error with this code. -/
def FailsWith (result : Except ScriptError Value) (code : String) : Prop :=
  ∃ error, result = .error error ∧ error.code? = some code

/-- What a range gives: an error without a stride and where it starts past its end, and else the
numbers of the progression. -/
structure IsRange (start stop stride : Int) (result : Except ScriptError Value) : Prop where
  noStride : FailsWith result "E726" ↔ stride = 0
  pastEnd : FailsWith result "E727" ↔ StartsPastEnd start stop stride
  numbers : stride ≠ 0 → ¬ StartsPastEnd start stop stride →
    ∃ numbers, result = .ok (.list (numbers.map .number)) ∧ IsProgression start stop stride numbers

theorem failsWith_error_iff (error : ScriptError) (code : String) :
    FailsWith (.error error) code ↔ error.code? = some code := by
  constructor
  · intro fails
    obtain ⟨other, same, isCode⟩ := fails
    cases same
    exact isCode
  · intro isCode
    exact ⟨error, rfl, isCode⟩

theorem not_failsWith_ok (value : Value) (code : String) : ¬ FailsWith (.ok value) code := by
  intro fails
  obtain ⟨error, same, -⟩ := fails
  cases same

namespace IsRange

variable {start stop stride : Int}

theorem of_noStride (none : stride = 0) : IsRange start stop stride (.error .strideIsZero) := by
  constructor
  · rw [failsWith_error_iff]
    simp [ScriptError.code?, none]
  · rw [failsWith_error_iff]
    simp [ScriptError.code?, StartsPastEnd, none]
  · intro some
    exact absurd none some

theorem of_pastEnd (past : StartsPastEnd start stop stride) :
    IsRange start stop stride (.error .startPastEnd) := by
  constructor
  · rw [failsWith_error_iff]
    unfold StartsPastEnd at past
    have nonzero : stride ≠ 0 := by omega
    simp [ScriptError.code?, nonzero]
  · rw [failsWith_error_iff]
    simp [ScriptError.code?, past]
  · intro _ within
    exact absurd past within

theorem of_numbers {numbers : List Int64} (some : stride ≠ 0)
    (within : ¬ StartsPastEnd start stop stride)
    (isProgression : IsProgression start stop stride numbers) :
    IsRange start stop stride (.ok (.list (numbers.map .number))) := by
  constructor
  · simp [not_failsWith_ok, some]
  · simp [not_failsWith_ok, within]
  · intro _ _
    exact ⟨numbers, rfl, isProgression⟩

end IsRange

theorem isRange_rangeOf (start stop stride : Int64) :
    IsRange start.toInt stop.toInt stride.toInt
      ((rangeOf start stop stride).map fun numbers => .list (numbers.map .number)) := by
  by_cases none : stride.toInt = 0
  · have zero : stride = 0 := Int64.toInt_inj.mp none
    rw [zero]
    exact .of_noStride rfl
  · rcases rangeOf_eq start stop stride none with ⟨past, fails⟩ | ⟨within, succeeds⟩
    · rw [fails]
      exact .of_pastEnd past
    · obtain ⟨numbers, isList, isProgression⟩ := progression_spec stop stride #[] start
      rw [succeeds, isList]
      exact .of_numbers none within isProgression

theorem callFunction_range (environment : Environment) {arguments : List Value}
    (found : find "range" arguments.length = .ok .range) :
    callFunction environment "range" arguments =
      rangeValue (arguments[0]?.getD default) arguments[1]? arguments[2]? := by
  rw [callFunction_of_find environment found (by decide)]
  rfl

theorem rangeValue_numbers (start stop stride : Int64) :
    rangeValue (.number start) (some (.number stop)) (some (.number stride)) =
      (rangeOf start stop stride).map fun numbers => .list (numbers.map .number) := by
  cases result : rangeOf start stop stride <;>
    simp [rangeValue, Value.toInteger, Value.toNumber, result, bind, Except.bind, pure, Except.pure,
      Except.map]

/-- The bound of a single argument is the number in front of it, unless there is none. -/
theorem rangeValue_single (n : Int64) :
    rangeValue (.number n) none none =
      if n = Int64.minValue then .error .startPastEnd
      else rangeValue (.number 0) (some (.number (n - 1))) (some (.number 1)) := by
  by_cases least : n = Int64.minValue
  · simp [rangeValue, Value.toInteger, Value.toNumber, least, bind, Except.bind, throw, throwThe,
      MonadExceptOf.throw]
  · simp [rangeValue, Value.toInteger, Value.toNumber, least, bind, Except.bind, pure, Except.pure]

theorem toInt_sub_one {n : Int64} (notLeast : n ≠ Int64.minValue) :
    (n - 1).toInt = n.toInt - 1 := by
  have low := n.le_toInt
  have high := n.toInt_lt
  have above : n.toInt ≠ -2 ^ 63 := by
    intro least
    exact notLeast (Int64.toInt_inj.mp least)
  have one : (1 : Int64).toInt = 1 := rfl
  rw [Int64.toInt_sub, one]
  exact Int.bmod_eq_of_le_mul_two (by omega) (by omega)

/-- A range of three numbers is what exact arithmetic makes of them, a range of two goes on in steps
of one, and a range of one number goes from zero to the number in front of it, which is taken exactly
as well. -/
theorem range_is_progression (environment : Environment) :
    let range (arguments : List Int64) := callFunction environment "range" (arguments.map .number)
    (∀ start stop stride : Int64,
      IsRange start.toInt stop.toInt stride.toInt (range [start, stop, stride])) ∧
    (∀ start stop : Int64, range [start, stop] = range [start, stop, 1]) ∧
    (∀ n : Int64, IsRange 0 (n.toInt - 1) 1 (range [n])) ∧
    (∀ n stop : Int64, stop.toInt = n.toInt - 1 → range [n] = range [0, stop]) := by
  intro range
  have three (start stop stride : Int64) : range [start, stop, stride] =
      rangeValue (.number start) (some (.number stop)) (some (.number stride)) :=
    callFunction_range environment rfl
  have two (start stop : Int64) : range [start, stop] =
      rangeValue (.number start) (some (.number stop)) none :=
    callFunction_range environment rfl
  have one (n : Int64) : range [n] = rangeValue (.number n) none none :=
    callFunction_range environment rfl
  have exact (start stop stride : Int64) :
      IsRange start.toInt stop.toInt stride.toInt (range [start, stop, stride]) := by
    rw [three, rangeValue_numbers]
    exact isRange_rangeOf start stop stride
  refine ⟨exact, ?_, ?_, ?_⟩
  · intro start stop
    rw [two, three]
    rfl
  · intro n
    rw [one, rangeValue_single]
    split
    · rename_i least
      rw [least]
      exact .of_pastEnd (.inl (by decide))
    · rename_i notLeast
      rw [← toInt_sub_one notLeast, ← three]
      exact exact 0 (n - 1) 1
  · intro n stop before
    have low := stop.le_toInt
    have notLeast : n ≠ Int64.minValue := by
      intro least
      rw [least, Int64.toInt_minValue] at before
      omega
    have same : stop = n - 1 := by
      rw [← Int64.toInt_inj, before, toInt_sub_one notLeast]
    rw [one, rangeValue_single, if_neg notLeast, same, two]
    rfl

/-- The last step to the largest number of all, behind which there is no other. -/
theorem range_is_progression_largest :
    callFunction {} "range" ([9223372036854775805, 9223372036854775807, 2].map .number) =
      .ok (.list [.number 9223372036854775805, .number 9223372036854775807]) := by
  have isRange := (range_is_progression {}).1 9223372036854775805 9223372036854775807 2
  have within : ¬ StartsPastEnd (Int64.toInt 9223372036854775805) (Int64.toInt 9223372036854775807)
      (Int64.toInt 2) := by
    unfold StartsPastEnd
    decide
  obtain ⟨numbers, result, isProgression⟩ := isRange.numbers (by decide) within
  have isNumbers : numbers = [9223372036854775805, 9223372036854775807] := by
    apply List.ext_getElem?
    intro i
    match i with
    | 0 => exact (isProgression 0 9223372036854775805).mpr ⟨by decide, .inl (by decide)⟩
    | 1 => exact (isProgression 1 9223372036854775807).mpr ⟨by decide, .inl (by decide)⟩
    | i + 2 =>
      have first : Int64.toInt 9223372036854775805 = 9223372036854775805 := rfl
      have last : Int64.toInt 9223372036854775807 = 9223372036854775807 := rfl
      have stride : Int64.toInt 2 = 2 := rfl
      refine Option.eq_none_iff_forall_ne_some.mpr ?_
      intro n member
      have reaches := ((isProgression (i + 2) n).mp member).2
      rw [first, last, stride] at reaches
      rcases reaches with ⟨_, below⟩ | ⟨down, _⟩ <;> omega
  rw [isNumbers] at result
  exact result

end ModalEdit.Script.Builtin

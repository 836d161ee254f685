import Mathlib.Algebra.Ring.Int.Defs
import Mathlib.Algebra.Ring.Nat
import Mathlib.Tactic.SplitIfs
import ModalEdit.Proofs.Command.Written
import ModalEdit.Proofs.Number.Digits

/-!
The lines that ranges stand for: those of one address, of two, and of a chain of addresses. Of a chain only
the last two are looked at, the first of them from the line that was current at the beginning.
-/

set_option autoImplicit false

namespace ModalEdit

namespace Command

namespace Address

variable {address : Address} {current last : Nat} {mark : Char → Option Nat}

/-- The address counts from a mark that is not set. -/
def Unset (address : Address) (mark : Char → Option Nat) : Prop :=
  ∃ name, address.base = .mark name ∧ mark name = none

theorem line_of_unset (unset : address.Unset mark) :
    address.line current last mark = .error .markNotSet := by
  obtain ⟨name, isMark, none⟩ := unset
  have isBase : address.baseLine current last mark = .error .markNotSet := by
    unfold baseLine
    rw [isMark]
    dsimp only
    rw [none]
  unfold line
  rw [isBase]
  rfl

theorem exists_baseLine_of_not_unset (isSet : ¬ address.Unset mark) :
    ∃ base, address.baseLine current last mark = .ok base := by
  unfold baseLine
  cases isBase : address.base with
  | current | last | number => exact ⟨_, rfl⟩
  | mark name =>
    dsimp only
    cases marked : mark name with
    | none => exact absurd ⟨name, isBase, marked⟩ isSet
    | some line => exact ⟨line, rfl⟩

/-- The line of an address is what it counts from and its offset, added up as far as 64 bits hold it. -/
theorem line_of_baseLine {base : Nat} (isBase : address.baseLine current last mark = .ok base)
    (fits : base < 2 ^ 63) :
    address.line current last mark =
      let line := Number.stop (base + address.offset.toInt)
      if 0 ≤ line ∧ line ≤ last then .ok line.toNat else .error .invalidRange := by
  have largest : Int64.maxValue.toInt = 2 ^ 63 - 1 := Int64.toInt_maxValue
  have sum : (Number.addClamped (Int64.ofNat base) address.offset).toInt =
      Number.stop (base + address.offset.toInt) := by
    rw [Number.addClamped, Number.toInt_ofIntClamp_eq_stop, Int64.toInt_ofNat_of_lt fits]
  unfold line
  rw [isBase]
  dsimp only [Except.bind, bind]
  rw [if_neg (by omega), sum]
  rfl

/-- No line of a text is that far that the sum would have been stopped. -/
theorem line_of_bounded {base : Nat} (isBase : address.baseLine current last mark = .ok base)
    (fits : base < 2 ^ 63) (bounded : last < 2 ^ 62) :
    address.line current last mark =
      let line := base + address.offset.toInt
      if 0 ≤ line ∧ line ≤ last then .ok line.toNat else .error .invalidRange := by
  rw [line_of_baseLine isBase fits]
  unfold Number.stop
  dsimp only
  by_cases inside : 0 ≤ base + address.offset.toInt ∧ base + address.offset.toInt ≤ last
  · rw [if_pos inside, if_pos (by omega)]
    congr 2
    omega
  · rw [if_neg inside, if_neg (by omega)]

/-- An address fails for a mark that is not set, or for a line that is none of the lines. -/
theorem line_eq_error {error : ScriptError} (failed : address.line current last mark = .error error) :
    error = .invalidRange ∨ error = .markNotSet ∧ address.Unset mark := by
  by_cases unset : address.Unset mark
  · rw [line_of_unset unset] at failed
    cases failed
    exact Or.inr ⟨rfl, unset⟩
  · obtain ⟨base, isBase⟩ := exists_baseLine_of_not_unset unset
    unfold line at failed
    rw [isBase] at failed
    dsimp only [Except.bind, bind] at failed
    split at failed
    · cases failed
      exact Or.inl rfl
    · split at failed
      · cases failed
      · cases failed
        exact Or.inl rfl

/-- A line that an address stands for is one of the lines, and the sum of what it counts from and its
offset. -/
theorem line_eq_ok {line : Nat} (isLine : address.line current last mark = .ok line)
    (bounded : last < 2 ^ 62) :
    line ≤ last ∧ ∃ base, address.baseLine current last mark = .ok base ∧ base < 2 ^ 63 ∧
      (line : Int) = base + address.offset.toInt := by
  have largest : Int64.maxValue.toInt = 2 ^ 63 - 1 := Int64.toInt_maxValue
  cases isBase : address.baseLine current last mark with
  | error error =>
    unfold Address.line at isLine
    rw [isBase] at isLine
    cases isLine
  | ok base =>
    have fits : base < 2 ^ 63 := by
      by_contra large
      unfold Address.line at isLine
      rw [isBase] at isLine
      dsimp only [Except.bind, bind] at isLine
      rw [if_pos (by omega)] at isLine
      cases isLine
    rw [line_of_bounded isBase fits bounded] at isLine
    dsimp only at isLine
    split at isLine
    · cases isLine
      exact ⟨by omega, base, rfl, fits, by omega⟩
    · cases isLine

/-- An address that does not count from the current line stands for the same line from anywhere. -/
theorem line_of_absolute (absolute : address.base ≠ .current) (other : Nat) :
    address.line current last mark = address.line other last mark := by
  have same : address.baseLine current last mark = address.baseLine other last mark := by
    unfold baseLine
    cases isBase : address.base with
    | current => exact absurd isBase absolute
    | last | number | mark => rfl
  unfold line
  rw [same]

theorem line_current (isLine : current ≤ last) (bounded : last < 2 ^ 62) (mark : Char → Option Nat) :
    Address.current.line current last mark = .ok current := by
  have largest : Int64.maxValue.toInt = 2 ^ 63 - 1 := Int64.toInt_maxValue
  exact line_of_base rfl rfl (by omega) isLine

/-- From another current line an address stands for a line that is as far away, or for the same line if it
does not count from the current one. -/
theorem line_moved {other line moved : Nat} (isLine : address.line current last mark = .ok line)
    (isMoved : address.line other last mark = .ok moved) (bounded : last < 2 ^ 62) :
    (moved : Int) = line + if address.base = .current then (other : Int) - current else 0 := by
  by_cases relative : address.base = .current
  · have counts (from' : Nat) : address.baseLine from' last mark = .ok from' := by
      unfold baseLine
      rw [relative]
    obtain ⟨-, base, isBase, -, sum⟩ := line_eq_ok isLine bounded
    obtain ⟨-, movedBase, isMovedBase, -, movedSum⟩ := line_eq_ok isMoved bounded
    cases (counts current).symm.trans isBase
    cases (counts other).symm.trans isMovedBase
    rw [if_pos relative]
    omega
  · rw [line_of_absolute relative other] at isLine
    cases isLine.symm.trans isMoved
    rw [if_neg relative, Int.add_zero]

end Address

namespace Range

variable {start stop : Address} {semicolon : Bool} {current last : Nat} {mark : Char → Option Nat}

/-- Two addresses stand for lines just if each does, the second from the line that the separator makes
current. -/
theorem resolve_pair_eq_ok_iff {found : Nat × Nat} :
    resolve (.lines start (some stop) semicolon) current last mark = .ok found ↔
      ∃ first second, start.line current last mark = .ok first ∧
        stop.line (if semicolon then first else current) last mark = .ok second ∧
          found = (min first second, max first second) := by
  unfold resolve
  dsimp only [Except.bind, bind]
  cases start.line current last mark with
  | error error => exact iff_of_false nofun (by rintro ⟨_, _, ⟨⟩, _⟩)
  | ok first =>
    dsimp only
    cases isSecond : stop.line (if semicolon then first else current) last mark with
    | error error =>
      refine iff_of_false nofun ?_
      rintro ⟨_, second, ⟨⟩, isLine, -⟩
      cases isSecond.symm.trans isLine
    | ok second =>
      constructor
      · rintro ⟨⟩
        exact ⟨first, second, rfl, isSecond, rfl⟩
      · rintro ⟨_, other, ⟨⟩, isLine, rfl⟩
        cases isSecond.symm.trans isLine
        rfl

/-- Two addresses fail just as the first of them does, or else the second. -/
theorem resolve_pair_eq_error_iff {error : ScriptError} :
    resolve (.lines start (some stop) semicolon) current last mark = .error error ↔
      start.line current last mark = .error error ∨ ∃ first, start.line current last mark = .ok first ∧
        stop.line (if semicolon then first else current) last mark = .error error := by
  unfold resolve
  dsimp only [Except.bind, bind]
  cases start.line current last mark with
  | error other => simp
  | ok first =>
    dsimp only
    cases isSecond : stop.line (if semicolon then first else current) last mark with
    | error other => simp [isSecond]
    | ok second => simp [isSecond, pure, Except.pure]

theorem resolve_single :
    resolve (.lines start none semicolon) current last mark =
      (start.line current last mark).map fun line => (line, line) := by
  unfold resolve
  dsimp only [Except.bind, bind]
  cases start.line current last mark <;> rfl

theorem resolve_single_eq_error_iff {error : ScriptError} :
    resolve (.lines start none semicolon) current last mark = .error error ↔
      start.line current last mark = .error error := by
  rw [resolve_single]
  cases start.line current last mark with
  | error other => simp [Except.map]
  | ok line => simp [Except.map]

/-- The lines of a range are lines of the text, in their order. -/
theorem resolve_le {range : Range} {first second : Nat} (bounded : last < 2 ^ 62)
    (found : range.resolve current last mark = .ok (first, second)) :
    first ≤ second ∧ second ≤ last := by
  cases range with
  | whole =>
    cases found
    exact ⟨Nat.zero_le last, Nat.le_refl last⟩
  | lines start end? semicolon =>
    cases end? with
    | none =>
      rw [resolve_single] at found
      cases isLine : start.line current last mark with
      | error error =>
        rw [isLine] at found
        cases found
      | ok line =>
        rw [isLine] at found
        cases found
        exact ⟨Nat.le_refl _, (Address.line_eq_ok isLine bounded).1⟩
    | some stop =>
      obtain ⟨line, other, isLine, isOther, same⟩ := resolve_pair_eq_ok_iff.mp found
      have lineIn := (Address.line_eq_ok isLine bounded).1
      have otherIn := (Address.line_eq_ok isOther bounded).1
      cases same
      omega

/-- Two addresses with a comma between them may change places. -/
theorem resolve_swap {found : Nat × Nat}
    (resolved : resolve (.lines start (some stop) false) current last mark = .ok found) :
    resolve (.lines stop (some start) false) current last mark = .ok found := by
  obtain ⟨first, second, isFirst, isSecond, same⟩ := resolve_pair_eq_ok_iff.mp resolved
  refine resolve_pair_eq_ok_iff.mpr ⟨second, first, isSecond, isFirst, ?_⟩
  rw [same, min_comm, max_comm]

/-- With a semicolon the second address is looked at from the line of the first. -/
theorem resolve_semicolon (bounded : last < 2 ^ 62) :
    resolve (.lines start (some stop) true) current last mark =
      (start.line current last mark >>= fun first =>
        resolve (.lines Address.current (some stop) false) first last mark) := by
  cases isFirst : start.line current last mark with
  | error error => exact resolve_pair_eq_error_iff.mpr (Or.inl isFirst)
  | ok first =>
    have isCurrent := Address.line_current (Address.line_eq_ok isFirst bounded).1 bounded mark
    unfold resolve
    dsimp only [Except.bind, bind]
    rw [isFirst]
    dsimp only
    rw [isCurrent]
    rfl

/-- The line that is current behind some addresses: each of them is one of the lines, from the line that is
current in front of it, and is the current line from then on if a semicolon follows. -/
inductive LeadsTo (last : Nat) (mark : Char → Option Nat) :
    Nat → List (WrittenAddress × Bool) → Nat → Prop where
  | nil (current : Nat) : LeadsTo last mark current [] current
  | cons {current line behind : Nat} {address : WrittenAddress} {semicolon : Bool}
      {links : List (WrittenAddress × Bool)} (isLine : address.address.line current last mark = .ok line)
      (more : LeadsTo last mark (if semicolon then line else current) links behind) :
      LeadsTo last mark current ((address, semicolon) :: links) behind

/-- Of a chain of addresses that are all lines of the text, each from the line that the semicolons in front
of it have made current, a range is read that stands for the lines of the last two just if the last but one
starts from the line that was current at the beginning, or counts from no current line, and neither does the
last one unless a semicolon is in front of it. Semicolons in front of the last two are forgotten. -/
theorem chain_keeps_last_iff {dropped : List (WrittenAddress × Bool)} {start stop : WrittenAddress}
    {semicolon : Bool} {current last before first second : Nat} {mark : Char → Option Nat}
    {rest : List Char} (bounded : last < 2 ^ 62)
    (along : LeadsTo last mark current dropped before)
    (isFirst : start.address.line before last mark = .ok first)
    (isSecond : stop.address.line (if semicolon then first else before) last mark = .ok second)
    (stops : (WrittenRange.chain dropped start semicolon stop).StopsAt rest) :
    ∃ range, read ((WrittenRange.chain dropped start semicolon stop).text ++ rest) =
        .ok (some range, rest) ∧
      (range.resolve current last mark = .ok (min first second, max first second) ↔
        before = current ∨ start.address.base ≠ .current ∧
          (semicolon = true ∨ stop.address.base ≠ .current)) := by
  refine ⟨_, read_text stops, ?_⟩
  show resolve (.lines start.address (some stop.address) semicolon) current last mark = _ ↔ _
  rw [resolve_pair_eq_ok_iff]
  constructor
  · rintro ⟨movedFirst, movedSecond, isMovedFirst, isMovedSecond, same⟩
    have firstMoved := Address.line_moved isFirst isMovedFirst bounded
    have secondMoved : (movedSecond : Int) = second + if stop.address.base = .current then
        (if semicolon then (movedFirst : Int) - first else (current : Int) - before) else 0 := by
      have moved := Address.line_moved isSecond isMovedSecond bounded
      cases semicolon <;> exact moved
    -- the same two lines have the same sum, and all that moves, moves the same way
    obtain ⟨sameMin, sameMax⟩ := Prod.mk.inj same
    have sum : (movedFirst : Int) + movedSecond = first + second := by omega
    by_cases startRelative : start.address.base = .current
    · rw [if_pos startRelative] at firstMoved
      refine Or.inl ?_
      split_ifs at secondMoved <;> omega
    · rw [if_neg startRelative] at firstMoved
      by_cases stopRelative : stop.address.base = .current
      · rw [if_pos stopRelative] at secondMoved
        cases anchored : semicolon with
        | true => exact Or.inr ⟨startRelative, Or.inl rfl⟩
        | false =>
          rw [anchored, if_neg Bool.false_ne_true] at secondMoved
          exact Or.inl (by omega)
      · exact Or.inr ⟨startRelative, Or.inr stopRelative⟩
  · rintro (rfl | ⟨absolute, anchored | stopAbsolute⟩)
    · exact ⟨first, second, isFirst, isSecond, rfl⟩
    · subst anchored
      exact ⟨first, second, (Address.line_of_absolute absolute before).trans isFirst, isSecond, rfl⟩
    · exact ⟨first, second, (Address.line_of_absolute absolute before).trans isFirst,
        (Address.line_of_absolute stopAbsolute _).trans isSecond, rfl⟩

/-- The line behind the line behind the second, and the line behind that one: from the first line, these are
the third and the fourth, and a range is read that stands for the second and the third. -/
theorem chain_keeps_last_iff_forgotten :
    let two : WrittenAddress := .tight (some (.number ⟨['2'], List.all_eq_true.mp rfl, nofun⟩)) []
    let next : WrittenAddress := .tight none [⟨false, none⟩]
    LeadsTo 9 (fun _ => none) 0 [(two, true)] 1 ∧ next.address.line 1 9 (fun _ => none) = .ok 2 ∧
      next.address.line 2 9 (fun _ => none) = .ok 3 ∧
        ∃ range, read ['2', ';', '+', ';', '+'] = .ok (some range, []) ∧
          range.resolve 0 9 (fun _ => none) ≠ .ok (2, 3) := by
  intro two next
  have along : LeadsTo 9 (fun _ => none) 0 [(two, true)] 1 := .cons rfl (.nil 1)
  have isFirst : next.address.line 1 9 (fun _ => none) = .ok 2 := rfl
  have isSecond : next.address.line 2 9 (fun _ => none) = .ok 3 := rfl
  refine ⟨along, isFirst, isSecond, ?_⟩
  have stops : (WrittenRange.chain [(two, true)] next true next).StopsAt [] := ⟨nofun, nofun⟩
  obtain ⟨range, isRead, resolves⟩ :=
    chain_keeps_last_iff (by decide) along isFirst isSecond stops
  refine ⟨range, isRead, fun found => ?_⟩
  rcases resolves.mp found with same | ⟨absolute, -⟩
  · cases same
  · exact absolute rfl

end Range

end Command

end ModalEdit

import Mathlib.Data.List.Basic
import Mathlib.Data.List.Induction
import Mathlib.Tactic.SplitIfs
import ModalEdit.Register

/-!
Registers that hold whole lines, and registers that a script sets by their names. The text of whole lines
ends in a line break after every way of writing but one: text that breaks off within a line, appended to
whole lines, leaves whole lines that break off. A text that is set by a name goes to the place of the name
and to the unnamed one, and all other places keep what they hold, unless the name is that of no register:
such a text is kept as if it had been deleted.
-/

set_option autoImplicit false

namespace ModalEdit

/-- Text whose last line has no break at its end. -/
def BreaksOff (text : List Char) : Prop :=
  text ≠ [] ∧ text.getLast? ≠ some '\n'

theorem not_breaksOff_nil : ¬ BreaksOff [] :=
  fun breaksOff => breaksOff.1 rfl

theorem breaksOff_append {first second : List Char} (second_ne : second ≠ []) :
    BreaksOff (first ++ second) ↔ BreaksOff second := by
  unfold BreaksOff
  rw [List.getLast?_append_of_ne_nil _ second_ne]
  simp [second_ne]

namespace Register

/-- Whole lines that end in a line break, or anything within a line. -/
def EndsLines (register : Register) : Prop :=
  register.kind = .line → ¬ BreaksOff register.content

theorem append_of_line {register : Register} {kind : RegisterKind} (text : List Char)
    (lines : kind = .line ∨ register.kind = .line) :
    (register.append text kind).kind = .line ∧
      (BreaksOff (register.append text kind).content ↔ BreaksOff text) := by
  unfold append
  rw [if_pos lines]
  refine ⟨rfl, ?_⟩
  dsimp only
  by_cases empty : text = []
  · subst empty
    rw [List.append_nil]
    have ended : ¬ BreaksOff (register.content ++
        if register.content = [] ∨ register.content.getLast? = some '\n' then [] else ['\n']) := by
      split
      · rename_i broken
        rw [List.append_nil]
        rintro ⟨some, off⟩
        exact broken.elim some off
      · rw [breaksOff_append (List.cons_ne_nil _ _)]
        exact fun breaksOff => breaksOff.2 rfl
    exact iff_of_false ended not_breaksOff_nil
  · exact breaksOff_append empty

/-- More text spoils whole lines just if it breaks off. -/
theorem endsLines_append_iff {register added : Register} (endsLines : added.EndsLines) :
    (register.append added.content added.kind).EndsLines ↔
      ¬ (register.kind = .line ∧ BreaksOff added.content) := by
  by_cases lines : added.kind = .line ∨ register.kind = .line
  · obtain ⟨isLine, breaksOff⟩ := append_of_line added.content lines
    unfold EndsLines
    rw [breaksOff]
    constructor
    · intro whole spoiled
      exact whole isLine spoiled.2
    · intro whole _ off
      rcases lines with isLine | isLine
      · exact endsLines isLine off
      · exact whole ⟨isLine, off⟩
  · have within : (register.append added.content added.kind).kind = register.kind := by
      unfold append
      rw [if_neg lines]
    constructor
    · intro _ spoiled
      exact lines (Or.inr spoiled.1)
    · intro _ isLine
      exact absurd (Or.inr (within ▸ isLine)) lines

end Register

/-- What can be asked of registers: text taken in, or set from a script. -/
inductive RegisterCall where
  | record (name? : Option Char) (register : Register) (capture : Capture)
  | set (name : Char) (text : List Char)
deriving DecidableEq, Inhabited

namespace RegisterCall

/-- The name under which a call writes. -/
def name? : RegisterCall → Option Char
  | record name? _ _ => name?
  | set name _ => if name = '"' then none else some name

/-- The text that a call brings. -/
def register : RegisterCall → Register
  | record _ register _ => register
  | set _ text => ⟨text, if text.getLast? = some '\n' then .line else .char⟩

/-- Whether the text is copied or deleted. -/
def capture : RegisterCall → Capture
  | record _ _ capture => capture
  | set name _ => if name = '"' then .yank else .delete

/-- A script sets whole lines only. -/
theorem endsLines_set (name : Char) (text : List Char) : (set name text).register.EndsLines := by
  unfold register Register.EndsLines
  dsimp only
  split
  · rename_i broken
    exact fun _ off => off.2 broken
  · exact nofun

end RegisterCall

namespace RegisterSlot

theorem ofName?_of_isUpper {name : Char} (upper : name.isUpper = true) :
    ∃ index, ofName? (some name) = some (.named index) := by
  have alpha : name.isAlpha = true := by
    show (name.isUpper || name.isLower) = true
    rw [upper, Bool.true_or]
  unfold ofName?
  dsimp only
  rw [if_pos alpha]
  exact ⟨_, rfl⟩

end RegisterSlot

namespace RegisterFile

variable {registers : RegisterFile} {register : Register}

/-- The registers after a call. -/
def call (registers : RegisterFile) : RegisterCall → RegisterFile
  | .record name? register capture => registers.record name? register capture
  | .set name text => registers.set name text

/-- The registers after calls, one after the other. -/
def callAll (registers : RegisterFile) (calls : List RegisterCall) : RegisterFile :=
  calls.foldl call registers

theorem call_eq_record (call : RegisterCall) :
    registers.call call = registers.record call.name? call.register call.capture := by
  cases call with
  | record name? register capture => rfl
  | set name text =>
    unfold RegisterFile.call set RegisterCall.name? RegisterCall.register RegisterCall.capture
    dsimp only
    split <;> rfl

/-- Registers that all end their lines. -/
def Whole (registers : RegisterFile) : Prop :=
  ∀ slot, (registers.read slot).EndsLines

/-- Whether a call appends text that breaks off to a register of whole lines. -/
def Frays (registers : RegisterFile) (call : RegisterCall) : Prop :=
  ∃ name, call.name? = some name ∧ name.isUpper = true ∧
    (registers.get (some name)).kind = .line ∧ BreaksOff call.register.content

theorem whole_default : ({} : RegisterFile).Whole :=
  fun _ => nofun

theorem Whole.write (whole : registers.Whole) (endsLines : register.EndsLines) (slot : RegisterSlot) :
    (registers.write slot register).Whole := by
  intro other
  by_cases same : other = slot
  · rw [same, read_write_self]
    exact endsLines
  · rw [read_write_of_ne same]
    exact whole other

theorem Whole.shiftNumbered (whole : registers.Whole) (endsLines : register.EndsLines) :
    (registers.shiftNumbered register).Whole := by
  intro slot
  cases slot with
  | numbered index =>
    show (if index = 0 then register else registers.read (.numbered (index - 1))).EndsLines
    split
    · exact endsLines
    · exact whole _
  | unnamed | lastYank | smallDelete | named => exact whole _

theorem Whole.recordUnnamed (whole : registers.Whole) (endsLines : register.EndsLines)
    (capture : Capture) : (registers.recordUnnamed register capture).Whole := by
  cases capture with
  | yank => exact whole.write endsLines _
  | delete =>
    unfold RegisterFile.recordUnnamed
    dsimp only
    split
    · exact whole.shiftNumbered endsLines
    · exact whole.write endsLines _

/-- What is written is whole just if the register it goes to ends its lines: the unnamed register then
holds the same, and the others stay. -/
theorem Whole.write_both_iff (whole : registers.Whole) (slot : RegisterSlot) :
    ((registers.write slot register).write .unnamed register).Whole ↔ register.EndsLines := by
  constructor
  · intro after
    have unnamed := after .unnamed
    rwa [read_write_self] at unnamed
  · intro endsLines
    exact (whole.write endsLines slot).write endsLines .unnamed

/-- A whole register file stays whole under every call but one that appends text which breaks off to whole
lines. -/
theorem Whole.call_iff (whole : registers.Whole) {call : RegisterCall}
    (endsLines : call.register.EndsLines) :
    (registers.call call).Whole ↔ ¬ registers.Frays call := by
  have upperSlot {name : Char} (named : call.name? = some name) (upper : name.isUpper = true) :
      ∃ index, RegisterSlot.ofName? call.name? = some (.named index) :=
    named ▸ RegisterSlot.ofName?_of_isUpper upper
  rw [call_eq_record]
  unfold record
  split
  · rename_i isSlot
    refine iff_of_true whole ?_
    rintro ⟨name, named, upper, -⟩
    obtain ⟨index, isNamed⟩ := upperSlot named upper
    cases isSlot.symm.trans isNamed
  · rename_i isSlot
    refine iff_of_true ((whole.recordUnnamed endsLines _).write endsLines _) ?_
    rintro ⟨name, named, upper, -⟩
    obtain ⟨index, isNamed⟩ := upperSlot named upper
    cases isSlot.symm.trans isNamed
  · rename_i slot _ isSlot
    dsimp only
    rw [whole.write_both_iff slot]
    split
    · rename_i upper
      obtain ⟨name, named, upper⟩ := Option.any_eq_true _ _ |>.mp upper
      have read : registers.get (some name) = registers.read slot := by
        unfold get
        rw [← named, isSlot]
      rw [Register.endsLines_append_iff endsLines]
      apply not_congr
      constructor
      · rintro ⟨isLine, breaksOff⟩
        exact ⟨name, named, upper, read ▸ isLine, breaksOff⟩
      · rintro ⟨other, otherNamed, -, isLine, breaksOff⟩
        obtain rfl : name = other := Option.some.inj (named.symm.trans otherNamed)
        exact ⟨read ▸ isLine, breaksOff⟩
    · rename_i notUpper
      refine iff_of_true endsLines ?_
      rintro ⟨name, named, upper, -⟩
      rw [named] at notUpper
      exact notUpper upper

theorem callAll_append_one (calls : List RegisterCall) (call : RegisterCall) :
    registers.callAll (calls ++ [call]) = (registers.callAll calls).call call := by
  unfold callAll
  rw [List.foldl_append]
  rfl

/-- Whatever has been taken in and set before, where whole lines that are taken in end in a line break:
the registers of whole lines have ended in a line break all along, just if never was text that breaks
off appended to one of them. The first such text leaves whole lines that break off. -/
theorem whole_along_iff (calls : List RegisterCall)
    (endsLines : ∀ call ∈ calls, call.register.EndsLines) :
    (∀ before, before <+: calls → (({} : RegisterFile).callAll before).Whole) ↔
      ∀ before call, before ++ [call] <+: calls → ¬ (({} : RegisterFile).callAll before).Frays call := by
  have step {before : List RegisterCall} {call : RegisterCall} (along : before ++ [call] <+: calls)
      (whole : (({} : RegisterFile).callAll before).Whole) :
      (({} : RegisterFile).callAll (before ++ [call])).Whole ↔
        ¬ (({} : RegisterFile).callAll before).Frays call := by
    have member : call ∈ calls := along.subset (by simp)
    rw [callAll_append_one]
    exact whole.call_iff (endsLines call member)
  constructor
  · intro whole before call along
    have earlier : before <+: calls := (List.prefix_append before [call]).trans along
    exact (step along (whole before earlier)).mp (whole _ along)
  · intro sound before
    induction before using List.reverseRecOn with
    | nil => exact fun _ => whole_default
    | append_singleton before call ih =>
      intro along
      have earlier : before <+: calls := (List.prefix_append before [call]).trans along
      exact (step along (ih earlier)).mpr (sound before call along)

/-- A copied line with a part of a line appended to it. -/
theorem whole_along_iff_frayed :
    let calls : List RegisterCall := [.record (some 'a') ⟨"abc\n".toList, .line⟩ .yank,
      .record (some 'A') ⟨['a'], .char⟩ .yank]
    (∀ call ∈ calls, call.register.EndsLines) ∧
      ¬ ∀ before, before <+: calls → (({} : RegisterFile).callAll before).Whole := by
  intro calls
  have endsLines : ∀ call ∈ calls, call.register.EndsLines := by
    intro call member
    simp only [calls, List.mem_cons, List.not_mem_nil, or_false] at member
    rcases member with rfl | rfl
    · exact fun _ off => off.2 (by decide)
    · exact nofun
  refine ⟨endsLines, fun whole => ?_⟩
  refine (whole_along_iff calls endsLines).mp whole [calls[0]] calls[1] (List.prefix_refl calls) ?_
  exact ⟨'A', rfl, by decide, by decide, List.cons_ne_nil _ _, by decide⟩

end RegisterFile

/-! ### Registers set by name -/

namespace RegisterSlot

theorem ofName?_eq_none_iff {name : Char} : ofName? (some name) = none ↔ name = '_' := by
  constructor
  · intro isNone
    unfold ofName? at isNone
    dsimp only at isNone
    split_ifs at isNone with letter zero digit minus underscore
    exact underscore
  · rintro rfl
    rfl

/-- The unnamed place is that of its own name, and of every character that names no register. -/
theorem ofName?_eq_unnamed_iff {name : Char} :
    ofName? (some name) = some .unnamed ↔ name = '"' ∨ isRegisterName name = false := by
  unfold isRegisterName Char.isAlphanum
  constructor
  · intro isUnnamed
    unfold ofName? at isUnnamed
    dsimp only at isUnnamed
    split_ifs at isUnnamed with letter zero digit minus underscore
    · cases isUnnamed
    · cases isUnnamed
    · cases isUnnamed
    · cases isUnnamed
    · by_cases quote : name = '"'
      · exact Or.inl quote
      · simp [letter, digit, minus, underscore, quote]
  · rintro (rfl | noName)
    · rfl
    · simp only [Bool.or_eq_false_iff, beq_eq_false_iff_ne, ne_eq] at noName
      obtain ⟨⟨⟨⟨letter, digit⟩, quote⟩, minus⟩, underscore⟩ := noName
      have zero : name ≠ '0' := by
        rintro rfl
        cases digit
      simp [ofName?, letter, digit, minus, underscore, zero]

end RegisterSlot

namespace RegisterFile

variable {registers : RegisterFile} {register : Register}

/-- What is recorded under the name of a place goes there and to the unnamed place. -/
theorem record_of_named (registers : RegisterFile) (register : Register) (capture : Capture)
    {name? : Option Char} {slot : RegisterSlot} (isSlot : RegisterSlot.ofName? name? = some slot)
    (named : slot ≠ .unnamed) : ∃ written, registers.record name? register capture =
      (registers.write slot written).write .unnamed written := by
  unfold record
  rw [isSlot]
  cases slot with
  | unnamed => exact absurd rfl named
  | lastYank | smallDelete | numbered | named => exact ⟨_, rfl⟩

/-- A shift of the numbered places changes none of them just if all hold already what comes in. -/
theorem shiftNumbered_keeps_iff :
    (∀ index, (registers.shiftNumbered register).read (.numbered index) =
        registers.read (.numbered index)) ↔
      ∀ index, registers.read (.numbered index) = register := by
  have shifted (index : Fin 9) : (registers.shiftNumbered register).read (.numbered index) =
      if index = 0 then register else registers.read (.numbered (index - 1)) := rfl
  simp only [shifted]
  constructor
  · intro kept index
    -- each place holds what the one before it holds, and the first what comes in
    induction index using Fin.induction with
    | zero => exact (kept 0).symm
    | succ index ih =>
      have before : ∀ index : Fin 8, index.succ - 1 = index.castSucc := by decide
      rw [← kept index.succ, if_neg (Fin.succ_ne_zero index), before, ih]
  · intro all index
    rw [all index, all (index - 1), ite_self]

/-- All places keep what they hold, except that of a name, the unnamed one, and for the unnamed one that
of copied text. -/
def KeepsOthers (before after : RegisterFile) (name : Char) : Prop :=
  ∀ slot, RegisterSlot.ofName? (some name) ≠ some slot → slot ≠ .unnamed →
    (name = '"' → slot ≠ .lastYank) → after.read slot = before.read slot

/-- The places for deleted text hold a text already, as it would be put into them. -/
def HoldsDeleted (registers : RegisterFile) (register : Register) : Prop :=
  if register.kind = .line || register.content.contains '\n' then
    ∀ index, registers.read (.numbered index) = register
  else registers.read .smallDelete = register

theorem set_eq_record (name : Char) (text : List Char) :
    registers.set name text = registers.record (if name = '"' then none else some name)
      (RegisterCall.set name text).register (if name = '"' then .yank else .delete) :=
  call_eq_record (.set name text)

/-- Text that is deleted into no named register leaves all places as they are just if it is there already. -/
theorem recordUnnamed_delete_keeps_iff :
    (∀ slot, (registers.recordUnnamed register .delete).read slot = registers.read slot) ↔
      registers.HoldsDeleted register := by
  unfold recordUnnamed HoldsDeleted
  dsimp only
  split
  · rw [← shiftNumbered_keeps_iff]
    constructor
    · exact fun kept index => kept (.numbered index)
    · intro kept slot
      cases slot with
      | numbered index => exact kept index
      | unnamed | lastYank | smallDelete | named => rfl
  · constructor
    · intro kept
      exact (kept .smallDelete).symm.trans (read_write_self registers .smallDelete register)
    · intro held slot
      by_cases same : slot = .smallDelete
      · rw [same, read_write_self, held]
      · exact read_write_of_ne same registers register

/-- A text that is set under the name of a place of its own changes that place and the unnamed one. -/
theorem KeepsOthers.of_named {name : Char} {slot : RegisterSlot} {written : Register}
    (isSlot : RegisterSlot.ofName? (some name) = some slot) :
    registers.KeepsOthers ((registers.write slot written).write .unnamed written) name := by
  intro other apart notUnnamed _
  have ne : other ≠ slot := fun same => apart (same ▸ isSlot)
  rw [read_write_of_ne notUnnamed, read_write_of_ne ne]

/-- Under the name of the unnamed register a script sets that register as if the text had been copied. -/
theorem KeepsOthers.of_unnamed :
    registers.KeepsOthers ((registers.recordUnnamed register .yank).write .unnamed register) '"' := by
  intro other _ notUnnamed notYank
  rw [read_write_of_ne notUnnamed]
  exact read_write_of_ne (notYank rfl) registers register

theorem keepsOthers_of_noName_iff {name : Char} (noName : isRegisterName name = false) :
    registers.KeepsOthers ((registers.recordUnnamed register .delete).write .unnamed register) name ↔
      registers.HoldsDeleted register := by
  have isUnnamed : RegisterSlot.ofName? (some name) = some .unnamed :=
    RegisterSlot.ofName?_eq_unnamed_iff.mpr (Or.inr noName)
  have noQuote : name ≠ '"' := by
    rintro rfl
    cases noName
  rw [← recordUnnamed_delete_keeps_iff]
  constructor
  · intro kept slot
    by_cases same : slot = .unnamed
    · subst same
      unfold recordUnnamed
      dsimp only
      split <;> rfl
    · have apart : RegisterSlot.ofName? (some name) ≠ some slot := by
        rw [isUnnamed]
        exact fun both => same (Option.some.inj both).symm
      rw [← kept slot apart same fun quote => absurd quote noQuote, read_write_of_ne same]
  · intro kept slot _ notUnnamed _
    rw [read_write_of_ne notUnnamed, kept]

theorem record_of_unnamed {name? : Option Char} (isUnnamed : RegisterSlot.ofName? name? = some .unnamed)
    (capture : Capture) : registers.record name? register capture =
      (registers.recordUnnamed register capture).write .unnamed register := by
  unfold record
  rw [isUnnamed]

/-- A name in front of a place of its own, and the unnamed register, read the same after it has been set. -/
theorem get_of_write_both {name? : Option Char} {slot : RegisterSlot}
    (isSlot : RegisterSlot.ofName? name? = some slot) :
    ((registers.write slot register).write .unnamed register).get (some '"') =
      ((registers.write slot register).write .unnamed register).get name? := by
  have unnamed : ((registers.write slot register).write .unnamed register).get (some '"') = register :=
    read_write_self _ .unnamed register
  rw [unnamed]
  unfold get
  rw [isSlot]
  dsimp only
  by_cases same : slot = .unnamed
  · rw [same, read_write_self]
  · rw [read_write_of_ne same, read_write_self]

/-- Whatever the registers hold, and whatever character a script gives as the name of the one that it sets:
the unnamed register then reads the same as that name, or as before for the name that keeps nothing. No
place but that of the name, the unnamed one, and with the unnamed one that of copied text, has changed, just
if the character names a register or the places for deleted text hold the text already: under a character
that names none, the text is recorded as a deleted one. -/
theorem set_keeps_others_iff (registers : RegisterFile) (name : Char) (text : List Char) :
    (registers.set name text).get (some '"') =
        (if name = '_' then registers.get (some '"') else (registers.set name text).get (some name)) ∧
      (registers.KeepsOthers (registers.set name text) name ↔
        isRegisterName name = true ∨
          registers.HoldsDeleted (RegisterCall.set name text).register) ∧
      (isRegisterName name = false → registers.set name text =
        registers.record none (RegisterCall.set name text).register .delete) := by
  rw [set_eq_record]
  generalize (RegisterCall.set name text).register = register
  by_cases quote : name = '"'
  · subst quote
    exact ⟨rfl, iff_of_true KeepsOthers.of_unnamed (Or.inl rfl), nofun⟩
  rw [if_neg quote, if_neg quote]
  cases isSlot : RegisterSlot.ofName? (some name) with
  | none =>
    obtain rfl : name = '_' := RegisterSlot.ofName?_eq_none_iff.mp isSlot
    exact ⟨rfl, iff_of_true (fun _ _ _ _ => rfl) (Or.inl rfl), nofun⟩
  | some slot =>
    have keeps : name ≠ '_' := by
      rintro rfl
      cases isSlot
    rw [if_neg keeps]
    by_cases named : slot = .unnamed
    · subst named
      have noName : isRegisterName name = false :=
        (RegisterSlot.ofName?_eq_unnamed_iff.mp isSlot).resolve_left quote
      rw [record_of_unnamed isSlot]
      refine ⟨?_, ?_, fun _ => (record_of_unnamed rfl .delete).symm⟩
      · unfold get
        rw [isSlot]
        rfl
      · rw [keepsOthers_of_noName_iff noName, noName]
        simp only [Bool.false_eq_true, false_or]
    · have isName : isRegisterName name = true := by
        by_contra noName
        rw [RegisterSlot.ofName?_eq_unnamed_iff.mpr (Or.inr (Bool.eq_false_iff.mpr noName))] at isSlot
        exact named (Option.some.inj isSlot).symm
      obtain ⟨written, recorded⟩ := record_of_named registers register .delete isSlot named
      rw [recorded]
      refine ⟨get_of_write_both isSlot, iff_of_true (KeepsOthers.of_named isSlot) (Or.inl isName), ?_⟩
      rw [isName]
      exact nofun

example : (({} : RegisterFile).set '!' ['x']).get (some '-') = ⟨['x'], .char⟩ := by decide

end RegisterFile

end ModalEdit

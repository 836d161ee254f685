import ModalEdit.Edit.Put
import ModalEdit.Proofs.Document.Lines

/-!
Deleting and putting back. What a delete takes out of a text it leaves in the register, whole lines always
with a line feed at the end. Deleted lines take the line feed behind them along, or the one before where they
are the last; putting lines back inserts it on the same side, if they are put back where they were.
-/

set_option autoImplicit false

namespace ModalEdit

namespace RegisterFile

/-- A register that keeps what it is given and is not added to can be read back. -/
theorem get_record {name? : Option Char} (registers : RegisterFile) (register : Register) (capture : Capture)
    (keeps : RegisterSlot.ofName? name? ≠ none) (replaced : name?.any Char.isUpper = false) :
    (registers.record name? register capture).get name? = register := by
  obtain ⟨slot, isSlot⟩ := Option.ne_none_iff_exists'.mp keeps
  unfold record get
  rw [isSlot]
  cases slot with
  | unnamed => exact read_write_self _ _ _
  | _ =>
    dsimp only
    rw [replaced, if_neg Bool.false_ne_true, read_write_of_ne (by nofun)]
    exact read_write_self _ _ _

end RegisterFile

theorem not_isUpper_of_named {name : Char}
    (named : name.isLower = true ∨ name.isDigit = true ∨ name = '-') : name.isUpper = false := by
  refine Bool.eq_false_iff.mpr fun upper => ?_
  obtain ⟨above, below⟩ := of_decide_eq_true upper
  have above : 65 ≤ name.val.toNat := above
  have below : name.val.toNat ≤ 90 := below
  rcases named with lower | digit | rfl
  · have small : 97 ≤ name.val.toNat := of_decide_eq_true (Bool.and_eq_true_iff.mp lower).1
    omega
  · have number : name.val.toNat ≤ 57 := of_decide_eq_true (Bool.and_eq_true_iff.mp digit).2
    omega
  · exact absurd above (by decide)

/-- Small letters, digits and the dash keep what they are given, and so does no name. -/
theorem RegisterSlot.ofName?_ne_none {name? : Option Char}
    (named : ∀ name ∈ name?, name.isLower = true ∨ name.isDigit = true ∨ name = '-') :
    RegisterSlot.ofName? name? ≠ none ∧ name?.any Char.isUpper = false := by
  cases name? with
  | none => exact ⟨nofun, rfl⟩
  | some name =>
    have isName := named name rfl
    constructor
    · have other : name ≠ '_' := by
        rintro rfl
        exact absurd isName (by decide)
      unfold ofName?
      dsimp only
      rw [if_neg other]
      split
      · nofun
      · split
        · nofun
        · split
          · nofun
          · split <;> nofun
    · exact not_isUpper_of_named isName

namespace Document

variable {text : Document}

namespace Plain

theorem remove (plain : Plain text) (start stop : Nat) : Plain (text.replace start stop []) := by
  refine plain.of_subset fun c member => ?_
  unfold replace at member
  rw [List.append_nil] at member
  exact (List.mem_append.mp member).elim List.mem_of_mem_take List.mem_of_mem_drop

/-- What stands before a part that is removed stays on its lines. -/
theorem lineOf_remove (plain : Plain text) {start place : Nat} (stop : Nat) (inside : start ≤ text.length)
    (before : place ≤ start) : lineOf (text.replace start stop []) place = lineOf text place := by
  rw [(plain.remove start stop).lineOf_eq_count, plain.lineOf_eq_count]
  unfold replace
  rw [List.append_nil, List.take_append_of_le_length (by rw [List.length_take]; omega), List.take_take,
    Nat.min_eq_left before]

end Plain

/-- A part that is removed and inserted again where it was. -/
theorem replace_remove (text : Document) {start : Nat} (stop : Nat) (inside : start ≤ text.length) :
    (text.replace start stop []).replace start start (text.slice start stop) = text := by
  have restored := Change.apply_inverse_apply (Change.fits_recorded text start stop [] inside)
  rw [Change.apply_recorded] at restored
  exact restored

/-- Lines with the line feed behind them are the text of a register. -/
theorem linesText_of_lt (plain : text.Plain) {first last : Nat} (ordered : first ≤ last)
    (before : last < text.lastLine) :
    text.linesText first last = text.slice (text.lineStart first) (text.lineStart (last + 1)) := by
  obtain ⟨newline, next⟩ := plain.newline_at_lineEnd before
  have starts := Nat.le_trans (text.lineStart_mono ordered) (text.lineStart_le_lineEnd last)
  have inside := text.lineEnd_le last
  unfold linesText lineBody slice
  rw [Nat.min_eq_left (Nat.le_of_lt before), next, List.take_add_one, newline, Option.toList_some]
  exact (List.drop_append_of_le_length (by rw [List.length_take]; omega)).symm

/-- The last lines with the line feed before them, where the text of a register has one behind them. -/
theorem linesText_of_le (plain : text.Plain) {first last : Nat} (isLine : first < text.lastLine)
    (isLast : text.lastLine ≤ last) :
    ∃ body, text.linesText (first + 1) last = body ++ ['\n'] ∧
      text.slice (text.lineEnd first) text.length = '\n' :: body := by
  obtain ⟨newline, next⟩ := plain.newline_at_lineEnd isLine
  obtain ⟨inside, found⟩ := List.getElem?_eq_some_iff.mp newline
  refine ⟨text.drop (text.lineEnd first + 1), ?_, ?_⟩
  · unfold linesText lineBody slice
    dsimp only
    rw [Nat.min_eq_right isLast, lineEnd_of_lastLine_le (Nat.le_refl _), next, List.take_length]
  · unfold slice
    rw [List.take_length, List.drop_eq_getElem_cons inside, found]

/-- Where lines have been removed that are not the last, the line that comes in their place starts where they
did. -/
theorem lineStart_remove (plain : text.Plain) {first : Nat} (stop : Nat) (isLine : first ≤ text.lastLine) :
    (text.replace (text.lineStart first) stop []).lineStart first = text.lineStart first := by
  cases first with
  | zero => rw [lineStart_zero, lineStart_zero]
  | succ first =>
    have inside := text.lineStart_le (first + 1)
    obtain ⟨newline, next⟩ := plain.newline_at_lineEnd isLine
    have onLine := (plain.lineOf_remove stop inside (Nat.le_refl _)).trans (lineOf_lineStart isLine)
    rw [next] at inside onLine ⊢
    have kept : (text.replace (text.lineEnd first + 1) stop [])[text.lineEnd first]? = some '\n' := by
      unfold replace
      rw [List.append_nil, List.getElem?_append_left (by rw [List.length_take]; omega),
        List.getElem?_take_of_lt (Nat.lt_succ_self _)]
      exact newline
    have starts := lineStart_lineOf_of_newline kept
    rw [onLine] at starts
    exact starts

/-- Where the lines behind a line have been removed, that line is the last and ends where it did. -/
theorem lineEnd_remove (plain : text.Plain) {line : Nat} (isLine : line < text.lastLine) :
    (text.replace (text.lineEnd line) text.length []).lastLine = line ∧
      (text.replace (text.lineEnd line) text.length []).lineEnd line = text.lineEnd line := by
  have inside := text.lineEnd_le line
  have length : (text.replace (text.lineEnd line) text.length []).length = text.lineEnd line := by
    rw [length_replace text _ _ _ inside, List.length_nil]
    omega
  have isLast : (text.replace (text.lineEnd line) text.length []).lastLine = line := by
    unfold lastLine
    rw [length, plain.lineOf_remove text.length inside (Nat.le_refl _)]
    exact plain.lineOf_eq (Nat.le_of_lt isLine) (text.lineStart_le_lineEnd line) (Nat.le_refl _)
  exact ⟨isLast, (lineEnd_of_lastLine_le (Nat.le_of_eq isLast)).trans length⟩

end Document

namespace Workspace

variable {space : Workspace} {name? : Option Char}

theorem paste_chars {chars : List Char} (held : space.registers.get name? = ⟨chars, .char⟩)
    (some : chars ≠ []) (offset : Nat) :
    space.paste name? false 1 offset = Option.some (space.putChars offset chars false) := by
  unfold paste
  rw [held]
  dsimp only
  rw [if_neg some, Nat.max_self, List.replicate_one, List.flatten_singleton]

theorem paste_lines {lines : List Char} (held : space.registers.get name? = ⟨lines, .line⟩)
    (ended : lines.getLast? = some '\n') (after : Bool) (offset : Nat) :
    space.paste name? after 1 offset = some (space.putLines offset lines after) := by
  have isSome : lines ≠ [] := by
    rintro rfl
    cases ended
  unfold paste
  rw [held]
  dsimp only
  rw [if_neg isSome, Nat.max_self, List.replicate_one, List.flatten_singleton, if_pos ended]

/-- The workspace after a span has been deleted. -/
def deleted (space : Workspace) (span : Span) (name? : Option Char) (steps : Nat) : Workspace :=
  (space.applyOperator .delete span name? steps).1

/-- Whether the text is again what it was when a span has been deleted and its register put back. -/
def Restores (space : Workspace) (span : Span) (name? : Option Char) (steps : Nat) (after : Bool)
    (offset : Nat) : Prop :=
  ∃ put, (space.deleted span name? steps).paste name? after 1 offset = some put ∧ put.1.text = space.text

theorem text_deleted_lines (space : Workspace) (first last : Nat) (name? : Option Char) (steps : Nat) :
    (space.deleted (.lines first last) name? steps).text =
      space.text.replace (space.text.lineSpan first last).1 (space.text.lineSpan first last).2 [] := rfl

theorem text_deleted_of_lt (space : Workspace) {first last : Nat} (before : last < space.text.lastLine)
    (name? : Option Char) (steps : Nat) :
    (space.deleted (.lines first last) name? steps).text =
      space.text.replace (space.text.lineStart first) (space.text.lineStart (last + 1)) [] := by
  rw [text_deleted_lines]
  unfold Document.lineSpan
  dsimp only
  rw [Nat.min_eq_left (Nat.le_of_lt before), if_pos before]

theorem text_deleted_of_le (space : Workspace) (first : Nat) {last : Nat} (isLast : space.text.lastLine ≤ last)
    (name? : Option Char) (steps : Nat) :
    (space.deleted (.lines (first + 1) last) name? steps).text =
      space.text.replace (space.text.lineEnd first) space.text.length [] := by
  rw [text_deleted_lines]
  unfold Document.lineSpan
  dsimp only
  rw [Nat.min_eq_right isLast, if_neg (Nat.lt_irrefl _), if_pos (Nat.succ_pos first),
    Document.lineEnd_of_lastLine_le (Nat.le_refl _), Nat.add_sub_cancel]

section Named

variable (named : ∀ name ∈ name?, name.isLower = true ∨ name.isDigit = true ∨ name = '-') (steps : Nat)

include named

theorem get_deleted_chars (space : Workspace) (start stop : Nat) :
    (space.deleted (.chars start stop) name? steps).registers.get name? =
      ⟨space.text.slice start stop, .char⟩ := by
  obtain ⟨keeps, replaced⟩ := RegisterSlot.ofName?_ne_none named
  exact space.registers.get_record _ .delete keeps replaced

theorem get_deleted_lines (space : Workspace) (first last : Nat) :
    (space.deleted (.lines first last) name? steps).registers.get name? =
      ⟨space.text.linesText first last, .line⟩ := by
  obtain ⟨keeps, replaced⟩ := RegisterSlot.ofName?_ne_none named
  exact space.registers.get_record _ .delete keeps replaced

/-- Text within lines is put back at the place where it was. -/
theorem restores_chars (space : Workspace) {start stop : Nat} (some : start < stop)
    (inside : stop ≤ space.text.length) : space.Restores (.chars start stop) name? steps false start := by
  have content : space.text.slice start stop ≠ [] := by
    refine List.ne_nil_of_length_pos ?_
    rw [Document.length_slice]
    omega
  refine ⟨_, paste_chars (get_deleted_chars named steps space start stop) content start, ?_⟩
  exact space.text.replace_remove stop (Nat.le_of_lt (Nat.lt_of_lt_of_le some inside))

/-- Lines that are not the last are put back before the line that has come in their place. -/
theorem restores_lines (space : Workspace) (plain : space.text.Plain) {first last offset : Nat}
    (ordered : first ≤ last) (before : last < space.text.lastLine)
    (onLine : (space.deleted (.lines first last) name? steps).text.lineOf offset = first) :
    space.Restores (.lines first last) name? steps false offset := by
  have isLine : first ≤ space.text.lastLine := Nat.le_trans ordered (Nat.le_of_lt before)
  have ended : (space.text.linesText first last).getLast? = some '\n' := List.getLast?_concat
  refine ⟨_, paste_lines (get_deleted_lines named steps space first last) ended false offset, ?_⟩
  unfold putLines
  dsimp only
  rw [if_neg Bool.false_ne_true, onLine]
  show Document.replace _ _ _ _ = _
  rw [space.text_deleted_of_lt before, Document.lineStart_remove plain _ isLine,
    Document.linesText_of_lt plain ordered before]
  exact space.text.replace_remove _ (space.text.lineStart_le first)

/-- The last lines are put back behind the line that has become the last. -/
theorem restores_last_lines (space : Workspace) (plain : space.text.Plain) {first last offset : Nat}
    (isLine : first < space.text.lastLine) (isLast : space.text.lastLine ≤ last)
    (onLine : (space.deleted (.lines (first + 1) last) name? steps).text.lineOf offset = first) :
    space.Restores (.lines (first + 1) last) name? steps true offset := by
  have removed := space.text_deleted_of_le first isLast name? steps
  obtain ⟨last_eq, end_eq⟩ := Document.lineEnd_remove plain isLine
  obtain ⟨body, lines, taken⟩ := Document.linesText_of_le plain isLine isLast
  have held := get_deleted_lines named steps space (first + 1) last
  rw [lines] at held
  refine ⟨_, paste_lines held List.getLast?_concat true offset, ?_⟩
  have stripped : Text.stripLast? '\n' (body ++ ['\n']) = some body := by
    unfold Text.stripLast?
    rw [if_pos List.getLast?_concat, List.dropLast_concat]
  unfold putLines
  dsimp only
  rw [if_pos rfl, onLine, removed, last_eq, if_neg (Nat.lt_irrefl first), stripped, end_eq, Option.getD_some,
    ← taken]
  show Document.replace _ _ _ _ = _
  rw [removed]
  exact space.text.replace_remove _ (space.text.lineEnd_le first)

/-- A delete and then a put restore the text, from the register without a name and from those named by a
small letter, a digit or the dash: text within lines at its start; whole lines before the line that has
come in their place, on whatever place of it, and behind the line before if they were the last. -/
theorem restores_deleted (space : Workspace) (plain : space.text.Plain) :
    (∀ start stop, start < stop → stop ≤ space.text.length →
      space.Restores (.chars start stop) name? steps false start) ∧
    ∀ first last, first ≤ last →
      (last < space.text.lastLine →
        (∃ offset, (space.deleted (.lines first last) name? steps).text.lineOf offset = first) ∧
        ∀ offset, (space.deleted (.lines first last) name? steps).text.lineOf offset = first →
          space.Restores (.lines first last) name? steps false offset) ∧
      (last = space.text.lastLine → 0 < first →
        (∃ offset, (space.deleted (.lines first last) name? steps).text.lineOf offset = first - 1) ∧
        ∀ offset, (space.deleted (.lines first last) name? steps).text.lineOf offset = first - 1 →
          space.Restores (.lines first last) name? steps true offset) := by
  refine ⟨fun start stop => restores_chars named steps space, fun first last ordered => ⟨?_, ?_⟩⟩
  · intro before
    have isLine : first ≤ space.text.lastLine := Nat.le_trans ordered (Nat.le_of_lt before)
    refine ⟨⟨space.text.lineStart first, ?_⟩,
      fun offset => restores_lines named steps space plain ordered before⟩
    rw [space.text_deleted_of_lt before, plain.lineOf_remove _ (space.text.lineStart_le first) (Nat.le_refl _)]
    exact Document.lineOf_lineStart isLine
  · intro isLast positive
    obtain ⟨first, rfl⟩ := Nat.exists_eq_add_one_of_ne_zero (Nat.ne_of_gt positive)
    have isLine : first < space.text.lastLine := isLast ▸ ordered
    refine ⟨⟨space.text.lineEnd first, ?_⟩,
      fun offset => restores_last_lines named steps space plain isLine (Nat.le_of_eq isLast.symm)⟩
    rw [space.text_deleted_of_le first (Nat.le_of_eq isLast.symm),
      plain.lineOf_remove _ (space.text.lineEnd_le first) (Nat.le_refl _)]
    exact plain.lineOf_eq (Nat.le_of_lt isLine) (space.text.lineStart_le_lineEnd first) (Nat.le_refl _)

end Named

/-- The last two of three lines, deleted into a named register and put back behind the first. -/
theorem restores_deleted_last :
    ({ window := { text := "ab\ncd\nef".toList } } : Workspace).Restores (.lines 1 2) (some 'a') 1 true 1 := by
  have named : ∀ name ∈ some 'a', name.isLower = true ∨ name.isDigit = true ∨ name = '-' := by
    rintro name ⟨⟩
    exact .inl (by decide)
  have plain : ({ window := { text := "ab\ncd\nef".toList } } : Workspace).text.Plain := by decide
  exact (((restores_deleted named 1 _ plain).2 1 2 (by decide)).2 (by decide) (by decide)).2 1 (by decide)

end Workspace

end ModalEdit

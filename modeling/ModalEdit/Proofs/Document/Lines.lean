import ModalEdit.History
import ModalEdit.Motion.Resolve

/-!
Lines and offsets: an offset lies between the start and the end of its line, and clamping a caret
keeps it on its line and need not be done twice. Replacing a part of a text: what stands where afterwards, and
that a recorded change can be taken back and made again without a trace.
-/

set_option autoImplicit false

namespace ModalEdit

namespace Document

theorem endsLine_newline (next? : Option Char) : endsLine '\n' next? = true := rfl

theorem lineOf_mono (text : Document) {first second : Nat} (ordered : first ≤ second) :
    lineOf text first ≤ lineOf text second := by
  induction text generalizing first second with
  | nil => cases first <;> cases second <;> simp only [lineOf, Nat.le_refl]
  | cons c rest ih =>
    cases first with
    | zero =>
      rw [lineOf_zero]
      exact Nat.zero_le _
    | succ first =>
      cases second with
      | zero => omega
      | succ second =>
        have next := ih (by omega : first ≤ second)
        simp only [lineOf]
        omega

theorem lineOf_le_lastLine (text : Document) (offset : Nat) : lineOf text offset ≤ lastLine text := by
  unfold lastLine
  induction text generalizing offset with
  | nil => cases offset <;> exact Nat.zero_le _
  | cons c rest ih =>
    cases offset with
    | zero =>
      rw [lineOf_zero]
      exact Nat.zero_le _
    | succ offset =>
      have next := ih offset
      simp only [lineOf, List.length_cons]
      omega

/-- There is at most one line break for each character. -/
theorem lineOf_le (text : Document) (offset : Nat) : lineOf text offset ≤ offset := by
  induction text generalizing offset with
  | nil => cases offset <;> exact Nat.zero_le _
  | cons c rest ih =>
    cases offset with
    | zero => exact Nat.le_of_eq (lineOf_zero _)
    | succ offset =>
      have further := ih offset
      unfold lineOf
      split <;> omega

theorem lastLine_le_length (text : Document) : lastLine text ≤ text.length :=
  lineOf_le text text.length

theorem lineStart_lineOf_le (text : Document) (offset : Nat) :
    lineStart text (lineOf text offset) ≤ offset := by
  induction text generalizing offset with
  | nil => cases offset <;> simp only [lineOf, lineStart, Nat.le_refl, Nat.zero_le]
  | cons c rest ih =>
    cases offset with
    | zero =>
      refine Nat.le_of_eq ?_
      rw [lineOf_zero, lineStart_zero]
    | succ offset =>
      have next := ih offset
      by_cases ends : endsLine c rest.head? = true
      · simp only [lineOf, ends, ↓reduceIte, Nat.add_comm 1, lineStart]
        omega
      · simp only [lineOf, ends, Bool.false_eq_true, ↓reduceIte, Nat.zero_add]
        cases lineEq : lineOf rest offset with
        | zero =>
          rw [lineStart_zero]
          exact Nat.zero_le _
        | succ line =>
          rw [lineEq] at next
          simp only [lineStart, ends, Bool.false_eq_true, ↓reduceIte]
          omega

theorem lineEnd_cons_zero (c : Char) (rest : Document) :
    lineEnd (c :: rest) 0 =
      if c = '\n' then 0 else if endsLine c rest.head? then 1 else 1 + lineEnd rest 0 := by
  simp only [lineEnd, lineStart_zero, List.drop_zero, Nat.zero_add, firstLineLength]

theorem lineEnd_cons_succ (c : Char) (rest : Document) (line : Nat) :
    lineEnd (c :: rest) (line + 1) =
      1 + if endsLine c rest.head? then lineEnd rest line else lineEnd rest (line + 1) := by
  by_cases ends : endsLine c rest.head? = true
  · simp only [lineEnd, lineStart, ends, ↓reduceIte, Nat.add_comm 1, List.drop_succ_cons]
    omega
  · simp only [lineEnd, lineStart, ends, Bool.false_eq_true, ↓reduceIte, Nat.add_comm 1,
      List.drop_succ_cons]
    omega

/-- Behind the first character lines end where they end in the rest. -/
theorem lineEnd_cons_lineOf (c : Char) (rest : Document) (offset : Nat) :
    lineEnd (c :: rest) (lineOf (c :: rest) (offset + 1)) = lineEnd rest (lineOf rest offset) + 1 := by
  by_cases ends : endsLine c rest.head? = true
  · simp only [lineOf, ends, ↓reduceIte, Nat.add_comm 1, lineEnd_cons_succ]
  · have noNewline : c ≠ '\n' := by
      rintro rfl
      exact ends (endsLine_newline _)
    simp only [lineOf, ends, Bool.false_eq_true, ↓reduceIte, Nat.zero_add]
    cases lineOf rest offset with
    | zero => rw [lineEnd_cons_zero, if_neg noNewline, if_neg ends, Nat.add_comm]
    | succ line => rw [lineEnd_cons_succ, if_neg ends, Nat.add_comm]

theorem le_lineEnd_lineOf {text : Document} {offset : Nat} (inside : offset ≤ text.length) :
    offset ≤ lineEnd text (lineOf text offset) := by
  induction text generalizing offset with
  | nil => exact Nat.le_trans inside (Nat.zero_le _)
  | cons c rest ih =>
    cases offset with
    | zero => exact Nat.zero_le _
    | succ offset =>
      rw [lineEnd_cons_lineOf]
      exact Nat.succ_le_succ (ih (Nat.le_of_succ_le_succ inside))

/-- Only a line feed stands at the end of its own line. -/
theorem lt_lineEnd_lineOf {text : Document} {offset : Nat} {c : Char} (here : text[offset]? = some c)
    (other : c ≠ '\n') : offset < lineEnd text (lineOf text offset) := by
  induction text generalizing offset with
  | nil => cases here
  | cons head rest ih =>
    cases offset with
    | zero =>
      cases here
      rw [lineOf_zero, lineEnd_cons_zero, if_neg other]
      split <;> omega
    | succ offset =>
      rw [lineEnd_cons_lineOf]
      exact Nat.succ_lt_succ (ih here)

theorem lineEnd_lineOf_of_newline {text : Document} {offset : Nat} (newline : text[offset]? = some '\n') :
    lineEnd text (lineOf text offset) = offset := by
  induction text generalizing offset with
  | nil => cases newline
  | cons head rest ih =>
    cases offset with
    | zero =>
      cases newline
      rw [lineOf_zero, lineEnd_cons_zero, if_pos rfl]
    | succ offset => rw [lineEnd_cons_lineOf, ih newline]

theorem lineEnd_le_lineStart_succ (text : Document) (line : Nat) :
    lineEnd text line ≤ lineStart text (line + 1) := by
  induction text generalizing line with
  | nil => cases line <;> simp only [lineEnd, lineStart, List.drop_nil, firstLineLength, Nat.le_refl]
  | cons c rest ih =>
    cases line with
    | zero =>
      have next := ih 0
      simp only [lineEnd_cons_zero, lineStart, lineStart_zero]
      split
      · exact Nat.zero_le _
      · split <;> omega
    | succ line =>
      have here := ih line
      have next := ih (line + 1)
      rw [lineEnd_cons_succ]
      simp only [lineStart] at here next ⊢
      split <;> omega

theorem lineEnd_le_lineStart_of_lt (text : Document) {first second : Nat} (before : first < second) :
    lineEnd text first ≤ lineStart text second := by
  induction second with
  | zero => exact absurd before (Nat.not_lt_zero first)
  | succ second ih =>
    rcases Nat.lt_succ_iff_lt_or_eq.mp before with earlier | same
    · have next := lineEnd_le_lineStart_succ text second
      have ordered := lineStart_le_lineEnd text second
      exact Nat.le_trans (ih earlier) (Nat.le_trans ordered next)
    · rw [same]
      exact lineEnd_le_lineStart_succ text second

theorem lineStart_mono (text : Document) {first second : Nat} (ordered : first ≤ second) :
    lineStart text first ≤ lineStart text second := by
  rcases Nat.lt_or_eq_of_le ordered with before | same
  · exact Nat.le_trans (lineStart_le_lineEnd text first) (lineEnd_le_lineStart_of_lt text before)
  · exact Nat.le_of_eq (congrArg _ same)

/-- A line of the text that starts before an offset is not behind the line of the offset. -/
theorem le_lineOf {text : Document} {line offset : Nat} (isLine : line ≤ lastLine text)
    (before : lineStart text line ≤ offset) : line ≤ lineOf text offset := by
  unfold lastLine at isLine
  induction text generalizing line offset with
  | nil =>
    simp only [List.length_nil, lineOf_zero] at isLine
    omega
  | cons c rest ih =>
    cases line with
    | zero => exact Nat.zero_le _
    | succ line =>
      cases offset with
      | zero =>
        simp only [lineStart] at before
        omega
      | succ offset =>
        simp only [lineStart, lineOf, List.length_cons] at isLine before ⊢
        by_cases ends : endsLine c rest.head? = true
        · simp only [ends, ↓reduceIte] at isLine before ⊢
          have next := @ih line offset (by omega) (by omega)
          omega
        · simp only [ends, Bool.false_eq_true, ↓reduceIte] at isLine before ⊢
          have next := @ih (line + 1) offset (by omega) (by omega)
          omega

/-- A line of the text starts on itself. -/
theorem lineOf_lineStart {text : Document} {line : Nat} (isLine : line ≤ lastLine text) :
    lineOf text (lineStart text line) = line := by
  unfold lastLine at isLine
  induction text generalizing line with
  | nil =>
    rw [List.length_nil, lineOf_zero] at isLine
    rw [Nat.le_zero.mp isLine]
    rfl
  | cons c rest ih =>
    cases line with
    | zero => rw [lineStart_zero, lineOf_zero]
    | succ line =>
      by_cases ends : endsLine c rest.head? = true
      · simp only [List.length_cons, lineOf, lineStart, ends, ↓reduceIte, Nat.add_comm 1] at isLine ⊢
        rw [ih (Nat.le_of_succ_le_succ isLine)]
      · simp only [List.length_cons, lineOf, lineStart, ends, Bool.false_eq_true, ↓reduceIte,
          Nat.zero_add, Nat.add_comm 1] at isLine ⊢
        exact ih isLine

/-- The last line ends with the text. -/
theorem lineEnd_of_lastLine_le {text : Document} {line : Nat} (isLast : lastLine text ≤ line) :
    lineEnd text line = text.length := by
  unfold lastLine at isLast
  induction text generalizing line with
  | nil => cases line <;> rfl
  | cons c rest ih =>
    by_cases ends : endsLine c rest.head? = true
    · simp only [List.length_cons, lineOf, ends, ↓reduceIte] at isLast
      cases line with
      | zero => omega
      | succ line =>
        rw [lineEnd_cons_succ, if_pos ends, ih (by omega), List.length_cons, Nat.add_comm]
    · simp only [List.length_cons, lineOf, ends, Bool.false_eq_true, ↓reduceIte, Nat.zero_add] at isLast
      cases line with
      | zero =>
        have noNewline : c ≠ '\n' := by
          rintro rfl
          exact ends (endsLine_newline _)
        rw [lineEnd_cons_zero, if_neg noNewline, if_neg ends, ih isLast, List.length_cons, Nat.add_comm]
      | succ line =>
        rw [lineEnd_cons_succ, if_neg ends, ih isLast, List.length_cons, Nat.add_comm]

theorem lineOf_succ {text : Document} {offset : Nat} {c : Char} (here : text[offset]? = some c) :
    lineOf text (offset + 1) = lineOf text offset + if endsLine c text[offset + 1]? then 1 else 0 := by
  induction text generalizing offset with
  | nil => cases here
  | cons head rest ih =>
    cases offset with
    | zero =>
      cases here
      rw [lineOf_zero, lineOf, lineOf_zero, List.head?_eq_getElem?, List.getElem?_cons_succ, Nat.add_comm]
    | succ offset => rw [lineOf, lineOf, ih here, List.getElem?_cons_succ, Nat.add_assoc]

/-- Between the start of its line and an offset all places are on that line. -/
theorem lineOf_eq_of_between {text : Document} {place offset : Nat}
    (behindStart : lineStart text (lineOf text offset) ≤ place) (before : place ≤ offset) :
    lineOf text place = lineOf text offset := by
  apply Nat.le_antisymm
  · exact lineOf_mono text before
  · exact le_lineOf (lineOf_le_lastLine text offset) behindStart

theorem lineStart_lineOf_of_endsLine {text : Document} {offset : Nat} {c : Char}
    (here : text[offset]? = some c) (ends : endsLine c text[offset + 1]? = true) :
    lineStart text (lineOf text (offset + 1)) = offset + 1 := by
  refine Nat.le_antisymm (lineStart_lineOf_le text _) (Nat.not_le.mp fun earlier => ?_)
  have same := lineOf_eq_of_between earlier (Nat.le_succ offset)
  rw [lineOf_succ here, if_pos ends] at same
  omega

/-- Behind a line feed a line starts. -/
theorem lineStart_lineOf_of_newline {text : Document} {offset : Nat}
    (newline : text[offset]? = some '\n') : lineStart text (lineOf text (offset + 1)) = offset + 1 :=
  lineStart_lineOf_of_endsLine newline (endsLine_newline _)

/-- A line feed is an empty line just if it begins the text or a line ends right before it. -/
theorem isEmptyLine_of_newline_iff {text : Document} {place : Nat} (newline : text[place]? = some '\n') :
    isEmptyLine text (lineOf text place) = true ↔
      ∀ before c, place = before + 1 → text[before]? = some c → endsLine c (some '\n') = true := by
  have starts := lineStart_lineOf_le text place
  have empty : isEmptyLine text (lineOf text place) = true ↔ lineStart text (lineOf text place) = place := by
    rw [isEmptyLine, lineLength, lineEnd_lineOf_of_newline newline, beq_iff_eq]
    omega
  rw [empty]
  constructor
  · rintro isStart before c rfl here
    rw [← newline]
    refine Decidable.of_not_not fun goesOn => ?_
    have onLine := lineStart_lineOf_le text before
    rw [lineOf_succ here, if_neg goesOn, Nat.add_zero] at isStart
    omega
  · intro ends
    cases place with
    | zero => omega
    | succ before =>
      have inside := (List.getElem?_eq_some_iff.mp newline).1
      have here : text[before]? = some text[before] := List.getElem?_eq_getElem (by omega)
      exact lineStart_lineOf_of_endsLine here (newline ▸ ends before _ rfl here)

/-- Before the end of the line of an offset all places behind it are on that line. -/
theorem lineOf_eq_of_lt_lineEnd {text : Document} {place offset : Nat} (behind : offset ≤ place)
    (before : place < lineEnd text (lineOf text offset)) : lineOf text place = lineOf text offset := by
  rcases Nat.lt_or_ge (lineOf text offset) (lineOf text place) with further | back
  · have starts := lineStart_lineOf_le text place
    have ends := lineEnd_le_lineStart_of_lt text further
    omega
  · exact Nat.le_antisymm back (lineOf_mono text behind)

theorem lineStart_le_lineLimit (text : Document) (line : Nat) (pastEnd : Bool) :
    lineStart text line ≤ lineLimit text line pastEnd := by
  have ordered := lineStart_le_lineEnd text line
  unfold lineLimit
  dsimp only
  split
  · exact ordered
  · omega

theorem lineLimit_le_lineEnd (text : Document) (line : Nat) (pastEnd : Bool) :
    lineLimit text line pastEnd ≤ lineEnd text line := by
  unfold lineLimit
  dsimp only
  split
  · exact Nat.le_refl _
  · exact Nat.sub_le _ _

theorem lineLimit_le (text : Document) (line : Nat) (pastEnd : Bool) :
    lineLimit text line pastEnd ≤ text.length :=
  Nat.le_trans (lineLimit_le_lineEnd text line pastEnd) (lineEnd_le text line)

/-- A caret that has to stand on a character of a line is on that line. -/
theorem lineOf_eq_of_le_lineLimit {text : Document} {line place : Nat} (isLine : line ≤ lastLine text)
    (starts : lineStart text line ≤ place) (within : place ≤ lineLimit text line false) :
    lineOf text place = line := by
  have startsThere := lineOf_lineStart isLine
  by_cases atStart : place = lineStart text line
  · rw [atStart, startsThere]
  · have before : place < lineEnd text line := by
      unfold lineLimit at within
      dsimp only at within
      split at within
      · rename_i emptyLine
        have none := emptyLine.resolve_left Bool.false_ne_true
        omega
      · omega
    rw [← startsThere] at before
    rw [lineOf_eq_of_lt_lineEnd starts before, startsThere]

theorem clampCaret_eq_min (text : Document) (offset : Nat) (pastEnd : Bool) :
    clampCaret text offset pastEnd = min offset (lineLimit text (lineOf text offset) pastEnd) := by
  simp only [clampCaret, Nat.max_eq_left (lineStart_lineOf_le text offset)]

/-- A caret is never moved back by more than one character. -/
theorem sub_one_le_clampCaret {text : Document} {offset : Nat} (inside : offset ≤ text.length)
    (pastEnd : Bool) : offset - 1 ≤ clampCaret text offset pastEnd := by
  have onLine := le_lineEnd_lineOf inside
  rw [clampCaret_eq_min]
  unfold lineLimit
  dsimp only
  split <;> omega

/-- A caret may stand on any character of a line. -/
theorem clampCaret_of_lt_lineEnd {text : Document} {offset : Nat} (pastEnd : Bool)
    (before : offset < lineEnd text (lineOf text offset)) :
    clampCaret text offset pastEnd = offset := by
  have starts := lineStart_lineOf_le text offset
  rw [clampCaret_eq_min]
  unfold lineLimit
  dsimp only
  split <;> omega

theorem clampCaret_le (text : Document) (offset : Nat) (pastEnd : Bool) :
    clampCaret text offset pastEnd ≤ text.length := by
  rw [clampCaret_eq_min]
  exact Nat.le_trans (Nat.min_le_right _ _) (lineLimit_le text _ pastEnd)

/-- A caret that may stand behind the last character of a line may stand anywhere. -/
theorem clampCaret_pastEnd {text : Document} {offset : Nat} (inside : offset ≤ text.length) :
    clampCaret text offset true = offset := by
  have limit : lineLimit text (lineOf text offset) true = lineEnd text (lineOf text offset) := by
    unfold lineLimit
    exact if_pos (Or.inl rfl)
  rw [clampCaret_eq_min, limit]
  exact Nat.min_eq_left (le_lineEnd_lineOf inside)

/-- Where a caret may stand that has to be on a character, any caret may stand. -/
theorem clampCaret_of_rests {text : Document} {offset : Nat}
    (rests : clampCaret text offset false = offset) (pastEnd : Bool) :
    clampCaret text offset pastEnd = offset := by
  cases pastEnd with
  | false => exact rests
  | true =>
    have inside := clampCaret_le text offset false
    rw [rests] at inside
    exact clampCaret_pastEnd inside

theorem lineOf_clampCaret (text : Document) (offset : Nat) (pastEnd : Bool) :
    lineOf text (clampCaret text offset pastEnd) = lineOf text offset := by
  rw [clampCaret_eq_min]
  apply lineOf_eq_of_between
  · exact Nat.le_min.mpr ⟨lineStart_lineOf_le text offset, lineStart_le_lineLimit text _ pastEnd⟩
  · exact Nat.min_le_left _ _

theorem clampCaret_clampCaret (text : Document) (offset : Nat) (pastEnd : Bool) :
    clampCaret text (clampCaret text offset pastEnd) pastEnd = clampCaret text offset pastEnd := by
  rw [clampCaret_eq_min text (clampCaret text offset pastEnd), lineOf_clampCaret,
    clampCaret_eq_min text offset, Nat.min_assoc, Nat.min_self]

theorem length_lineText (text : Document) (line : Nat) :
    (lineText text line).length = lineEnd text line - lineStart text line := by
  simp only [lineText, slice, List.length_drop, List.length_take, Nat.min_eq_left (lineEnd_le text line)]

/-- A part of a line. -/
theorem slice_lineStart_add {text : Document} {line stop : Nat} (start : Nat)
    (inside : stop ≤ (lineText text line).length) :
    slice text (lineStart text line + start) (lineStart text line + stop) =
      ((lineText text line).take stop).drop start := by
  have upTo : lineStart text line + stop ≤ lineEnd text line := by
    rw [length_lineText] at inside
    have ordered := text.lineStart_le_lineEnd line
    omega
  rw [lineText, slice, slice, List.drop_take, List.drop_take, List.drop_take, List.drop_take, List.take_take,
    List.drop_drop]
  congr 1
  omega

theorem firstNonBlank_le_lineEnd (text : Document) (line : Nat) :
    firstNonBlank text line ≤ lineEnd text line := by
  have blanks := (List.takeWhile_prefix (fun c => c == ' ' || c == '\t')
    (l := lineText text line)).length_le
  have length := length_lineText text line
  have ordered := lineStart_le_lineEnd text line
  simp only [firstNonBlank]
  omega

theorem firstNonBlank_le (text : Document) (line : Nat) : firstNonBlank text line ≤ text.length :=
  Nat.le_trans (firstNonBlank_le_lineEnd text line) (lineEnd_le text line)

end Document

/-! ### Texts with line feeds only

Texts in which nothing but line feeds ends a line. A line then reaches up to its line feed, and the next
line starts right behind that.
-/

namespace Document

/-- Whether nothing but line feeds ends a line. -/
def Plain (text : Document) : Prop :=
  ∀ c ∈ text, c ≠ '\r' ∧ (isBreak c = true → c = '\n')

instance (text : Document) : Decidable (Plain text) :=
  List.decidableBAll _ text

namespace Plain

variable {text : Document} {c : Char} {rest : Document}

theorem of_subset {other : Document} (plain : Plain text) (subset : other ⊆ text) : Plain other :=
  fun c member => plain c (subset member)

theorem tail (plain : Plain (c :: rest)) : Plain rest :=
  plain.of_subset (List.subset_cons_self c rest)

theorem eq_newline_of_endsLine (plain : Plain text) (member : c ∈ text) {next? : Option Char}
    (ends : endsLine c next? = true) : c = '\n' := by
  obtain ⟨noReturn, onlyNewline⟩ := plain c member
  unfold endsLine at ends
  rw [if_neg noReturn] at ends
  exact onlyNewline ends

theorem endsLine_iff (plain : Plain (c :: rest)) : endsLine c rest.head? = true ↔ c = '\n' := by
  refine ⟨plain.eq_newline_of_endsLine List.mem_cons_self, ?_⟩
  rintro rfl
  rfl

theorem lineOf_eq_count (plain : Plain text) (offset : Nat) :
    lineOf text offset = (text.take offset).count '\n' := by
  induction text generalizing offset with
  | nil => cases offset <;> rfl
  | cons c rest ih =>
    cases offset with
    | zero => rfl
    | succ offset =>
      rw [lineOf, ih plain.tail, List.take_succ_cons, List.count_cons, Nat.add_comm]
      by_cases newline : c = '\n'
      · rw [if_pos (plain.endsLine_iff.mpr newline), if_pos (beq_iff_eq.mpr newline)]
      · rw [if_neg (mt plain.endsLine_iff.mp newline), if_neg (mt beq_iff_eq.mp newline)]

/-- Each line but the last ends at a line feed, and the next starts behind it. -/
theorem newline_at_lineEnd (plain : Plain text) {line : Nat} (before : line < lastLine text) :
    text[lineEnd text line]? = some '\n' ∧ lineStart text (line + 1) = lineEnd text line + 1 := by
  unfold lastLine at before
  induction text generalizing line with
  | nil => exact absurd before (Nat.not_lt_zero line)
  | cons c rest ih =>
    rw [List.length_cons, lineOf] at before
    by_cases newline : c = '\n'
    · have ends := plain.endsLine_iff.mpr newline
      rw [if_pos ends] at before
      cases line with
      | zero =>
        rw [lineEnd_cons_zero, if_pos newline, lineStart, if_pos ends, lineStart_zero, newline]
        exact ⟨rfl, rfl⟩
      | succ line =>
        have inRest : line < lineOf rest rest.length := by omega
        obtain ⟨found, starts⟩ := ih plain.tail inRest
        rw [lineEnd_cons_succ, if_pos ends, lineStart, if_pos ends, starts, Nat.add_comm 1,
          List.getElem?_cons_succ]
        exact ⟨found, by omega⟩
    · have goesOn := mt plain.endsLine_iff.mp newline
      rw [if_neg goesOn, Nat.zero_add] at before
      obtain ⟨found, starts⟩ := ih plain.tail before
      have ends : lineEnd (c :: rest) line = lineEnd rest line + 1 := by
        cases line with
        | zero => rw [lineEnd_cons_zero, if_neg newline, if_neg goesOn, Nat.add_comm]
        | succ line => rw [lineEnd_cons_succ, if_neg goesOn, Nat.add_comm]
      rw [ends, lineStart, if_neg goesOn, starts, List.getElem?_cons_succ]
      exact ⟨found, Nat.add_comm _ _⟩

/-- From its start to its end all places are on a line. -/
theorem lineOf_eq (plain : Plain text) {line place : Nat} (isLine : line ≤ lastLine text)
    (behind : lineStart text line ≤ place) (before : place ≤ lineEnd text line) :
    lineOf text place = line := by
  refine Nat.le_antisymm (Nat.not_lt.mp fun further => ?_) (le_lineOf isLine behind)
  have next := (plain.newline_at_lineEnd (Nat.lt_of_lt_of_le further (lineOf_le_lastLine text place))).2
  have starts : lineStart text (line + 1) ≤ place :=
    Nat.le_trans (lineStart_mono text further) (lineStart_lineOf_le text place)
  omega

end Plain

end Document

/-! ### Replaced parts of a text -/

namespace Document

theorem length_slice (text : Document) (start stop : Nat) :
    (slice text start stop).length = min stop text.length - start := by
  simp only [slice, List.length_drop, List.length_take]

theorem length_replace (text : Document) (start stop : Nat) (inserted : List Char)
    (inside : start ≤ text.length) :
    (replace text start stop inserted).length =
      start + inserted.length + (text.length - max start stop) := by
  simp only [replace, List.length_append, List.length_take, List.length_drop]
  omega

theorem start_add_length_le_replace (text : Document) (start stop : Nat) (inserted : List Char)
    (inside : start ≤ text.length) :
    start + inserted.length ≤ (replace text start stop inserted).length := by
  rw [length_replace text start stop inserted inside]
  omega

/-- A slice that has been cut short by the end of the text is the slice of its own length. -/
theorem slice_own_length (text : Document) (start stop : Nat) :
    slice text start (start + (slice text start stop).length) = slice text start stop := by
  rw [length_slice]
  by_cases ordered : start ≤ min stop text.length
  · have stopsAt : start + (min stop text.length - start) = min stop text.length := by omega
    rw [stopsAt]
    simp only [slice, ← List.take_eq_take_min]
  · have empty : start + (min stop text.length - start) = start := by omega
    rw [empty]
    have first : (slice text start start).length = 0 := by
      rw [length_slice]
      omega
    have second : (slice text start stop).length = 0 := by
      rw [length_slice]
      omega
    rw [List.eq_nil_of_length_eq_zero first, List.eq_nil_of_length_eq_zero second]

/-- Replacing up to `stop` is replacing what really stands there. -/
theorem replace_slice (text : Document) (start stop : Nat) (inserted : List Char) :
    replace text start (start + (slice text start stop).length) inserted =
      replace text start stop inserted := by
  have rest : text.drop (max start (start + (slice text start stop).length)) =
      text.drop (max start stop) := by
    rw [length_slice]
    by_cases short : stop ≤ text.length
    · have same : max start (start + (min stop text.length - start)) = max start stop := by omega
      rw [same]
    · rw [List.drop_eq_nil_of_le (by omega : text.length ≤ max start stop),
        List.drop_eq_nil_of_le (by omega)]
  simp only [replace, rest]

theorem replace_nothing (text : Document) (place : Nat) : replace text place place [] = text := by
  rw [replace, List.append_nil, Nat.max_self, List.take_append_drop]

theorem take_append_slice (text : Document) (start length : Nat) :
    text.take start ++ slice text start (start + length) = text.take (start + length) := by
  have same : slice text start (start + length) = (text.drop start).take length := by
    simp only [slice, List.drop_take, Nat.add_sub_cancel_left]
  rw [same, ← List.take_add]

theorem replace_cons (c : Char) (rest : Document) (start stop : Nat) (inserted : List Char) :
    replace (c :: rest) (start + 1) (stop + 1) inserted = c :: replace rest start stop inserted := by
  unfold replace
  rw [Nat.succ_max_succ]
  rfl

/-- Replacing right behind a part of the text. -/
theorem replace_append (front back : Document) (count : Nat) (inserted : List Char) :
    replace (front ++ back) front.length (front.length + count) inserted =
      front ++ inserted ++ back.drop count := by
  rw [replace, Nat.max_eq_right (Nat.le_add_right _ _), List.take_left, List.drop_length_add_append]

end Document

namespace Change

/-- Whether the change can be made: what it takes out stands at its offset. -/
structure Fits (change : Change) (text : Document) : Prop where
  inside : change.offset ≤ text.length
  removes : text.slice change.offset (change.offset + change.removed.length) = change.removed

/-- The change that records a replacement. -/
theorem fits_recorded (text : Document) (start stop : Nat) (inserted : List Char)
    (inside : start ≤ text.length) :
    Fits ⟨start, text.slice start stop, inserted⟩ text :=
  ⟨inside, text.slice_own_length start stop⟩

theorem apply_recorded (text : Document) (start stop : Nat) (inserted : List Char) :
    apply ⟨start, text.slice start stop, inserted⟩ text = text.replace start stop inserted :=
  text.replace_slice start stop inserted

theorem apply_of_isEmpty {change : Change} (empty : change.isEmpty = true) (text : Document) :
    change.apply text = text := by
  simp only [isEmpty, Bool.and_eq_true, List.isEmpty_iff] at empty
  simp only [apply, empty.1, empty.2, Document.replace, List.length_nil, Nat.add_zero,
    Nat.max_self, List.append_nil, List.take_append_drop]

/-- Taking a change back that fits restores the text. -/
theorem apply_inverse_apply {change : Change} {text : Document} (fits : change.Fits text) :
    change.inverse.apply (change.apply text) = text := by
  obtain ⟨offset, removed, inserted⟩ := change
  have inside : offset ≤ text.length := fits.inside
  have removes : text.slice offset (offset + removed.length) = removed := fits.removes
  have front : (text.take offset).length = offset := List.length_take_of_le inside
  have behind : (text.take offset ++ inserted).length = offset + inserted.length := by
    rw [List.length_append, front]
  have made : apply ⟨offset, removed, inserted⟩ text =
      text.take offset ++ inserted ++ text.drop (offset + removed.length) := by
    simp only [apply, Document.replace, Nat.max_eq_right (Nat.le_add_right offset _)]
  have whole : text.take offset ++ removed ++ text.drop (offset + removed.length) = text := by
    rw [← removes, Document.take_append_slice, removes, List.take_append_drop]
  simp only [apply, inverse] at made ⊢
  rw [made]
  simp only [Document.replace, Nat.max_eq_right (Nat.le_add_right offset _)]
  rw [List.append_assoc (text.take offset), List.take_left' front,
    ← List.append_assoc (text.take offset), List.drop_left' behind, whole]

end Change

end ModalEdit

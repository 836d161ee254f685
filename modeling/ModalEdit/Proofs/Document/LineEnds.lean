import ModalEdit.Proofs.Document.LineList

/-!
Lines and the breaks that end them. Every line is cut from the text with its break behind it, its start is on it,
and its end leaves out a line feed and nothing else: behind a break without a line feed it is the start of the
next line, and between a carriage return and its line feed it is on the line, but not right behind its last
character.
-/

set_option autoImplicit false

namespace ModalEdit

namespace Document

/-- What ends a line that is not the last one. -/
def lineBreaks : List (List Char) :=
  [['\r', '\n'], ['\n'], ['\r'], ['\x0b'], ['\x0c'], ['\u0085'], ['\u2028'], ['\u2029']]

/-- What of a line break comes before its line feed. -/
def beforeFeed (stop : List Char) : List Char :=
  if stop.getLast? = some '\n' then stop.dropLast else stop

/-- A line of a text: what stands on it, and the break that ends it. Nothing ends the last line. -/
structure IsLine (text : Document) (line : Nat) (content stop : List Char) : Prop where
  cut : slice text (lineStart text line) (lineStart text (line + 1)) = content ++ stop
  unbroken : Unbroken content
  stops : if line = lastLine text then stop = [] else stop ∈ lineBreaks
  ends : lineEnd text line = lineStart text line + (content ++ beforeFeed stop).length

variable {text : Document} {line : Nat} {content stop : List Char}

theorem slice_cons (c : Char) (rest : Document) (start stop : Nat) :
    slice (c :: rest) (1 + start) (1 + stop) = slice rest start stop := by
  simp only [slice, Nat.add_comm 1, List.take_succ_cons, List.drop_succ_cons]

theorem slice_zero_cons (c : Char) (rest : Document) (stop : Nat) :
    slice (c :: rest) 0 (1 + stop) = c :: slice rest 0 stop := by
  simp only [slice, Nat.add_comm 1, List.take_succ_cons, List.drop_zero]

/-- A character that ends a line by itself is a break. -/
theorem singleton_mem_lineBreaks {c : Char} {next? : Option Char} (ends : endsLine c next? = true) :
    [c] ∈ lineBreaks := by
  unfold endsLine at ends
  split at ends
  · rename_i isReturn
    rw [isReturn]
    decide
  · simp only [isBreak, Bool.or_eq_true, beq_iff_eq] at ends
    simp only [lineBreaks, List.mem_cons, List.cons.injEq, and_true, List.not_mem_nil, or_false]
    simp only [reduceCtorEq, and_false, false_or]
    tauto

/-- A character that ends no line is one of those that never do, or the first half of a break. -/
theorem not_break_or_return {c : Char} {next? : Option Char} (goesOn : endsLine c next? ≠ true) :
    c ≠ '\r' ∧ isBreak c = false ∨ c = '\r' ∧ next? = some '\n' := by
  unfold endsLine at goesOn
  by_cases isReturn : c = '\r'
  · rw [if_pos isReturn] at goesOn
    exact .inr ⟨isReturn, by simpa using goesOn⟩
  · rw [if_neg isReturn] at goesOn
    exact .inl ⟨isReturn, by simpa using goesOn⟩

theorem lastLine_cons (c : Char) (rest : Document) :
    lastLine (c :: rest) = (if endsLine c rest.head? then 1 else 0) + lastLine rest := rfl

/-! ### Every line is one -/

/-- The first line is the break that begins the text. -/
theorem isLine_of_endsLine {c : Char} {rest : Document} (ends : endsLine c rest.head? = true) :
    IsLine (c :: rest) 0 [] [c] where
  cut := by
    rw [lineStart_zero, lineStart, if_pos ends, lineStart_zero, slice_zero_cons]
    rfl
  unbroken := by
    intro other member
    cases member
  stops := by
    rw [lastLine_cons, if_pos ends, if_neg (by omega)]
    exact singleton_mem_lineBreaks ends
  ends := by
    rw [lineEnd_cons_zero, lineStart_zero, if_pos ends]
    by_cases newline : c = '\n'
    · simp [newline, beforeFeed]
    · simp [newline, beforeFeed]

/-- A carriage return and the line feed behind it are one break. -/
theorem isLine_of_return (rest : Document) : IsLine ('\r' :: '\n' :: rest) 0 [] ['\r', '\n'] where
  cut := by
    rw [lineStart_zero]
    simp [lineStart, lineStart_zero, endsLine, isBreak, slice]
  unbroken := by
    intro other member
    cases member
  stops := by
    have some : 0 ≠ lastLine ('\r' :: '\n' :: rest) := by
      rw [lastLine_cons, lastLine_cons, if_pos (endsLine_newline _)]
      omega
    rw [if_neg some]
    decide
  ends := by
    rw [lineEnd_cons_zero, lineEnd_cons_zero, lineStart_zero]
    simp [endsLine, beforeFeed]

/-- A character in front of the first line. -/
theorem IsLine.cons_first {c : Char} {rest : Document} (isLine : IsLine rest 0 content stop)
    (goesOn : endsLine c rest.head? ≠ true) (plain : c ≠ '\r' ∧ isBreak c = false) :
    IsLine (c :: rest) 0 (c :: content) stop where
  cut := by
    have cut := isLine.cut
    rw [lineStart_zero] at cut ⊢
    rw [lineStart, if_neg goesOn, slice_zero_cons, cut]
    rfl
  unbroken := by
    intro other member
    rcases List.mem_cons.mp member with rfl | inContent
    · exact plain
    · exact isLine.unbroken other inContent
  stops := by
    have stops := isLine.stops
    rwa [lastLine_cons, if_neg goesOn, Nat.zero_add]
  ends := by
    have ends := isLine.ends
    have noNewline : c ≠ '\n' := by
      rintro rfl
      exact goesOn (endsLine_newline _)
    rw [lineStart_zero] at ends ⊢
    rw [lineEnd_cons_zero, if_neg noNewline, if_neg goesOn, ends]
    simp only [List.cons_append, List.length_cons]
    omega

/-- A character in front of a text, on a line before. -/
theorem IsLine.cons_before {c : Char} {rest : Document} {other : Nat} (isLine : IsLine rest other content stop)
    (follows : line + 1 = (if endsLine c rest.head? then 1 else 0) + other) :
    IsLine (c :: rest) (line + 1) content stop := by
  have starts (row : Nat) : lineStart (c :: rest) (line + 1 + row) = 1 + lineStart rest (other + row) := by
    rw [Nat.add_right_comm, lineStart]
    split at follows <;> rename_i ends
    · rw [if_pos ends]
      congr 2
      omega
    · rw [if_neg ends]
      congr 2
      omega
  have ends : lineEnd (c :: rest) (line + 1) = 1 + lineEnd rest other := by
    rw [lineEnd_cons_succ]
    split at follows <;> rename_i ends
    · rw [if_pos ends]
      congr 2
      omega
    · rw [if_neg ends]
      congr 2
      omega
  have isLast : line + 1 = lastLine (c :: rest) ↔ other = lastLine rest := by
    rw [lastLine_cons]
    omega
  refine ⟨?_, isLine.unbroken, ?_, ?_⟩
  · rw [starts 1, ← Nat.add_zero (line + 1), starts 0, slice_cons]
    exact isLine.cut
  · simp only [isLast]
    exact isLine.stops
  · rw [ends, ← Nat.add_zero (line + 1), starts 0, isLine.ends, Nat.add_zero, Nat.add_assoc]

/-- Every line of a text is made up of what stands on it and of a break. The induction follows the text, and a
character in front of it is on the first line or moves all others on. -/
theorem exists_isLine (within : line ≤ lastLine text) : ∃ content stop, IsLine text line content stop := by
  induction text generalizing line with
  | nil =>
    have first : line = 0 := Nat.le_zero.mp within
    subst first
    exact ⟨[], [], rfl, fun c member => absurd member List.not_mem_nil, rfl, rfl⟩
  | cons c rest ih =>
    rw [lastLine_cons] at within
    by_cases ends : endsLine c rest.head? = true
    · rw [if_pos ends] at within
      cases line with
      | zero => exact ⟨[], [c], isLine_of_endsLine ends⟩
      | succ line =>
        have inRest : line ≤ lastLine rest := by omega
        obtain ⟨content, stop, isLine⟩ := ih inRest
        exact ⟨content, stop, isLine.cons_before (by rw [if_pos ends, Nat.add_comm])⟩
    · rw [if_neg ends, Nat.zero_add] at within
      cases line with
      | zero =>
        rcases not_break_or_return ends with plain | ⟨rfl, feed⟩
        · obtain ⟨content, stop, isLine⟩ := ih within
          exact ⟨c :: content, stop, isLine.cons_first ends plain⟩
        · obtain ⟨behind, rfl⟩ := List.head?_eq_some_iff.mp feed
          exact ⟨[], _, isLine_of_return behind⟩
      | succ line =>
        obtain ⟨content, stop, isLine⟩ := ih within
        exact ⟨content, stop, isLine.cons_before (by rw [if_neg ends, Nat.zero_add])⟩

/-! ### Where a line ends -/

namespace IsLine

variable (isLine : IsLine text line content stop)

include isLine

theorem lineStart_succ : lineStart text (line + 1) = lineStart text line + (content ++ stop).length := by
  have length := congrArg List.length isLine.cut
  have ordered : lineStart text line ≤ lineStart text (line + 1) := lineStart_mono text (Nat.le_succ line)
  have inside := lineStart_le text (line + 1)
  rw [length_slice, Nat.min_eq_left inside] at length
  omega

/-- The end of a line is right behind its last character just if a line feed is all that ends it. -/
theorem lineEnd_eq_iff :
    lineEnd text line = lineStart text line + content.length ↔ stop ∈ [[], ['\n']] := by
  rw [isLine.ends, List.length_append]
  have stops := isLine.stops
  split at stops
  · simp [stops, beforeFeed]
  · simp only [lineBreaks, List.mem_cons, List.not_mem_nil, or_false] at stops
    rcases stops with rfl | rfl | rfl | rfl | rfl | rfl | rfl | rfl <;> simp [beforeFeed]

/-- The end of a line that is not the last one is before the next line just if a line feed ends it. -/
theorem lineEnd_lt_lineStart_succ_iff :
    lineEnd text line < lineStart text (line + 1) ↔ stop.getLast? = some '\n' := by
  rw [isLine.ends, isLine.lineStart_succ, List.length_append, List.length_append]
  unfold beforeFeed
  by_cases feed : stop.getLast? = some '\n'
  · have some : 0 < stop.length := by
      apply List.length_pos_of_ne_nil
      rintro rfl
      cases feed
    rw [if_pos feed, List.length_dropLast]
    simp only [feed, iff_true]
    omega
  · rw [if_neg feed]
    simp only [feed, iff_false]
    omega

/-- The end of a line is on it, unless something else than a line feed ends the line. -/
theorem lineOf_lineEnd_iff (within : line ≤ lastLine text) :
    lineOf text (lineEnd text line) = line ↔ stop = [] ∨ stop.getLast? = some '\n' := by
  have stops := isLine.stops
  have behindStart : line ≤ lineOf text (lineEnd text line) :=
    le_lineOf within (lineStart_le_lineEnd text line)
  split at stops
  · rename_i isLast
    have atMost := lineOf_le_lastLine text (lineEnd text line)
    simp only [stops, true_or, iff_true]
    omega
  · rename_i notLast
    have nonempty : stop ≠ [] := by
      rintro rfl
      exact absurd stops (by decide)
    have isNext : line + 1 ≤ lastLine text := by omega
    rw [← isLine.lineEnd_lt_lineStart_succ_iff]
    simp only [nonempty, false_or]
    constructor
    · intro onLine
      apply Nat.not_le.mp
      intro starts
      have further := le_lineOf isNext starts
      omega
    · intro before
      apply Nat.le_antisymm _ behindStart
      apply Nat.not_lt.mp
      intro further
      have starts : lineStart text (line + 1) ≤ _ := lineStart_mono text further
      have reached := lineStart_lineOf_le text (lineEnd text line)
      omega

end IsLine

/-- Every line of a text, up to the start of the next one, is what stands on it with the break that ends it
behind. It starts on itself. Its end is on it just if the break ends with a line feed, or there is none, and it is
right behind what stands on the line just if the line feed is all of the break. -/
theorem line_bounds_iff (text : Document) (line : Nat) (within : line < lineCount text) :
    ∃ content stop : List Char,
      slice text (lineStart text line) (lineStart text (line + 1)) = content ++ stop ∧
      Unbroken content ∧
      (if line + 1 = lineCount text then stop = [] else stop ∈ lineBreaks) ∧
      lineOf text (lineStart text line) = line ∧
      (lineOf text (lineEnd text line) = line ↔ stop ∈ [[], ['\n'], ['\r', '\n']]) ∧
      (lineEnd text line = lineStart text line + content.length ↔ stop ∈ [[], ['\n']]) := by
  have isOne : line ≤ lastLine text := Nat.le_of_lt_succ within
  obtain ⟨content, stop, isLine⟩ := exists_isLine isOne
  have isLast : line + 1 = lineCount text ↔ line = lastLine text := by
    unfold lineCount
    omega
  have stops := isLine.stops
  simp only [← isLast] at stops
  have fed : stop = [] ∨ stop.getLast? = some '\n' ↔ stop ∈ [[], ['\n'], ['\r', '\n']] := by
    split at stops
    · simp [stops]
    · exact (by decide : ∀ stop ∈ lineBreaks, (stop = [] ∨ stop.getLast? = some '\n' ↔
        stop ∈ [[], ['\n'], ['\r', '\n']])) stop stops
  refine ⟨content, stop, isLine.cut, isLine.unbroken, stops, lineOf_lineStart isOne, ?_, isLine.lineEnd_eq_iff⟩
  rw [← fed]
  exact isLine.lineOf_lineEnd_iff isOne

/-- A line that a vertical tab ends: its end is on the next line. -/
theorem line_bounds_iff_verticalTab :
    let text : Document := ['a', '\x0b', 'b']
    0 < lineCount text ∧ lineOf text (lineEnd text 0) = 1 ∧
      ∃ content stop : List Char, ['a', '\x0b'] = content ++ stop ∧ Unbroken content ∧ stop ∈ lineBreaks ∧
        stop ∉ [[], ['\n'], ['\r', '\n']] ∧ lineEnd text 0 ≠ content.length := by
  intro text
  have some : 0 < lineCount text := by decide
  have next : lineOf text (lineEnd text 0) = 1 := by decide
  obtain ⟨content, stop, cut, unbroken, stops, -, onLine, behind⟩ := line_bounds_iff text 0 some
  have other : stop ∉ [[], ['\n'], ['\r', '\n']] := by
    rw [← onLine, next]
    decide
  refine ⟨some, next, content, stop, cut, unbroken, stops, other, ?_⟩
  intro ends
  apply other
  have feed := behind.mp (ends.trans (Nat.zero_add _).symm)
  simp only [List.mem_cons, List.not_mem_nil, or_false] at feed ⊢
  tauto

end Document

end ModalEdit

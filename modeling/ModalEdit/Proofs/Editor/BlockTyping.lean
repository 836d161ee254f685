import ModalEdit.Proofs.Document.LineList
import ModalEdit.Proofs.Edit.Block
import ModalEdit.Proofs.Edit.Settings
import ModalEdit.Proofs.Editor.Inserting
import ModalEdit.Proofs.Editor.Single
import ModalEdit.Proofs.Response.Counts
import ModalEdit.Proofs.Session.Escaping

/-!
Typing into a block: with one caret on each line that reaches the left edge, whatever is typed goes into each of
these lines at the edge, and nothing else changes.
-/

set_option autoImplicit false

namespace ModalEdit

/-- A line with a text put in before the character that covers a column, or behind a line that ends there. -/
def Ruler.putAt (ruler : Ruler) (column : Nat) (typed line : List Char) : List Char :=
  line.take (ruler.countBefore column 0 line) ++ typed ++ line.drop (ruler.countBefore column 0 line)

namespace Window

open Document

variable {window : Window} {first last left row : Nat}

/-- The lines of a block that reach its left edge. -/
def reachingLines (window : Window) (first last left : Nat) : List Nat :=
  (window.text.linesWithin first last).filter (left ≤ window.lineWidth ·)

/-- The place of the left edge on a line of the text. -/
def edgePlace (window : Window) (left row : Nat) : Nat :=
  window.ruler.countBefore left 0 (lineText window.text row)

section Plain

variable (plain : Plain window.text)

include plain

theorem mem_reachingLines :
    row ∈ window.reachingLines first last left ↔
      row ≤ window.text.lastLine ∧ first ≤ row ∧ row ≤ last ∧
        left ≤ window.ruler.columnAfter 0 (lineText window.text row) := by
  rw [reachingLines, List.mem_filter, mem_linesWithin, decide_eq_true_eq]
  constructor
  · rintro ⟨⟨behind, before, isLine⟩, wide⟩
    exact ⟨isLine, behind, before, lineWidth_eq plain isLine ▸ wide⟩
  · rintro ⟨isLine, behind, before, wide⟩
    exact ⟨⟨behind, before, isLine⟩, (lineWidth_eq plain isLine).symm ▸ wide⟩

theorem spots_edge (first last left : Nat) :
    Spots window.text.lines (window.reachingLines first last left) (window.edgePlace left) := by
  refine ⟨(window.text.pairwise_linesWithin first last).filter _, fun row member => ?_⟩
  exact ⟨_, plain.getElem?_lines ((mem_reachingLines plain).mp member).1, window.ruler.countBefore_le left 0 _⟩

/-- Where text is typed into a block. -/
theorem blockColumn_eq (seen : window.AllShow) (isLine : row ≤ window.text.lastLine) :
    window.blockColumn row left = spot window.text.lines (window.edgePlace left) row := by
  have lineSeen := seen _ (List.mem_of_getElem? (plain.getElem?_lines isLine))
  have upTo := Ruler.countBefore_le_countBelow left 0 lineSeen window.ruler_tab_pos
  rw [spot, ← plain.lineStart_eq isLine, edgePlace, ← Nat.min_eq_left upTo]
  rfl

/-- Text put in at the left edge of a block. -/
theorem ofLines_putInto_edge (first last left : Nat) (typed : List Char) :
    ofLines (putInto window.text.lines (window.reachingLines first last left) (window.edgePlace left) typed) =
      window.text.mapLines fun row line =>
        if first ≤ row ∧ row ≤ last ∧ left ≤ window.ruler.columnAfter 0 line then
          window.ruler.putAt left typed line
        else line := by
  have byNumber : ofLines (putInto window.text.lines (window.reachingLines first last left) (window.edgePlace left)
      typed) = window.text.mapLines fun row line => if row ∈ window.reachingLines first last left then
        line.take (window.edgePlace left row) ++ typed ++ line.drop (window.edgePlace left row) else line := rfl
  rw [byNumber]
  apply plain.mapLines_congr
  intro row isLine
  simp only [mem_reachingLines plain, isLine, true_and]
  rfl

end Plain

/-- The window once a block has gone. -/
structure WithoutBlock (window after : Window) (first last left : Nat) (right? : Option Nat) : Prop where
  text : after.text = window.text.mapLines fun row line =>
    if first ≤ row ∧ row ≤ last then window.ruler.outside left right? line else line
  ruler : after.ruler = window.ruler

namespace WithoutBlock

variable {after : Window} {right? : Option Nat}

theorem subset (ruler : Ruler) (first last left : Nat) (right? : Option Nat) (row : Nat) (line : List Char) :
    (if first ≤ row ∧ row ≤ last then ruler.outside left right? line else line) ⊆ line := by
  split
  · exact Ruler.outside_subset _ _ _ _
  · exact List.Subset.refl line

theorem keeps (ruler : Ruler) (first last left : Nat) (right? : Option Nat) (row : Nat) (line : List Char)
    (unbroken : Unbroken line) :
    Unbroken (if first ≤ row ∧ row ≤ last then ruler.outside left right? line else line) :=
  unbroken.of_subset (subset ruler first last left right? row line)

variable (without : window.WithoutBlock after first last left right?) (wasPlain : Plain window.text)

include without wasPlain

theorem plain : Plain after.text := by
  rw [without.text]
  exact wasPlain.plain_mapLines (keeps _ _ _ _ _)

theorem lastLine : after.text.lastLine = window.text.lastLine := by
  rw [without.text]
  exact wasPlain.lastLine_mapLines (keeps _ _ _ _ _)

theorem lineText_eq (isLine : row ≤ window.text.lastLine) :
    lineText after.text row =
      if first ≤ row ∧ row ≤ last then window.ruler.outside left right? (lineText window.text row)
      else lineText window.text row := by
  rw [without.text]
  exact wasPlain.lineText_mapLines (keeps _ _ _ _ _) isLine

theorem allShow (seen : window.AllShow) : after.AllShow := by
  intro line member c inLine
  rw [without.text, wasPlain.lines_mapLines (keeps _ _ _ _ _)] at member
  obtain ⟨row, within, rfl⟩ := List.mem_mapIdx.mp member
  rw [without.ruler]
  exact seen _ (List.getElem_mem within) c (subset _ _ _ _ _ row _ inLine)

/-- Text put in at the left edge once the block has gone. -/
theorem mapLines_putAt (typed : List Char) :
    (after.text.mapLines fun row line =>
        if first ≤ row ∧ row ≤ last ∧ left ≤ after.ruler.columnAfter 0 line then after.ruler.putAt left typed line
        else line) =
      window.text.mapLines fun row line =>
        if first ≤ row ∧ row ≤ last then
          let rest := window.ruler.outside left right? line
          if left ≤ window.ruler.columnAfter 0 rest then window.ruler.putAt left typed rest else rest
        else line := by
  rw [without.text, wasPlain.mapLines_mapLines (keeps _ _ _ _ _), without.ruler]
  congr 1
  funext row line
  by_cases inBlock : first ≤ row ∧ row ≤ last
  · simp only [inBlock, ↓reduceIte, true_and, and_self]
  · have notReached : ¬(first ≤ row ∧ row ≤ last ∧ left ≤ window.ruler.columnAfter 0 line) :=
      fun reached => inBlock ⟨reached.1, reached.2.1⟩
    simp only [inBlock, ↓reduceIte, notReached]

end WithoutBlock

end Window

namespace Editor

open Document

variable {editor : Editor} {rows : List (List Char)} {changed : List Nat} {place : Nat → Nat}

/-- Carets that stand apart where the mode lets them stand keep their places. -/
theorem offsets_settle (pastEnd : editor.mode.caretPastEnd = true) (inText : editor.InText)
    (ascending : editor.carets.Ascending) :
    editor.settle.carets.toList.map Caret.offset = editor.carets.toList.map Caret.offset := by
  have offsets : (editor.carets.map editor.restCaret).toList.map Caret.offset =
      editor.carets.toList.map Caret.offset := by
    rw [CaretSet.toList_map, List.map_map]
    apply List.map_congr_left
    intro caret member
    have inside := inText caret member
    show editor.text.clampCaret (min caret.offset editor.text.length) editor.mode.caretPastEnd = caret.offset
    rw [pastEnd, Nat.min_eq_left inside, clampCaret_pastEnd inside]
  have stillAscending : (editor.carets.map editor.restCaret).Ascending := by
    unfold CaretSet.Ascending at ascending ⊢
    rw [← List.pairwise_map (f := Caret.offset) (R := (· < ·))] at ascending ⊢
    rwa [offsets]
  rw [carets_settle_eq, CaretSet.merge_of_ascending stillAscending, offsets]

/-- An editor that types text at a place on each of some lines. -/
structure TypesInto (editor : Editor) (rows : List (List Char)) (changed : List Nat) (place : Nat → Nat) :
    Prop where
  mode : editor.mode = .insert
  awaits : editor.pending.awaited = .command
  once : editor.typing.times ≤ 1
  spots : Spots rows changed place
  text : editor.text = ofLines rows
  offsets : editor.carets.toList.map Caret.offset = changed.map (spot rows place)

namespace TypesInto

variable (types : editor.TypesInto rows changed place)

include types

theorem inText : editor.InText := by
  intro caret member
  have isSpot : caret.offset ∈ changed.map (spot rows place) := by
    rw [← types.offsets]
    exact List.mem_map_of_mem member
  obtain ⟨row, inChanged, same⟩ := List.mem_map.mp isSpot
  rw [← same, types.text]
  exact types.spots.spot_le inChanged

theorem ascending : editor.carets.Ascending := by
  have apart := types.spots.pairwise_spot
  rw [← types.offsets] at apart
  exact List.pairwise_map.mp apart

theorem settle : editor.settle.TypesInto rows changed place := by
  have pastEnd : editor.mode.caretPastEnd = true := by
    rw [types.mode]
    rfl
  exact ⟨types.mode, types.awaits, types.once, types.spots, editor.standsAs_settle.text.trans types.text,
    (offsets_settle pastEnd types.inText types.ascending).trans types.offsets⟩

theorem insertText (chars : List Char) :
    (editor.insertText chars).TypesInto (putInto rows changed place chars) changed
      fun row => place row + chars.length := by
  have edits := edits_insertText chars editor
  have noted := congrArg Typing.times (typing_insertText chars editor)
  have inserts : editor.mode ≠ .replace := types.mode ▸ nofun
  have typed := typedAt_insertText chars inserts types.inText
  refine ⟨edits.mode.trans types.mode, (congrArg Pending.awaited edits.pending).trans types.awaits,
    Nat.le_trans (Nat.le_of_eq noted) types.once, types.spots.after chars, ?_, ?_⟩
  · have inside : ∀ place ∈ editor.carets.toList.map Caret.offset, place ≤ editor.text.length := by
      intro place member
      obtain ⟨caret, stands, rfl⟩ := List.mem_map.mp member
      exact types.inText caret stands
    have apart : (editor.carets.toList.map Caret.offset).Pairwise (· < ·) := List.pairwise_map.mpr types.ascending
    rw [typed.text, insertEach_eq_foldr apart inside, types.offsets, types.text, types.spots.foldr_replace]
  · have count := congrArg List.length types.offsets
    rw [List.length_map, List.length_map] at count
    have size : (editor.insertText chars).carets.toList.length = changed.length := typed.size.trans count
    refine List.ext_getElem (by simpa using size) fun index _ inside => ?_
    rw [List.length_map] at inside
    have member : changed[index] ∈ changed := List.getElem_mem inside
    have stood := congrArg (·[index]?) types.offsets
    simp only [List.getElem?_map, List.getElem?_eq_getElem inside, Option.map_some] at stood
    obtain ⟨caret, stands, offset⟩ := Option.map_eq_some_iff.mp stood
    obtain ⟨moved, there, behind⟩ := typed.carets index caret stands
    rw [types.offsets, offset, types.spots.countP_spot_le member] at behind
    obtain ⟨_, same⟩ := List.getElem?_eq_some_iff.mp there
    rw [List.getElem_map, List.getElem_map, same, behind, types.spots.spot_putInto member]

theorem press (c : Char) :
    (editor.press (.ofChar c)).1.TypesInto (putInto rows changed place [c]) changed fun row => place row + 1 := by
  have typing : editor.mode.isTyping = true := types.mode ▸ rfl
  have notPrompt : editor.mode ≠ .commandLine := types.mode ▸ nofun
  have taken : editor.pressTyping (.ofChar c) = (editor.insertText [c]).done := by
    have typesText : editor.typeText [c] = (editor.insertText [c]).done := if_neg notPrompt
    unfold pressTyping
    rw [types.awaits, stopWaiting_of_command types.awaits, ← typesText]
    rfl
  rw [press_of_done ((pressInMode_typing _ typing).trans taken)]
  exact (types.insertText [c]).settle

theorem pressAll (typed : List Char) :
    (editor.pressAll (typed.map .ofChar)).TypesInto (putInto rows changed place typed) changed
      fun row => place row + typed.length := by
  induction typed generalizing editor rows place with
  | nil =>
    rw [putInto_nil]
    exact types
  | cons c rest ih =>
    have others := ih (types.press c)
    have together := types.spots.putInto_putInto [c] rest
    have further : (fun row => place row + 1 + rest.length) = fun row => place row + (c :: rest).length := by
      funext row
      rw [List.length_cons]
      omega
    rw [List.length_singleton] at together
    rw [together, further] at others
    exact others

/-- What has been typed stays when typing ends. -/
theorem text_press_escape : (editor.press .escape).1.text = ofLines rows := by
  have typing : editor.mode.isTyping = true := types.mode ▸ rfl
  have notAgain : ¬(1 < editor.typing.times ∧ editor.typing.typed ≠ []) :=
    fun again => Nat.not_lt.mpr types.once again.1
  rw [press_escape_typing typing, if_pos types.awaits, stopWaiting_of_command types.awaits, text_settle,
    text_finishTyping, if_neg notAgain]
  exact types.text

theorem text_pressAll (typed : List Char) :
    (editor.pressAll (typed.map .ofChar ++ [.escape])).text = ofLines (putInto rows changed place typed) := by
  rw [pressAll_append]
  exact (types.pressAll typed).text_press_escape

end TypesInto

theorem offsets_foldl_add (carets : CaretSet) (places : List Nat) :
    (places.foldl (fun carets offset => carets.add (.ofOffset offset)) carets).toList.map Caret.offset =
      carets.toList.map Caret.offset ++ places := by
  induction places generalizing carets with
  | nil => exact (List.append_nil _).symm
  | cons offset rest ih =>
    rw [List.foldl_cons, ih, CaretSet.toList_add, List.map_append, List.append_assoc]
    rfl

/-- Placing carets changes the carets alone. -/
theorem exists_placeCarets (editor : Editor) {places : List Nat} (some : places ≠ []) :
    ∃ carets : CaretSet, carets.toList.map Caret.offset = places ∧
      editor.placeCarets places = editor.update (·.setCarets carets) := by
  cases places with
  | nil => exact absurd rfl some
  | cons first rest => exact ⟨_, offsets_foldl_add _ rest, rfl⟩

/-- Typing after a change begins at its places. A single place is where the caret is already. -/
theorem startTyping_places {places : List Nat} (some : places ≠ []) (alone : editor.carets.size = 1)
    (caret : editor.window.caret = places.head?.getD 0) :
    ∃ after : Editor,
      (if 1 < places.length then
        let typing := (editor.placeCarets places).startTyping .insert 1 false
        { typing with typing := { typing.typing with block := true } }.done
      else (editor.startTyping .insert 1 false).done) = after.done ∧
      after.text = editor.text ∧ after.carets.toList.map Caret.offset = places ∧ after.mode = .insert ∧
      after.pending = editor.pending ∧ after.typing.times = 1 := by
  by_cases many : 1 < places.length
  · obtain ⟨carets, offsets, placed⟩ := editor.exists_placeCarets some
    rw [if_pos many, placed]
    exact ⟨_, rfl, rfl, offsets, rfl, rfl, rfl⟩
  · obtain ⟨place, rfl⟩ : ∃ place, places = [place] := by
      have length := List.length_pos_iff.mpr some
      exact List.length_eq_one_iff.mp (by omega)
    rw [if_neg many]
    refine ⟨_, rfl, rfl, ?_, rfl, rfl, rfl⟩
    show editor.carets.toList.map Caret.offset = [place]
    rw [CaretSet.eq_single alone]
    exact congrArg (fun offset => [offset]) caret

section Edge

variable {window : Window} {first last left : Nat}

/-- An editor with its carets at the left edge of a block types into the lines that reach it. -/
theorem typesInto_edge (plain : Plain window.text) (seen : window.AllShow) (mode : editor.mode = .insert)
    (awaits : editor.pending.awaited = .command) (once : editor.typing.times ≤ 1)
    (text : editor.text = window.text)
    (offsets : editor.carets.toList.map Caret.offset =
      (window.reachingLines first last left).map (window.blockColumn · left)) :
    editor.TypesInto window.text.lines (window.reachingLines first last left) (window.edgePlace left) := by
  refine ⟨mode, awaits, once, Window.spots_edge plain first last left, text.trans (ofLines_lines _).symm, ?_⟩
  rw [offsets]
  apply List.map_congr_left
  intro row member
  exact Window.blockColumn_eq plain seen ((Window.mem_reachingLines plain).mp member).1

end Edge

section Selection

variable {caret : Caret} {first last left : Nat} {right? : Option Nat}

theorem blockColumns_spec (window : Window) (anchor : Nat) (caret : Caret) (exclusive : Bool) :
    let columns := blockColumns window anchor caret exclusive
    columns.1 = min (window.displayColumn anchor) (window.displayColumn caret.offset) ∧
      ∀ right ∈ columns.2, columns.1 < right := by
  unfold blockColumns
  dsimp only
  split
  · exact ⟨rfl, nofun⟩
  · split
    · refine ⟨rfl, ?_⟩
      rintro right ⟨⟩
      omega
    · refine ⟨rfl, ?_⟩
      rintro right ⟨⟩
      split <;> omega

/-- A block selection has its corners at the caret and at the place where it began. -/
theorem spanOf?_block (spans : editor.spanOf? caret .block false = some (.block first last left right?)) :
    ∃ anchor, first = editor.text.lineOf (min anchor caret.offset) ∧
      last = editor.text.lineOf (max anchor caret.offset) ∧
      left = min (editor.window.displayColumn anchor) (editor.window.displayColumn caret.offset) ∧
      ∀ right ∈ right?, left < right := by
  obtain ⟨anchor, -, taken⟩ := Option.bind_eq_some_iff.mp spans
  obtain ⟨isMin, ordered⟩ := blockColumns_spec editor.window anchor caret editor.selectsExclusively
  simp only [Bool.false_eq_true, ↓reduceIte, Option.some.injEq, Span.block.injEq] at taken
  obtain ⟨rfl, rfl, rfl, rfl⟩ := taken
  exact ⟨anchor, rfl, rfl, isMin, ordered⟩

/-- The corner of a block with the smaller column stands on one of its lines, at the left edge. -/
theorem exists_corner
    (spans : editor.spanOf? caret .block false = some (.block first last left right?)) :
    ∃ row ≤ editor.text.lastLine, first ≤ row ∧ row ≤ last ∧
      ∃ count ≤ (lineText editor.text row).length,
        editor.window.ruler.columnAfter 0 ((lineText editor.text row).take count) = left := by
  obtain ⟨anchor, rfl, rfl, rfl, -⟩ := spanOf?_block spans
  by_cases anchorLeft : editor.window.displayColumn anchor ≤ editor.window.displayColumn caret.offset
  · rw [Nat.min_eq_left anchorLeft]
    exact ⟨_, lineOf_le_lastLine _ anchor, lineOf_mono _ (Nat.min_le_left _ _),
      lineOf_mono _ (Nat.le_max_left _ _), editor.window.ruler.exists_columnAfter_eq _ anchor⟩
  · rw [Nat.min_eq_right (Nat.le_of_not_le anchorLeft)]
    exact ⟨_, lineOf_le_lastLine _ caret.offset, lineOf_mono _ (Nat.min_le_right _ _),
      lineOf_mono _ (Nat.le_max_right _ _), editor.window.ruler.exists_columnAfter_eq _ caret.offset⟩

/-- Typing before or behind a block begins with a caret at each of its places. -/
theorem insertAtBlock_eq {remembered : Editor} {window : Window} {append : Bool}
    (same : editor.rememberSelection .block = remembered) (shows : remembered.window = window)
    (spans : remembered.spanOf? remembered.carets.primary .block false = some (.block first last left right?))
    (some : blockPlaces window first last left right? append ≠ []) :
    ∃ (carets : CaretSet) (after : Editor), editor.insertAtBlock append = after.done ∧
      carets.toList.map Caret.offset = blockPlaces window first last left right? append ∧
      after.window = { window with carets } ∧ after.mode = .insert ∧
      after.pending = remembered.pending ∧ after.typing.times = 1 := by
  subst shows
  obtain ⟨carets, offsets, placed⟩ := remembered.exists_placeCarets some
  have notEmpty : (blockPlaces remembered.window first last left right? append).isEmpty = false :=
    List.isEmpty_eq_false_iff.mpr some
  unfold insertAtBlock
  rw [same]
  dsimp only
  rw [spans]
  dsimp only
  rw [notEmpty, placed]
  exact ⟨carets, _, rfl, offsets, Workspace.window_begin _, rfl, rfl, rfl⟩

section Reaching

variable (plain : Plain editor.window.text) (seen : editor.window.AllShow)
  (awaits : editor.pending.awaited = .command)
  (spans : editor.spanOf? editor.carets.primary .block false = some (.block first last left right?))

include plain spans

/-- The line of the left corner reaches the left edge. -/
theorem reachingLines_ne_nil : editor.window.reachingLines first last left ≠ [] := by
  obtain ⟨row, isLine, behind, before, count, -, rfl⟩ := exists_corner spans
  have wide := editor.window.ruler.columnAfter_take_le 0 count (lineText editor.window.text row)
  exact List.ne_nil_of_mem ((Window.mem_reachingLines plain).mpr ⟨isLine, behind, before, wide⟩)

include seen awaits

/-- Typing before a block begins. -/
theorem typesInto_insertAtBlock {target : ReturnMode} (visual : editor.mode = .visual .block target) :
    (editor.press (.ofChar 'I')).1.TypesInto editor.text.lines (editor.window.reachingLines first last left)
      (editor.window.edgePlace left) := by
  have pressed : editor.pressInMode (.ofChar 'I') = editor.clearPending.insertAtBlock false := by
    rw [pressInMode_visualKey awaits _ visual]
    rfl
  obtain ⟨anchor, -, lastLine, -, -⟩ := spanOf?_block spans
  have isLine : last ≤ editor.text.lastLine := lastLine ▸ lineOf_le_lastLine _ _
  have places : blockPlaces editor.window first last left right? false =
      (editor.window.reachingLines first last left).map (editor.window.blockColumn · left) := by
    have sameLast : min last editor.window.text.lastLine = last := Nat.min_eq_left isLine
    unfold blockPlaces Window.reachingLines linesWithin
    rw [sameLast]
    rfl
  have some := mt (List.map_eq_nil_iff (f := (editor.window.blockColumn · left))).mp
    (reachingLines_ne_nil plain spans)
  rw [← places] at some
  obtain ⟨last?, remembered⟩ := editor.clearPending.exists_rememberSelection .block
  obtain ⟨carets, after, inserts, offsets, window, mode, pending, times⟩ :=
    insertAtBlock_eq remembered (show _ = editor.window from rfl) spans some
  have text : after.text = editor.text := (congrArg Window.text window :)
  have stand : after.carets.toList.map Caret.offset =
      (editor.window.reachingLines first last left).map (editor.window.blockColumn · left) := by
    rw [← places, ← offsets]
    exact congrArg (fun window : Window => window.carets.toList.map Caret.offset) window
  rw [press_of_done (pressed.trans inserts)]
  exact (typesInto_edge plain seen mode (congrArg Pending.awaited pending) (Nat.le_of_eq times) text stand).settle

end Reaching

section Changing

variable (plain : Plain editor.window.text) (seen : editor.window.AllShow)
  (spans : editor.spanOf? editor.carets.primary .block false = some (.block first last left right?))

include plain seen spans

/-- The line of the left corner still reaches the left edge when the block is gone. -/
theorem reachingLines_withoutBlock {window : Window}
    (without : editor.window.WithoutBlock window first last left right?) :
    window.reachingLines first last left ≠ [] := by
  obtain ⟨row, isLine, behind, before, count, inside, edge⟩ := exists_corner spans
  obtain ⟨-, -, -, -, ordered⟩ := spanOf?_block spans
  have lineSeen := seen _ (List.mem_of_getElem? (plain.getElem?_lines isLine))
  have wide := Ruler.le_columnAfter_outside ordered lineSeen editor.window.ruler_tab_pos inside edge
  have content := without.lineText_eq plain isLine
  rw [if_pos ⟨behind, before⟩] at content
  apply List.ne_nil_of_mem (a := row)
  rw [Window.mem_reachingLines (without.plain plain), without.lastLine plain, content, without.ruler]
  exact ⟨isLine, behind, before, wide⟩

/-- Typing in place of a block begins. -/
theorem typesInto_changeBlock {target : ReturnMode} (visual : editor.mode = .visual .block target)
    (awaits : editor.pending.awaited = .command) (alone : editor.carets.size = 1) :
    ∃ window, editor.window.WithoutBlock window first last left right? ∧
      (editor.press (.ofChar 'c')).1.TypesInto window.text.lines (window.reachingLines first last left)
        (window.edgePlace left) := by
  have pressed : editor.pressInMode (.ofChar 'c') =
      editor.clearPending.operateOnSelections .change .block target editor.pending.register? 1 false := by
    rw [pressInMode_visualKey awaits _ visual]
    rfl
  let span : Span := .block first last left right?
  let changed := editor.applyOperator .change span editor.pending.register? 1
  obtain ⟨-, -, -, -, ordered⟩ := spanOf?_block spans
  have settings : changed.1.settings = editor.settings := Workspace.settings_applyOperator .change span _ 1
  have tabs : changed.1.window.tabWidth = editor.window.tabWidth := congrArg (·.2.1) settings
  have without : editor.window.WithoutBlock changed.1.window first last left right? := by
    refine ⟨?_, ?_⟩
    · let recorded := editor.recordSpan span editor.pending.register? .delete
      have recordedPlain : Plain recorded.text := plain
      exact Workspace.text_removeBlock_outside recordedPlain ordered seen
    · unfold Window.ruler
      rw [tabs]
  have some : changed.2.blockCarets ≠ [] :=
    mt List.map_eq_nil_iff.mp (reachingLines_withoutBlock plain seen spans without)
  refine ⟨changed.1.window, without, ?_⟩
  have aloneCleared : editor.clearPending.carets.size = 1 := alone
  obtain ⟨last?, operates⟩ :=
    operateOnSelections_single aloneCleared .change target editor.pending.register? 1 spans
  let waiting : Editor := { editor.clearPending with lastSelection? := last? }
  have aloneWaiting : waiting.carets.size = 1 := alone
  have startsIn (text : Document) : span.StartsIn text := trivial
  obtain ⟨ends, places⟩ :=
    endsAs_applyAt_begun aloneWaiting .change editor.pending.register? 1 (startsIn waiting.text)
  have edits := edits_applyAt (waiting.update (·.begin)) 0 .change editor.pending.register? 1 fun _ => startsIn _
  obtain ⟨after, starts, text, offsets, mode, pending, times⟩ :=
    startTyping_places some ends.clearAnchors.alone ends.clearAnchors.caret
  have begins := operates.trans (if_pos rfl)
  rw [places] at begins
  rw [press_of_done (pressed.trans (begins.trans starts))]
  have awaitsCommand : after.pending.awaited = .command :=
    congrArg Pending.awaited (pending.trans edits.pending)
  exact (typesInto_edge (without.plain plain) (without.allShow plain seen) mode awaitsCommand (Nat.le_of_eq times)
    (text.trans ends.alike.text) offsets).settle

end Changing

/-- Text typed before a block or in place of it goes into those of its lines, and into no others, whose width
comes up to the left edge at least: the width that they have when the typing begins, which is without the block
where that is changed. -/
theorem block_typing_reaches (editor : Editor) (target : ReturnMode) (first last left : Nat) (right? : Option Nat)
    (typed : List Char) (visual : editor.mode = .visual .block target) (awaits : editor.pending.awaited = .command)
    (alone : editor.carets.size = 1)
    (spans : editor.spanOf? editor.carets.primary .block false = some (.block first last left right?))
    (plain : Plain editor.text) (seen : ∀ c ∈ editor.text, c = '\n' ∨ editor.window.ruler.Shows c) :
    let ruler := editor.window.ruler
    let keys := typed.map Key.ofChar ++ [.escape]
    (editor.pressAll (.ofChar 'I' :: keys)).text = editor.text.mapLines (fun row line =>
      if first ≤ row ∧ row ≤ last ∧ left ≤ ruler.columnAfter 0 line then ruler.putAt left typed line else line) ∧
    (editor.pressAll (.ofChar 'c' :: keys)).text = editor.text.mapLines (fun row line =>
      if first ≤ row ∧ row ≤ last then
        let rest := ruler.outside left right? line
        if left ≤ ruler.columnAfter 0 rest then ruler.putAt left typed rest else rest
      else line) := by
  intro ruler keys
  have allShow : editor.window.AllShow := Window.allShow_of_text seen
  constructor
  · have types := typesInto_insertAtBlock plain allShow awaits spans visual
    exact (types.text_pressAll typed).trans
      (Window.ofLines_putInto_edge plain _ _ _ typed)
  · obtain ⟨window, without, types⟩ := typesInto_changeBlock plain allShow spans visual awaits alone
    have text := (types.text_pressAll typed).trans (Window.ofLines_putInto_edge (without.plain plain) _ _ _ typed)
    exact text.trans (without.mapLines_putAt plain typed)

theorem block_typing_reaches_short :
    let editor : Editor :=
      { window := { text := "abc\na\n\nabc".toList, carets := .single { offset := 8, anchor? := some 1 } }
        mode := .visual .block .normal }
    editor.mode = .visual .block .normal ∧ editor.pending.awaited = .command ∧ editor.carets.size = 1 ∧
      editor.spanOf? editor.carets.primary .block false = some (.block 0 3 1 (some 2)) ∧ Plain editor.text ∧
      (∀ c ∈ editor.text, c = '\n' ∨ editor.window.ruler.Shows c) ∧
      (editor.pressAll [.ofChar 'I', .ofChar 'x', .ofChar 'y', .escape]).text = "axybc\naxy\n\naxybc".toList ∧
      (editor.pressAll [.ofChar 'c', .ofChar 'x', .ofChar 'y', .escape]).text = "axyc\naxy\n\naxyc".toList := by
  intro editor
  have spans : editor.spanOf? editor.carets.primary .block false = some (.block 0 3 1 (some 2)) := by
    decide +kernel
  have plain : Plain editor.text := by decide
  have each : (editor.text.all fun c => c = '\n' ∨ editor.window.ruler.Shows c) = true := by decide +kernel
  have seen : ∀ c ∈ editor.text, c = '\n' ∨ editor.window.ruler.Shows c :=
    fun c member => of_decide_eq_true (List.all_eq_true.mp each c member)
  obtain ⟨before, instead⟩ :=
    block_typing_reaches editor .normal 0 3 1 (some 2) ['x', 'y'] rfl rfl rfl spans plain seen
  exact ⟨rfl, rfl, rfl, spans, plain, seen, before.trans (by decide +kernel), instead.trans (by decide +kernel)⟩

/-- The width alone does not tell where text is typed: not on a line that is exactly as wide as the left edge,
which gets the text, nor on one that is wide because of a tab in the block, which does not. -/
theorem block_typing_beside_width :
    let short : Editor :=
      { window := { text := "abc\na\nabc".toList, carets := .single { offset := 7, anchor? := some 1 } }
        mode := .visual .block .normal }
    let tabbed : Editor :=
      { window :=
          { text := "abcdefghij\n\tx\nabcdefghij".toList, carets := .single { offset := 22, anchor? := some 3 } }
        mode := .visual .block .normal }
    short.spanOf? short.carets.primary .block false = some (.block 0 2 1 (some 2)) ∧
      (short.pressAll [.ofChar 'I', .ofChar 'x', .escape]).text ≠ short.text.mapLines (fun row line =>
        let ruler := short.window.ruler
        if row ≤ 2 ∧ 1 < ruler.columnAfter 0 line then ruler.putAt 1 ['x'] line else line) ∧
      tabbed.spanOf? tabbed.carets.primary .block false = some (.block 0 2 3 (some 9)) ∧
      (tabbed.pressAll [.ofChar 'c', .ofChar 'z', .escape]).text ≠ tabbed.text.mapLines (fun row line =>
        let ruler := tabbed.window.ruler
        let rest := if row ≤ 2 then ruler.outside 3 (some 9) line else line
        if row ≤ 2 ∧ 3 < ruler.columnAfter 0 line then ruler.putAt 3 ['z'] rest else rest) := by
  refine ⟨?_, ?_, ?_, ?_⟩ <;> decide +kernel

end Selection

end Editor

end ModalEdit

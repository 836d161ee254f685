import ModalEdit.Edit.Line
import ModalEdit.Edit.Operator
import ModalEdit.Edit.Put
import ModalEdit.Proofs.Document.Lines
import ModalEdit.Proofs.Edit.Edited

/-!
Operators are chains of edits, and the place that they answer is in the text that they leave.
So are joining lines, replacing characters, an edit run at every caret and putting a register, whether before or
behind a place or instead of a span.
-/

set_option autoImplicit false

namespace ModalEdit

namespace Document

theorem min_le_length_replace (text : Document) (start stop : Nat) (inserted : List Char) :
    min start text.length ≤ (text.replace start stop inserted).length := by
  simp only [replace, List.length_append, List.length_take]
  omega

theorem le_length_replace {text : Document} {bound start : Nat} (stop : Nat) (inserted : List Char)
    (inside : bound ≤ text.length) (before : bound ≤ start) :
    bound ≤ (text.replace start stop inserted).length :=
  Nat.le_trans (Nat.le_min.mpr ⟨before, inside⟩) (text.min_le_length_replace start stop inserted)

theorem length_replace_map (text : Document) (start stop : Nat) (f : Char → Char)
    (inside : start ≤ text.length) :
    (text.replace start stop ((text.slice start stop).map f)).length = text.length := by
  rw [text.length_replace start stop _ inside, List.length_map, length_slice]
  omega

theorem lineSpan_start_le (text : Document) (first last : Nat) :
    (text.lineSpan first last).1 ≤ text.length := by
  unfold lineSpan
  dsimp only
  split
  · exact lineStart_le text first
  · split
    · exact lineEnd_le text (first - 1)
    · exact Nat.zero_le _

end Document

namespace Window

theorem offsetAtColumn_le (window : Window) (line column : Nat) :
    window.offsetAtColumn line column ≤ window.text.length := by
  unfold offsetAtColumn Ruler.offsetAt
  dsimp only
  have counted := window.ruler.countBefore_le column 0
    (window.text.lineText (min line window.text.lastLine))
  rw [Document.length_lineText] at counted
  have ordered := window.text.lineStart_le_lineEnd (min line window.text.lastLine)
  have inside := window.text.lineEnd_le (min line window.text.lastLine)
  omega

theorem lineStart_le_blockSegment (window : Window) (line left : Nat) (right? : Option Nat) :
    window.text.lineStart line ≤ (window.blockSegment line left right?).1 :=
  Nat.le_add_right _ _

theorem blockSegment_le_lineEnd (window : Window) (line left : Nat) (right? : Option Nat) :
    (window.blockSegment line left right?).1 ≤ window.text.lineEnd line := by
  have counted := window.ruler.countBefore_le left 0 (window.text.lineText line)
  rw [Document.length_lineText] at counted
  have ordered := window.text.lineStart_le_lineEnd line
  unfold blockSegment
  dsimp only
  omega

theorem blockSegment_le (window : Window) (line left : Nat) (right? : Option Nat) :
    (window.blockSegment line left right?).1 ≤ window.text.length :=
  Nat.le_trans (window.blockSegment_le_lineEnd line left right?) (window.text.lineEnd_le line)

/-- The parts of a block stand in the order of their lines. -/
theorem pairwise_blockSegments (window : Window) (first last left : Nat) (right? : Option Nat) :
    (window.blockSegments first last left right?).Pairwise fun one two => one.1 ≤ two.1 := by
  unfold blockSegments Document.linesWithin
  rw [List.pairwise_map]
  apply List.Pairwise.imp _ List.pairwise_lt_range'
  intro one two before
  have ends := window.blockSegment_le_lineEnd one left right?
  have starts := window.lineStart_le_blockSegment two left right?
  exact Nat.le_trans ends (Nat.le_trans (window.text.lineEnd_le_lineStart_of_lt before) starts)

theorem mem_blockSegments_le {window : Window} {first last left : Nat} {right? : Option Nat}
    {piece : Nat × Nat} (member : piece ∈ window.blockSegments first last left right?) :
    piece.1 ≤ window.text.length := by
  obtain ⟨line, _, rfl⟩ := List.mem_map.mp member
  exact window.blockSegment_le line left right?

end Window

/-- Whether a span begins in the text. One of whole lines or of a block always does. -/
def Span.StartsIn (text : Document) : Span → Prop
  | .chars start _ => start ≤ text.length
  | _ => True

theorem Span.start_le {window : Window} {span : Span} (starts : span.StartsIn window.text) :
    span.start window ≤ window.text.length := by
  cases span with
  | chars start stop => exact starts
  | lines first last => exact window.text.lineStart_le first
  | block first last left right? => exact window.blockSegment_le first left right?

theorem Span.pieces_start_le {window : Window} {span : Span} {piece : Nat × Nat}
    (starts : span.StartsIn window.text) (member : piece ∈ span.pieces window) :
    piece.1 ≤ window.text.length := by
  cases span with
  | chars start stop =>
    rw [List.mem_singleton.mp member]
    exact starts
  | lines first last =>
    rw [List.mem_singleton.mp member]
    exact window.text.lineStart_le first
  | block first last left right? => exact Window.mem_blockSegments_le member

namespace Workspace

/-- Edits that answer a place do so in the text that they leave. -/
structure Lands (space : Workspace) (landed : Workspace × Nat) : Prop where
  edited : Edited space landed.1
  inside : space.InText → landed.2 ≤ landed.1.text.length

theorem Lands.moveCaret {space : Workspace} {landed : Workspace × Nat} (lands : space.Lands landed)
    (index : Nat) : Edited space (landed.1.moveCaret index landed.2) :=
  .moveCaret index lands.edited lands.inside

theorem edited_replace (space : Workspace) {start : Nat} (stop : Nat) (inserted : List Char)
    (inside : space.InText → start ≤ space.text.length) :
    Edited space (space.replace start stop inserted) :=
  .replace stop inserted .refl inside

theorem edited_setIndent (space : Workspace) (line width : Nat) :
    Edited space (space.setIndent line width) :=
  space.edited_replace _ _ fun _ => space.text.lineStart_le line

theorem edited_shiftLine (space : Workspace) (right : Bool) (columns line : Nat) :
    Edited space (space.shiftLine right columns line) := by
  unfold shiftLine
  dsimp only
  generalize (if right then _ else _) = shifted
  split
  · exact .refl
  · exact space.edited_setIndent line shifted

theorem edited_shiftLines (space : Workspace) (first last : Nat) (right : Bool) (times : Nat) :
    Edited space (space.shiftLines first last right times) :=
  edited_foldl (fun space => space) (fun space line => space.edited_shiftLine right _ line) _ space

theorem le_length_removePieces {space : Workspace} {pieces : List (Nat × Nat)} {bound : Nat}
    (inside : bound ≤ space.text.length) (before : ∀ piece ∈ pieces, bound ≤ piece.1) :
    bound ≤ (space.removePieces pieces).text.length := by
  induction pieces with
  | nil => exact inside
  | cons piece rest ih =>
    have restInside := ih fun other member => before other (List.mem_cons_of_mem piece member)
    exact Document.le_length_replace piece.2 [] restInside (before piece List.mem_cons_self)

/-- Pieces in order can be removed from the last one on: what goes is behind what stays to be
removed. -/
theorem edited_removePieces {space : Workspace} {pieces : List (Nat × Nat)}
    (ordered : pieces.Pairwise fun one two => one.1 ≤ two.1)
    (inside : ∀ piece ∈ pieces, piece.1 ≤ space.text.length) :
    Edited space (space.removePieces pieces) := by
  induction pieces with
  | nil => exact .refl
  | cons piece rest ih =>
    obtain ⟨first, restOrdered⟩ := List.pairwise_cons.mp ordered
    have restEdited := ih restOrdered fun other member =>
      inside other (List.mem_cons_of_mem piece member)
    have stays := le_length_removePieces (inside piece List.mem_cons_self) first
    exact .replace piece.2 [] restEdited fun _ => stays

theorem edited_removeBlock (space : Workspace) (first last left : Nat) (right? : Option Nat) :
    Edited space (space.removePieces (space.window.blockSegments first last left right?)) :=
  edited_removePieces (space.window.pairwise_blockSegments first last left right?)
    fun _ member => Window.mem_blockSegments_le member

theorem lands_removeSpan (space : Workspace) (span : Span)
    (starts : space.InText → span.StartsIn space.text) : space.Lands (space.removeSpan span) := by
  cases span with
  | chars start stop =>
    have edited := space.edited_replace stop [] starts
    exact ⟨edited, fun inText => space.text.start_add_length_le_replace start stop [] (starts inText)⟩
  | lines first last =>
    have edited := space.edited_replace (space.text.lineSpan first last).2 []
      fun _ => space.text.lineSpan_start_le first last
    exact ⟨edited, fun _ => Document.firstNonBlank_le _ _⟩
  | block first last left right? =>
    refine ⟨space.edited_removeBlock first last left right?, fun _ => ?_⟩
    have ordered := space.window.pairwise_blockSegments first last left right?
    have inside : ∀ piece ∈ space.window.blockSegments first last left right?,
        piece.1 ≤ space.text.length := fun _ member => Window.mem_blockSegments_le member
    unfold removeSpan
    dsimp only
    generalize space.window.blockSegments first last left right? = segments at ordered inside
    cases segments with
    | nil => exact Nat.zero_le _
    | cons piece rest =>
      obtain ⟨before, _⟩ := List.pairwise_cons.mp ordered
      apply le_length_removePieces (inside piece List.mem_cons_self)
      intro other member
      rcases List.mem_cons.mp member with here | inRest
      · exact Nat.le_of_eq (by rw [here])
      · exact before other inRest

theorem lands_deleteSpan (space : Workspace) (span : Span) (name? : Option Char)
    (starts : space.InText → span.StartsIn space.text) :
    space.Lands ((space.deleteSpan span name?).1, (space.deleteSpan span name?).2.caret) := by
  have recorded : Edited space (space.recordSpan span name? .delete) := .record _ _ _ .refl
  have removed := (space.recordSpan span name? .delete).lands_removeSpan span starts
  exact ⟨recorded.trans removed.edited, fun inText => removed.inside (recorded.inText inText)⟩

theorem blockColumn_le (window : Window) (line column : Nat) :
    window.blockColumn line column ≤ window.text.length :=
  window.blockSegment_le line column (some column)

theorem lands_changeSpan (space : Workspace) (span : Span) (name? : Option Char)
    (starts : space.InText → span.StartsIn space.text) :
    space.Lands ((space.changeSpan span name?).1, (space.changeSpan span name?).2.caret) := by
  have recorded : Edited space (space.recordSpan span name? .delete) := .record _ _ _ .refl
  cases span with
  | chars start stop =>
    have edited := edited_replace (space.recordSpan (.chars start stop) name? .delete) stop [] starts
    exact ⟨recorded.trans edited,
      fun inText => space.text.start_add_length_le_replace start stop [] (starts inText)⟩
  | lines first last =>
    have edited := edited_replace (space.recordSpan (.lines first last) name? .delete)
      (space.text.lineBody first last).2 [] fun _ => space.text.lineStart_le first
    exact ⟨recorded.trans edited, fun _ => Document.lineStart_le _ first⟩
  | block first last left right? =>
    have edited := edited_removeBlock (space.recordSpan (.block first last left right?) name? .delete)
      first last left right?
    refine ⟨recorded.trans edited, fun _ => ?_⟩
    unfold changeSpan
    dsimp only
    rw [List.head?_map]
    cases (List.filter _ _).head? with
    | none => exact Nat.zero_le _
    | some line => exact blockColumn_le _ line left

theorem lands_yankSpan (space : Workspace) (span : Span) (name? : Option Char)
    (starts : space.InText → span.StartsIn space.text) :
    space.Lands ((space.yankSpan span name?).1, (space.yankSpan span name?).2.caret) := by
  refine ⟨.record _ _ _ .refl, fun inText => ?_⟩
  cases span with
  | chars start stop => exact starts inText
  | lines first last =>
    unfold yankSpan
    dsimp only
    split
    · exact inText space.carets.primary space.carets.primary_mem
    · exact space.window.offsetAtColumn_le first _
  | block first last left right? => exact space.window.blockSegment_le first left right?

/-- Changing the characters of a span leaves the length of the text as it is. -/
theorem mapSpan_spec (space : Workspace) (span : Span) (f : Char → Char)
    (starts : space.InText → span.StartsIn space.text) :
    Edited space (space.mapSpan span f) ∧
      (space.InText → (space.mapSpan span f).text.length = space.text.length) := by
  have inside : space.InText → ∀ piece ∈ span.pieces space.window,
      piece.1 ≤ space.text.length :=
    fun inText _ member => Span.pieces_start_le (starts inText) member
  unfold mapSpan
  generalize span.pieces space.window = pieces at inside
  induction pieces with
  | nil => exact ⟨.refl, fun _ => rfl⟩
  | cons piece rest ih =>
    obtain ⟨edited, length⟩ := ih fun inText other member =>
      inside inText other (List.mem_cons_of_mem piece member)
    have starts : space.InText → piece.1 ≤ _ := fun inText =>
      Nat.le_trans (inside inText piece List.mem_cons_self) (Nat.le_of_eq (length inText).symm)
    rw [List.foldr_cons]
    dsimp only
    split
    · exact ⟨edited, length⟩
    · refine ⟨.replace piece.2 _ edited starts, fun inText => ?_⟩
      rw [text_replace, Document.length_replace_map _ _ _ f (starts inText)]
      exact length inText

/-- Applying any operator is a chain of edits, and the caret lands in the text. -/
theorem lands_applyOperator (space : Workspace) (operator : Operator) (span : Span)
    (name? : Option Char) (steps : Nat) (starts : space.InText → span.StartsIn space.text) :
    space.Lands ((space.applyOperator operator span name? steps).1,
      (space.applyOperator operator span name? steps).2.caret) := by
  cases operator with
  | delete => exact space.lands_deleteSpan span name? starts
  | change => exact space.lands_changeSpan span name? starts
  | yank => exact space.lands_yankSpan span name? starts
  | shiftRight | shiftLeft =>
    exact ⟨space.edited_shiftLines _ _ _ _, fun _ => Document.firstNonBlank_le _ _⟩
  | toggleCase | lowercase | uppercase =>
    obtain ⟨edited, length⟩ := space.mapSpan_spec span _ starts
    refine ⟨edited, fun inText => ?_⟩
    exact Nat.le_trans (Span.start_le (starts inText)) (Nat.le_of_eq (length inText).symm)

end Workspace

/-! ### Lines, carets and registers -/

namespace Workspace

theorem edited_joinNext (space : Workspace) (line : Nat) (spaces : Bool) :
    Edited space (space.joinNext line spaces) :=
  space.edited_replace _ _ fun _ => space.text.lineEnd_le line

theorem edited_joinTimes (line : Nat) (spaces : Bool) (count caret : Nat) (space : Workspace) :
    Edited space (joinTimes line spaces count caret space).1 := by
  induction count generalizing caret space with
  | zero => exact .refl
  | succ count ih =>
    unfold joinTimes
    split
    · exact .refl
    · exact (space.edited_joinNext line spaces).trans (ih _ _)

theorem lands_joinLines {space : Workspace} {line count : Nat} {spaces : Bool}
    {landed : Workspace × Nat} (joins : space.joinLines line count spaces = some landed) :
    space.Lands landed := by
  unfold joinLines at joins
  split at joins
  · cases joins
  · cases joins
    exact ⟨edited_joinTimes line spaces _ _ space, fun _ => Document.clampCaret_le _ _ false⟩

theorem lands_replaceChars {space : Workspace} {c : Char} {count offset : Nat}
    {landed : Workspace × Nat} (inside : space.InText → offset ≤ space.text.length)
    (replaces : space.replaceChars c count offset = some landed) : space.Lands landed := by
  unfold replaceChars at replaces
  dsimp only at replaces
  split at replaces
  · cases replaces
  · split at replaces
    · cases replaces
      exact ⟨space.edited_replace _ _ inside, fun _ => Document.lineStart_le _ _⟩
    · cases replaces
      refine ⟨space.edited_replace _ _ inside, fun inText => ?_⟩
      have behind := space.text.start_add_length_le_replace offset
        (Number.wrapAdd offset (max count 1)) (List.replicate (max count 1) c) (inside inText)
      rw [List.length_replicate] at behind
      have atMost : Number.wrapAdd offset (max count 1) ≤ offset + max count 1 := Nat.mod_le _ _
      exact Nat.le_trans (Nat.le_trans (Nat.sub_le _ 1) atMost) behind

theorem lands_toggleCase {space : Workspace} {count offset : Nat} {landed : Workspace × Nat}
    (toggles : space.toggleCase count offset = some landed) : space.Lands landed := by
  unfold toggleCase at toggles
  dsimp only at toggles
  have inText := space.text.lineEnd_le (space.text.lineOf offset)
  split at toggles
  · cases toggles
  · cases toggles
    have starts : Span.StartsIn space.text
        (.chars offset (min (Number.wrapAdd offset (max count 1))
          (space.text.lineEnd (space.text.lineOf offset)))) := by
      unfold Span.StartsIn
      omega
    exact ⟨(space.mapSpan_spec _ _ fun _ => starts).1, fun _ => Document.clampCaret_le _ _ false⟩

theorem lands_fillSpan (space : Workspace) (span : Span) (c : Char)
    (starts : space.InText → span.StartsIn space.text) : space.Lands (space.fillSpan span c) := by
  obtain ⟨edited, length⟩ := space.mapSpan_spec span
    (fun old => if old = '\n' then old else c) starts
  refine ⟨edited, fun inText => ?_⟩
  exact Nat.le_trans (Span.start_le (starts inText)) (Nat.le_of_eq (length inText).symm)

/-- An edit that lands in the text from wherever a caret stands can be run at every caret. -/
theorem edited_editAtCarets {edit : Workspace → Nat → Option (Workspace × Nat)}
    (lands : ∀ space offset landed, (space.InText → offset ≤ space.text.length) →
      edit space offset = some landed → space.Lands landed)
    (space : Workspace) : Edited space (space.editAtCarets edit).1 := by
  refine edited_foldl Prod.fst ?_ space.carets.descending (space, false)
  intro (space, any) index
  dsimp only
  split
  · rename_i landed place edited
    have stands : space.InText → space.carets.offsetAt index ≤ space.text.length :=
      fun inText => inText.offsetAt_le index
    exact (lands space _ (landed, place) stands edited).moveCaret index
  · exact .refl

/-- An edit that could be made at no caret has changed nothing. -/
theorem editAtCarets_idle {space : Workspace}
    {edit : Workspace → Nat → Option (Workspace × Nat)}
    (idle : (space.editAtCarets edit).2 = false) : (space.editAtCarets edit).1 = space := by
  unfold editAtCarets at idle ⊢
  refine (@foldl_idle _ _ _ _ Prod.snd Prod.fst ?_ _ (space, false) idle).2
  intro (space, any) index found
  dsimp only at found ⊢
  split at found
  · cases found
  · exact ⟨found, rfl⟩

end Workspace

theorem Window.blockSegment_le_of_mem {window : Window} {first last left : Nat} {right? : Option Nat}
    {piece : Nat × Nat} (member : piece ∈ window.blockSegments first last left right?) :
    (window.blockSegment first left right?).1 ≤ piece.1 := by
  obtain ⟨line, inRange, rfl⟩ := List.mem_map.mp member
  obtain ⟨_, bound, lineEq⟩ := List.mem_range'.mp inRange
  rcases Nat.eq_or_lt_of_le (show first ≤ line by omega) with same | behind
  · exact Nat.le_of_eq (by rw [same])
  · have ends := window.blockSegment_le_lineEnd first left right?
    have starts := window.lineStart_le_blockSegment line left right?
    exact Nat.le_trans ends
      (Nat.le_trans (window.text.lineEnd_le_lineStart_of_lt behind) starts)

namespace Workspace

theorem lands_putLines (space : Workspace) (offset : Nat) (lines : List Char) (after : Bool) :
    space.Lands (space.putLines offset lines after) := by
  unfold putLines
  dsimp only
  split
  · refine ⟨?_, fun _ => Document.firstNonBlank_le _ _⟩
    dsimp only
    split
    · exact space.edited_replace _ _ fun _ => space.text.lineStart_le _
    · exact space.edited_replace _ _ fun _ => space.text.lineEnd_le _
  · exact ⟨space.edited_replace _ _ fun _ => space.text.lineStart_le _,
      fun _ => Document.firstNonBlank_le _ _⟩

theorem lands_putChars (space : Workspace) {offset : Nat} (chars : List Char) (after : Bool)
    (inside : space.InText → offset ≤ space.text.length) :
    space.Lands (space.putChars offset chars after) := by
  unfold putChars
  dsimp only
  generalize placed : (if after ∧ 0 < space.text.lineLength (space.text.lineOf offset) then
    min (offset + 1) (space.text.lineEnd (space.text.lineOf offset)) else offset) = place
  have placeInside : space.InText → place ≤ space.text.length := by
    intro inText
    have stands := inside inText
    have ends := space.text.lineEnd_le (space.text.lineOf offset)
    split at placed <;> omega
  refine ⟨space.edited_replace _ _ placeInside, fun inText => ?_⟩
  have behind := space.text.start_add_length_le_replace place place chars (placeInside inText)
  dsimp only
  split
  · exact Nat.le_trans (Nat.le_add_right place _) behind
  · exact Nat.le_trans (Nat.sub_le _ 1) behind

theorem lands_paste {space : Workspace} {name? : Option Char} {after : Bool} {count offset : Nat}
    {landed : Workspace × Nat} (inside : space.InText → offset ≤ space.text.length)
    (puts : space.paste name? after count offset = some landed) : space.Lands landed := by
  unfold paste at puts
  dsimp only at puts
  split at puts
  · cases puts
  · split at puts
    · cases puts
      exact space.lands_putChars _ after inside
    · cases puts
      exact space.lands_putLines offset _ after

/-- What is left when a register takes the place of a span. The start of the span is still in the
text. -/
theorem lands_cleared (space : Workspace) (span : Span) :
    (space.InText → span.StartsIn space.text) → space.Lands
      (match span with
        | .lines first last =>
          space.remove (space.text.lineBody first last).1 (space.text.lineBody first last).2
        | span => (space.removeSpan span).1,
      span.start space.window) := by
  intro starts
  cases span with
  | chars start stop =>
    refine ⟨(space.lands_removeSpan _ starts).edited, fun inText => ?_⟩
    exact space.text.start_add_length_le_replace start stop [] (starts inText)
  | lines first last =>
    have inside := space.text.lineStart_le first
    refine ⟨space.edited_replace _ [] fun _ => inside, fun _ => ?_⟩
    exact space.text.start_add_length_le_replace (space.text.lineStart first) _ [] inside
  | block first last left right? =>
    refine ⟨(space.lands_removeSpan _ starts).edited, fun _ => ?_⟩
    exact le_length_removePieces (space.window.blockSegment_le first left right?)
      fun _ member => Window.blockSegment_le_of_mem member

theorem lands_replaceWithRegister {space : Workspace} {span : Span} {name? : Option Char}
    {landed : Workspace × Nat} (starts : space.InText → span.StartsIn space.text)
    (puts : space.replaceWithRegister span name? = some landed) : space.Lands landed := by
  have cleared := space.lands_cleared span starts
  unfold replaceWithRegister at puts
  dsimp only at puts
  split at puts
  · cases puts
  · cases puts
    have put := Edited.replace (span.start space.window)
      (replacement (space.registers.get name?) span) cleared.edited cleared.inside
    refine ⟨.record _ _ _ put, fun inText => ?_⟩
    have behind := Document.start_add_length_le_replace _ (span.start space.window)
      (span.start space.window) (replacement (space.registers.get name?) span)
      (cleared.inside inText)
    apply iteInduction (motive := fun place => place ≤ _)
    · exact fun _ => Document.firstNonBlank_le _ _
    · exact fun _ => Nat.le_trans (Nat.sub_le _ 1) behind

end Workspace

end ModalEdit

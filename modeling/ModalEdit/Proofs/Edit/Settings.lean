import ModalEdit.Edit.Line
import ModalEdit.Edit.Put
import ModalEdit.Edit.Shift
import ModalEdit.Scroll

/-!
The settings of a workspace: its options, the width of tab stops and the limit of the history. No edit
and no scroll touches them.
-/

set_option autoImplicit false

namespace ModalEdit

namespace History

variable {history : History}

@[simp] theorem limit_close : history.close.limit = history.limit := by
  unfold close
  split
  · rfl
  · split <;> rfl

@[simp] theorem limit_commit (caret : Nat) : (history.commit caret).limit = history.limit := by
  unfold commit
  split
  · rfl
  · dsimp only
    split <;> exact limit_close

@[simp] theorem limit_begin (caret : Nat) : (history.begin caret).limit = history.limit :=
  limit_commit caret

@[simp] theorem limit_record (change : Change) : (history.record change).limit = history.limit := by
  unfold record
  split <;> rfl

@[simp] theorem limit_undo (text : Document) : (history.undo text).1.limit = history.limit := by
  unfold undo
  dsimp only
  split <;> exact limit_close

@[simp] theorem limit_redo (text : Document) : (history.redo text).1.limit = history.limit := by
  unfold redo
  split <;> rfl

end History

namespace Window

variable {window : Window}

@[simp] theorem tabWidth_scrollView (top left : Nat) :
    (window.scrollView top left).tabWidth = window.tabWidth := by
  unfold scrollView
  split <;> rfl

@[simp] theorem tabWidth_placeOnLine (line : Nat) (firstNonBlank pastEnd : Bool) :
    (window.placeOnLine line firstNonBlank pastEnd).tabWidth = window.tabWidth := by
  unfold placeOnLine
  dsimp only
  split <;> rfl

@[simp] theorem tabWidth_setPrimary (offset : Nat) (sticky? : Option StickyColumn) :
    (window.setPrimary offset sticky?).tabWidth = window.tabWidth := rfl

@[simp] theorem tabWidth_moveCaretIntoView (context : ScrollContext) :
    (window.moveCaretIntoView context).tabWidth = window.tabWidth := by
  unfold moveCaretIntoView
  split
  · rfl
  · dsimp only
    apply iteInduction (motive := fun moved : Window => moved.tabWidth = window.tabWidth)
    · exact fun _ => tabWidth_setPrimary _ _
    · intro _
      apply iteInduction (motive := fun moved : Window => moved.tabWidth = window.tabWidth)
      · exact fun _ => tabWidth_placeOnLine _ _ _
      · exact fun _ => rfl

@[simp] theorem tabWidth_scrollToCaret (context : ScrollContext) :
    (window.scrollToCaret context).tabWidth = window.tabWidth := by
  unfold scrollToCaret
  split
  · rfl
  · exact tabWidth_scrollView _ _

@[simp] theorem tabWidth_scrollPages (down : Bool) (count : Nat) (context : ScrollContext) :
    (window.scrollPages down count context).1.tabWidth = window.tabWidth := by
  unfold scrollPages
  dsimp only
  split
  · rfl
  · generalize (if down then _ else _) = target
    split
    · simp
    · split <;> simp

@[simp] theorem tabWidth_scrollHalfPage (down : Bool) (amount : Nat) (context : ScrollContext) :
    (window.scrollHalfPage down amount context).1.tabWidth = window.tabWidth := by
  unfold scrollHalfPage
  dsimp only
  split
  · rfl
  · simp

@[simp] theorem tabWidth_scrollLines (down : Bool) (count : Nat) (context : ScrollContext) :
    (window.scrollLines down count context).1.tabWidth = window.tabWidth := by
  unfold scrollLines
  dsimp only
  generalize (if down then _ else _) = top
  split
  · rfl
  · simp

@[simp] theorem tabWidth_scrollLineTo (place : ScreenPlace) (count? : Option Nat)
    (firstNonBlank : Bool) (context : ScrollContext) :
    (window.scrollLineTo place count? firstNonBlank context).tabWidth = window.tabWidth := by
  unfold scrollLineTo
  dsimp only
  split <;> simp

@[simp] theorem tabWidth_scrollColumns (right : Bool) (count : Nat) (context : ScrollContext) :
    (window.scrollColumns right count context).1.tabWidth = window.tabWidth := by
  unfold scrollColumns
  dsimp only
  generalize (if right then _ else _) = left
  split
  · rfl
  · simp

@[simp] theorem tabWidth_scrollColumnToEdge (leftEdge : Bool) (context : ScrollContext) :
    (window.scrollColumnToEdge leftEdge context).tabWidth = window.tabWidth :=
  tabWidth_scrollView _ _

end Window

namespace Workspace

/-- The options, and what they are given on to: the width of tab stops and the limit of the history. -/
def settings (space : Workspace) : Options × Nat × Nat :=
  (space.options, space.window.tabWidth, space.history.limit)

variable {space : Workspace}

@[simp] theorem settings_setCarets (carets : CaretSet) :
    (space.setCarets carets).settings = space.settings := rfl

@[simp] theorem settings_mapCarets (f : Caret → Caret) :
    (space.mapCarets f).settings = space.settings := rfl

@[simp] theorem settings_moveCaret (index offset : Nat) :
    (space.moveCaret index offset).settings = space.settings := rfl

@[simp] theorem settings_clearAnchors : space.clearAnchors.settings = space.settings := rfl

@[simp] theorem settings_record (name? : Option Char) (register : Register) (capture : Capture) :
    (space.record name? register capture).settings = space.settings := rfl

@[simp] theorem settings_replace (start stop : Nat) (inserted : List Char) :
    (space.replace start stop inserted).settings = space.settings := by
  simp [settings, replace, History.replace]

@[simp] theorem settings_insert (offset : Nat) (inserted : List Char) :
    (space.insert offset inserted).settings = space.settings :=
  settings_replace _ _ _

@[simp] theorem settings_remove (start stop : Nat) :
    (space.remove start stop).settings = space.settings :=
  settings_replace _ _ _

@[simp] theorem settings_begin : space.begin.settings = space.settings := by
  unfold begin
  split
  · rfl
  · simp [settings]

@[simp] theorem settings_commit : space.commit.settings = space.settings := by
  simp [settings, commit]

/-- A loop whose state holds a workspace keeps the settings when each round does. -/
theorem settings_foldl {State Item : Type} {step : State → Item → State} (holds : State → Workspace)
    (each : ∀ state item, (holds (step state item)).settings = (holds state).settings)
    (items : List Item) (state : State) :
    (holds (items.foldl step state)).settings = (holds state).settings := by
  induction items generalizing state with
  | nil => rfl
  | cons item rest ih => exact (ih (step state item)).trans (each state item)

@[simp] theorem settings_removePieces (pieces : List (Nat × Nat)) :
    (space.removePieces pieces).settings = space.settings := by
  unfold removePieces
  induction pieces with
  | nil => rfl
  | cons piece rest ih => simpa using ih

@[simp] theorem settings_mapSpan (span : Span) (f : Char → Char) :
    (space.mapSpan span f).settings = space.settings := by
  unfold mapSpan
  induction span.pieces space.window with
  | nil => rfl
  | cons piece rest ih =>
    rw [List.foldr_cons]
    dsimp only
    split
    · exact ih
    · exact (settings_replace _ _ _).trans ih

@[simp] theorem settings_removeSpan (span : Span) :
    (space.removeSpan span).1.settings = space.settings := by
  cases span <;> simp [removeSpan]

@[simp] theorem settings_shiftLine (right : Bool) (columns line : Nat) :
    (space.shiftLine right columns line).settings = space.settings := by
  unfold shiftLine
  dsimp only
  apply iteInduction (motive := fun shifted : Workspace => shifted.settings = space.settings)
  · exact fun _ => rfl
  · exact fun _ => settings_replace _ _ _

@[simp] theorem settings_shiftLines (first last : Nat) (right : Bool) (times : Nat) :
    (space.shiftLines first last right times).settings = space.settings :=
  settings_foldl (fun space => space) (fun _ _ => settings_shiftLine _ _ _) _ space

@[simp] theorem settings_applyOperator (operator : Operator) (span : Span) (name? : Option Char)
    (steps : Nat) : (space.applyOperator operator span name? steps).1.settings = space.settings := by
  cases operator with
  | change => cases span <;> simp [applyOperator, changeSpan, recordSpan]
  | _ => simp [applyOperator, deleteSpan, yankSpan, recordSpan]

@[simp] theorem settings_joinTimes (line : Nat) (spaces : Bool) (count caret : Nat) :
    (joinTimes line spaces count caret space).1.settings = space.settings := by
  induction count generalizing caret space with
  | zero => rfl
  | succ count ih =>
    unfold joinTimes
    split
    · rfl
    · rw [ih, joinNext, settings_replace]

/-- Whether what an edit gives has the same settings. -/
def KeepsSettings (edit : Workspace → Nat → Option (Workspace × Nat)) : Prop :=
  ∀ space offset edited, edit space offset = some edited → edited.1.settings = space.settings

theorem settings_joinLines {line count : Nat} {spaces : Bool} {joined : Workspace × Nat}
    (joins : space.joinLines line count spaces = some joined) :
    joined.1.settings = space.settings := by
  unfold joinLines at joins
  split at joins
  · cases joins
  · cases joins
    exact settings_joinTimes _ _ _ _

theorem keepsSettings_replaceChars (c : Char) (count : Nat) :
    KeepsSettings fun space offset => space.replaceChars c count offset := by
  intro space offset edited replaced
  unfold replaceChars at replaced
  dsimp only at replaced
  split at replaced
  · cases replaced
  · split at replaced <;>
    · cases replaced
      exact settings_replace _ _ _

theorem keepsSettings_toggleCase (count : Nat) :
    KeepsSettings fun space offset => space.toggleCase count offset := by
  intro space offset edited toggled
  unfold toggleCase at toggled
  dsimp only at toggled
  split at toggled
  · cases toggled
  · cases toggled
    exact settings_mapSpan _ _

theorem keepsSettings_paste (name? : Option Char) (after : Bool) (count : Nat) :
    KeepsSettings fun space offset => space.paste name? after count offset := by
  intro space offset edited pasted
  unfold paste at pasted
  dsimp only at pasted
  split at pasted
  · cases pasted
  · split at pasted
    · cases pasted
      exact settings_insert _ _
    · cases pasted
      unfold putLines
      dsimp only
      split
      · dsimp only
        split <;> exact settings_insert _ _
      · exact settings_insert _ _

theorem settings_replaceWithRegister {span : Span} {name? : Option Char} {put : Workspace × Nat}
    (replaced : space.replaceWithRegister span name? = some put) :
    put.1.settings = space.settings := by
  unfold replaceWithRegister at replaced
  dsimp only at replaced
  split at replaced
  · cases replaced
  · cases replaced
    cases span <;> simp

theorem settings_editAtCarets {edit : Workspace → Nat → Option (Workspace × Nat)}
    (keeps : KeepsSettings edit) : (space.editAtCarets edit).1.settings = space.settings := by
  refine settings_foldl Prod.fst ?_ space.carets.descending (space, false)
  rintro ⟨space, any⟩ index
  dsimp only
  split
  · rename_i edited place isEdited
    exact keeps space _ (edited, place) isEdited
  · rfl

end Workspace

end ModalEdit

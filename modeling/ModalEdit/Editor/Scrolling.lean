import ModalEdit.Editor.Operate

/-!
The keys that scroll.
-/

set_option autoImplicit false

namespace ModalEdit

namespace Editor

/-- The editor with its window changed. -/
def setWindow (editor : Editor) (window : Window) : Editor :=
  editor.update ({ · with window })

/-- What came of a scroll command: it is rejected where the bell rings. -/
def afterScroll (editor : Editor) (result : Window × Movement) : Outcome :=
  (editor.setWindow result.1).doneIf (result.2 != .stayed true)

/-- What scrolling takes from the options in this mode. -/
def scrolling (editor : Editor) : ScrollContext :=
  editor.scrollContext editor.mode.caretPastEnd

/-- Scrolls by pages. -/
def scrollByPages (editor : Editor) (down : Bool) : Outcome :=
  let (editor, count?, _) := editor.takePending
  editor.afterScroll (editor.window.scrollPages down (count?.getD 1) editor.scrolling)

/-- Scrolls by half a page, or by as many lines as an option says. A count sets the option. -/
def scrollByHalf (editor : Editor) (down : Bool) : Outcome :=
  let (editor, count?, _) := editor.takePending
  let editor :=
    match count? with
    | none => editor
    | some count =>
      let lines := Int64.ofIntClamp count
      editor.update fun space =>
        { space with options := (space.options.set .local "scroll" (.number lines)).1 }
  let amount := halfPageAmount (editor.options.count "scroll") editor.window.view.height
  editor.afterScroll (editor.window.scrollHalfPage down amount editor.scrolling)

/-- Scrolls by lines. -/
def scrollByLines (editor : Editor) (down : Bool) : Outcome :=
  let (editor, count?, _) := editor.takePending
  editor.afterScroll (editor.window.scrollLines down (count?.getD 1) editor.scrolling)

/-- The keys that scroll by pages, half pages and lines. -/
def scrollKey? (editor : Editor) (key : Key) : Option Outcome :=
  if key.isCtrl 'f' || key.isPlain && key.code == .pageDown then some (editor.scrollByPages true)
  else if key.isCtrl 'b' || key.isPlain && key.code == .pageUp then
    some (editor.scrollByPages false)
  else if key.isCtrl 'd' || key.isCtrl 'u' then some (editor.scrollByHalf (key.isCtrl 'd'))
  else if key.isCtrl 'e' || key.isCtrl 'y' then some (editor.scrollByLines (key.isCtrl 'e'))
  else none

/-- The keys behind the one that scrolls relative to the caret. -/
def scrollAfterZ (editor : Editor) (key : Key) : Outcome :=
  let (editor, count?, _) := editor.takePending
  let window := editor.window
  let half := window.view.width / 2
  let toPlace (place : ScreenPlace) (firstNonBlank : Bool) : Outcome :=
    (editor.setWindow (window.scrollLineTo place count? firstNonBlank editor.scrolling)).done
  let byColumns (right : Bool) (count : Nat) : Outcome :=
    editor.afterScroll (window.scrollColumns right count editor.scrolling)
  let toEdge (left : Bool) : Outcome :=
    (editor.setWindow (window.scrollColumnToEdge left editor.scrolling)).done
  match key.code, key.printable? with
  | .enter, _ => toPlace .top true
  | .left, _ => byColumns false (count?.getD 1)
  | .right, _ => byColumns true (count?.getD 1)
  | _, some 't' => toPlace .top false
  | _, some 'z' => toPlace .middle false
  | _, some '.' => toPlace .middle true
  | _, some 'b' => toPlace .bottom false
  | _, some '-' => toPlace .bottom true
  | _, some 'h' => byColumns false (count?.getD 1)
  | _, some 'l' => byColumns true (count?.getD 1)
  | _, some 'H' => byColumns false half
  | _, some 'L' => byColumns true half
  | _, some 's' => toEdge true
  | _, some 'e' => toEdge false
  | _, _ => editor.reject

end Editor

end ModalEdit

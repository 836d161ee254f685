import ModalEdit.Editor.Visual

/-!
Keys in any mode: each takes the editor a step further.
-/

set_option autoImplicit false

namespace ModalEdit

namespace Editor

/-- What a key at the prompt leads to. -/
def afterPrompt (editor : Editor) (result : Prompt × PromptEvent) : Outcome :=
  let edited := { editor with prompt := result.1 }
  match result.2 with
  | .edited => edited.done
  | .submitted line => ({ edited with mode := .normal }, .execute line)
  | .cancelled => { edited with mode := .normal }.done
  | .ignored => edited.reject

/-- Takes a key at the prompt. -/
def pressPrompt (editor : Editor) (key : Key) : Outcome :=
  let awaited := editor.pending.awaited
  let editor := editor.stopWaiting
  if awaited ≠ .command then editor.specialKey awaited key
  else (editor.specialStart? key).getD (editor.afterPrompt (editor.prompt.press key))

/-- Takes a key as its mode says. -/
def pressInMode (editor : Editor) (key : Key) : Outcome :=
  match editor.mode with
  | .normal => editor.pressNormal key
  | .operatorPending operator _ => editor.pressOperator operator key
  | .insert | .replace => editor.pressTyping key
  | .visual kind target => editor.pressVisual kind target key
  | .select kind target => editor.pressSelect kind target key
  | .commandLine => editor.pressPrompt key

/-- Drops the command being typed, and its operator. -/
def dropCommand (editor : Editor) : Editor :=
  let cleared := editor.clearPending
  match cleared.mode with
  | .operatorPending .. => { cleared.update (·.commit) with mode := .normal }
  | _ => cleared

/-- Takes a key. A key that cannot be used drops the command being typed. -/
def press (editor : Editor) (key : Key) : Outcome :=
  let (pressed, step) := editor.pressInMode key
  match step with
  | .pending => (pressed, step)
  | .rejected => (pressed.dropCommand.settle, step)
  | _ => (pressed.settle, step)

/-- Ends whatever mode the editor is in, and goes to normal mode. -/
def escape (editor : Editor) : Editor :=
  let ended :=
    match editor.mode with
    | .insert | .replace => editor.finishTyping
    | .visual _ target | .select _ target =>
      let left := editor.endSelection target
      if left.mode.isTyping then left.finishTyping else left
    | .operatorPending .. | .commandLine | .normal =>
      { editor with prompt := {}, mode := .normal }
  ended.clearPending.settle

/-- Takes one transaction back, or makes one again. Whether there was one is answered. -/
def undoOnce (editor : Editor) (redo : Bool) : Editor × Bool :=
  let (undone, step) := editor.undo 1 redo
  (undone.settle, step == .done)

end Editor

end ModalEdit

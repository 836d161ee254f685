import ModalEdit.Edit.Operator
import ModalEdit.Text.Split

/-!
Putting the text of a register back.
-/

set_option autoImplicit false

namespace ModalEdit

namespace Workspace

/-- Puts whole lines before or behind the line of an offset. Behind the last line the line break
comes first. -/
def putLines (space : Workspace) (offset : Nat) (lines : List Char) (after : Bool) :
    Workspace × Nat :=
  let text := space.text
  let line := text.lineOf offset
  if after then
    let put :=
      if line < text.lastLine then space.insert (text.lineStart (line + 1)) lines
      else
        space.insert (text.lineEnd line) ('\n' :: (Text.stripLast? '\n' lines).getD lines)
    (put, put.text.firstNonBlank (line + 1))
  else
    let put := space.insert (text.lineStart line) lines
    (put, put.text.firstNonBlank line)

/-- Puts text before or behind the character at an offset. -/
def putChars (space : Workspace) (offset : Nat) (chars : List Char) (after : Bool) :
    Workspace × Nat :=
  let text := space.text
  let line := text.lineOf offset
  let place :=
    if after ∧ 0 < text.lineLength line then min (offset + 1) (text.lineEnd line) else offset
  (space.insert place chars, if '\n' ∈ chars then place else place + chars.length - 1)

/-- Puts a register at an offset, `count` times. An empty register is not put. -/
def paste (space : Workspace) (name? : Option Char) (after : Bool) (count offset : Nat) :
    Option (Workspace × Nat) :=
  let register := space.registers.get name?
  if register.content = [] then none
  else
    let text := (List.replicate (max count 1) register.content).flatten
    match register.kind with
    | .char => some (space.putChars offset text after)
    | .line =>
      let lines := if text.getLast? = some '\n' then text else text ++ ['\n']
      some (space.putLines offset lines after)

/-- The text that takes the place of a span when a register is put there. -/
def replacement (register : Register) : Span → List Char
  | .lines .. =>
    match register.kind with
    | .line => (Text.stripLast? '\n' register.content).getD register.content
    | .char => register.content
  | _ =>
    match register.kind with
    | .line => '\n' :: register.content
    | .char => register.content

/-- Puts a register in the place of a span. What was there goes to the unnamed register. -/
def replaceWithRegister (space : Workspace) (span : Span) (name? : Option Char) :
    Option (Workspace × Nat) :=
  let register := space.registers.get name?
  if register.content = [] then none
  else
    let start := span.start space.window
    let removed :=
      match span with
      | .lines first last =>
        let (start, stop) := space.text.lineBody first last
        space.remove start stop
      | span => (space.removeSpan span).1
    let body := replacement register span
    let put := (removed.insert start body).record none (span.register space.window) .delete
    let wholeLines := register.kind = .line ∨ span matches .lines ..
    let place :=
      if wholeLines then
        put.text.firstNonBlank (put.text.lineOf (if body.head? = some '\n' then start + 1 else start))
      else start + body.length - 1
    some (put, place)

end Workspace

end ModalEdit

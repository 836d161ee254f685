import ModalEdit.Edit.Operator

/-!
Edits within and between lines: joining them, and replacing characters and their case.
-/

set_option autoImplicit false

namespace ModalEdit

namespace Workspace

/-- Whether joining a line with the text at `next` takes a space between them. -/
def needsSpace (space : Workspace) (line next : Nat) : Bool :=
  let text := space.text
  let stop := text.lineEnd line
  let isEmpty := stop == text.lineStart line
  let endsBlank := !isEmpty && (text[stop - 1]?).any fun c => c == ' ' || c == '\t'
  !isEmpty && !endsBlank && next != text.lineEnd (line + 1) && text[next]? != some ')'

/-- Joins a line with the next one. With `spaces` the indent of that line becomes a space where
one is needed. -/
def joinNext (space : Workspace) (line : Nat) (spaces : Bool) : Workspace :=
  let text := space.text
  let next := if spaces then text.firstNonBlank (line + 1) else text.lineStart (line + 1)
  let separator := if spaces && space.needsSpace line next then [' '] else []
  space.replace (text.lineEnd line) next separator

/-- Joins a line with the next ones, as often as `count` says and there are lines, and answers
where the last join is. -/
def joinTimes (line : Nat) (spaces : Bool) : (count : Nat) → (caret : Nat) → Workspace →
    Workspace × Nat
  | 0, caret, space => (space, caret)
  | count + 1, caret, space =>
    if space.text.lastLine ≤ line then (space, caret)
    else joinTimes line spaces count (space.text.lineEnd line) (space.joinNext line spaces)

/-- Joins `count` lines, two at least. The last line cannot be joined. -/
def joinLines (space : Workspace) (line count : Nat) (spaces : Bool) : Option (Workspace × Nat) :=
  if space.text.lastLine ≤ line then none
  else
    let (joined, caret) := joinTimes line spaces (max count 2 - 1) (space.text.lineEnd line) space
    some (joined, joined.text.clampCaret caret false)

/-- Replaces `count` characters of a line, each by `c` or all by one line break. The line has to
have that many. -/
def replaceChars (space : Workspace) (c : Char) (count offset : Nat) : Option (Workspace × Nat) :=
  let count := max count 1
  let line := space.text.lineOf offset
  let stop := Number.wrapAdd offset count
  if space.text.lineEnd line < stop then none
  else if c = '\n' then
    let replaced := space.replace offset stop ['\n']
    some (replaced, replaced.text.lineStart (line + 1))
  else some (space.replace offset stop (List.replicate count c), stop - 1)

/-- Turns the case of `count` characters of a line around. There has to be one. -/
def toggleCase (space : Workspace) (count offset : Nat) : Option (Workspace × Nat) :=
  let stop := space.text.lineEnd (space.text.lineOf offset)
  if stop ≤ offset then none
  else
    let last := min (Number.wrapAdd offset (max count 1)) stop
    let toggled := space.mapSpan (.chars offset last) Operator.toggleCase.mapCase
    some (toggled, toggled.text.clampCaret last false)

/-- Replaces every character of a span but its line breaks, and answers where the span begins. -/
def fillSpan (space : Workspace) (span : Span) (c : Char) : Workspace × Nat :=
  (space.mapSpan span fun old => if old = '\n' then old else c, span.start space.window)

end Workspace

end ModalEdit

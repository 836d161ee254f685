import ModalEdit.Session.Basic

/-!
Keys in a session: mappings are looked up before keys reach the editor, and lines that the prompt
hands over are run.
-/

set_option autoImplicit false

namespace ModalEdit

/-- Runs a command line. There is no answer where lines are nested too deeply. -/
abbrev LineRunner := Session → List Char → Option (Session × LineResult)

/-- Takes a key without looking at mappings. -/
abbrev KeyRunner := Session → Key → Option (Session × KeyResult)

/-- The keys of a text that may hold control characters. -/
def Key.ofControlChar (c : Char) : Key :=
  if c = '\x1b' then escape
  else if c = '\r' ∨ c = '\n' then enter
  else if c = '\t' then named .tab
  else if c = '\x08' then named .backspace
  else if c = '\x7f' then named .delete
  else if 1 ≤ c.toNat ∧ c.toNat ≤ 26 then ctrl (Char.ofNat (c.toNat + 0x60))
  else ofChar c

/-- How often mappings are expanded before one key is used. -/
def maxExpansions : Nat := 1000

namespace Session

/-- What a line leads to that the prompt handed over: its text is shown, or its error. -/
def afterLine (session : Session) (result : LineResult) : Session × KeyResult :=
  match result with
  | .ok output? => (output?.elim session session.say, .consumed)
  | .error error => (session.fail error, .failed)

/-- Takes a key without looking at mappings, and runs the line that it may hand over. -/
def pressKey (run : LineRunner) : KeyRunner := fun session key =>
  let (editor, step) := session.editor.press key
  let pressed := { session with editor }.collectReport
  match step with
  | .done => some (pressed, .consumed)
  | .pending => some (pressed, .pending)
  | .rejected => some (pressed, .rejected)
  | .execute line => (run pressed line).map fun (session, result) => session.afterLine result

/-- Takes keys without looking at mappings. Whether a command failed is answered too. -/
def pressAll (press : KeyRunner) : List Key → Session → KeyResult → Bool →
    Option (Session × KeyResult × Bool)
  | [], session, result, failed => some (session, result, failed)
  | key :: rest, session, _, failed =>
    (press session key).bind fun (session, result) =>
      pressAll press rest session result (failed || result == .failed)

/-- A session, the keys that still wait, and what came of the last key that was used. -/
abbrev Drained := Session × List Key × KeyResult

/-- Uses the keys that wait, as far as no mapping is to be expanded. Then `next?` goes on, or the
mapping has been expanded too often. -/
def drainUntilMapped (press : KeyRunner) (flush : Bool)
    (next? : Option (List Key → Session → KeyResult → Option Drained)) :
    List Key → Session → KeyResult → Option Drained
  | [], session, result => some (session, [], result)
  | key :: rest, session, result =>
    match session.mappings.resolve session.editor.mapModes (key :: rest) flush with
    | .wait => some (session, key :: rest, .pending)
    | .raw =>
      (press session key).bind fun (session, result) =>
        if result = .failed then some (session, [], result)
        else drainUntilMapped press flush next? rest session result
    | .expand consumed rhs remap keepFirst =>
      match next? with
      | none => some (session.fail .recursiveMapping, [], .failed)
      | some next =>
        let split := if remap then keepFirst else rhs.length
        (pressAll press (rhs.take split) session result false).bind
          fun (session, result, failed) =>
            let waiting := rhs.drop split ++ (key :: rest).drop consumed
            next (if failed then [] else waiting) session result

/-- Uses the keys that wait, expanding mappings as often as is allowed. Keys that may be the start
of a mapping go on waiting, unless they are flushed. -/
def drain (press : KeyRunner) (flush : Bool) : (expansions : Nat) → List Key → Session →
    KeyResult → Option Drained
  | 0 => drainUntilMapped press flush none
  | expansions + 1 => drainUntilMapped press flush (some (drain press flush expansions))

/-- Takes keys one by one. With `remap` mappings are looked up, and keys may go on waiting. -/
def typeKeys (press : KeyRunner) (remap : Bool) : List Key → List Key → Session →
    Option (Session × List Key)
  | [], waiting, session => some (session, waiting)
  | key :: rest, waiting, session =>
    if remap then
      (drain press false maxExpansions (waiting ++ [key]) session .consumed).bind
        fun (session, waiting, _) => typeKeys press remap rest waiting session
    else
      (press session key).bind fun (session, _) => typeKeys press remap rest waiting session

/-- Takes keys as if they were typed, and then ends the mode that they have led to. -/
def runKeys (press : KeyRunner) (session : Session) (keys : List Key) (remap : Bool) :
    Option Session := do
  let (session, waiting) ← typeKeys press remap keys [] session
  let (session, _, _) ← drain press true maxExpansions waiting session .consumed
  some (session.update Editor.escape).collectReport

end Session

end ModalEdit

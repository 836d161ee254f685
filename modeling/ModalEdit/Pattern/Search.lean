import ModalEdit.Pattern.Program
import Std.Data.HashSet

/-!
How a program looks for matches in a text: all its threads go through the text together, in order
of preference, and a thread that comes to a step where a preferred one has been ends there.
-/

set_option autoImplicit false

namespace ModalEdit.Pattern

/-- A thread that waits for a character. -/
structure Thread where
  /-- The number of the step that takes the character. -/
  step : Nat
  /-- Where the thread's match starts. -/
  first : Nat
deriving DecidableEq, Inhabited

/-- The threads at a place of the text. -/
structure Front where
  /-- The steps that a thread has come to. -/
  seen : Std.HashSet Nat
  /-- The threads that wait, the preferred ones first. -/
  threads : Array Thread
  /-- Where the match starts that ends here. It ends the threads that come after it. -/
  accepted? : Option Nat

namespace Front

/-- No thread. -/
def none : Front := ⟨∅, #[], .none⟩

/-- Whether nothing is left to do. -/
def isEmpty (front : Front) : Bool :=
  front.threads.isEmpty && front.accepted?.isNone

end Front

namespace Program

/-- Lets threads of one match go on until they wait. Each step is followed once and leads to two
others at most, so `fuel` need not be larger than twice the number of steps and the number of
threads. -/
def follow (program : Program) (text : Array Char) (place first : Nat) :
    (fuel : Nat) → (pending : List Nat) → Front → Front
  | 0, _, front => front
  | _, [], front => front
  | fuel + 1, number :: pending, front =>
    if front.seen.contains number then follow program text place first fuel pending front
    else
      let front := { front with seen := front.seen.insert number }
      match program.steps[number]? with
      | some (.take _ _) =>
        follow program text place first fuel pending
          { front with threads := front.threads.push ⟨number, first⟩ }
      | some (.check condition next) =>
        if condition.holds text place then
          follow program text place first fuel (next :: pending) front
        else follow program text place first fuel pending front
      | some (.fork preferred other) =>
        follow program text place first fuel (preferred :: other :: pending) front
      | some .accept => { front with accepted? := some first }
      | none => follow program text place first fuel pending front

/-- Starts a thread, unless a preferred one has come to its match. -/
def enter (program : Program) (text : Array Char) (place first number : Nat) (front : Front) :
    Front :=
  if front.accepted?.isSome then front
  else program.follow text place first (2 * program.steps.size + 2) [number] front

/-- The threads behind a character. -/
def advance (program : Program) (text : Array Char) (place : Nat) (c : Char)
    (threads : Array Thread) : Front :=
  threads.foldl (fun (front : Front) (thread : Thread) =>
    match program.steps[thread.step]? with
    | some (.take chars next) =>
      if chars.contains c then program.enter text (place + 1) thread.first next front else front
    | _ => front) Front.none

/-- The preferred match from a place on, given that of the threads so far. A match that starts
further left is preferred, so no thread starts once there is a match. -/
def searchFrom (program : Program) (text : Array Char) (place : Nat) (front : Front)
    (best? : Option (Nat × Nat)) : Option (Nat × Nat) :=
  let front := if best?.isNone then program.enter text place place program.start front else front
  let best? :=
    match front.accepted? with
    | some first => some (first, place)
    | none => best?
  if h : place < text.size then
    if front.threads.isEmpty && best?.isSome then best?
    else searchFrom program text (place + 1) (program.advance text place text[place] front.threads)
      best?
  else best?
termination_by text.size - place

/-- The leftmost match that does not start before a place, as its start and its end. -/
def search (program : Program) (text : Array Char) (place : Nat) : Option (Nat × Nat) :=
  program.searchFrom text place .none none

/-- Whether there is a match anywhere in the text. -/
def isMatch (program : Program) (text : List Char) : Bool :=
  (program.search text.toArray 0).isSome

/-- The matches from left to right, as starts and ends. They do not overlap, and an empty match
does not come right after another match. -/
def matchesFrom (program : Program) (text : Array Char) (place : Nat) (behindMatch : Bool) :
    List (Nat × Nat) :=
  if _h : text.size < place then []
  else
    match program.search text place with
    | none => []
    | some (first, last) =>
      if first < last then
        (first, last) :: matchesFrom program text (max last (place + 1)) true
      else if behindMatch && first = place then matchesFrom program text (place + 1) false
      else (first, last) :: matchesFrom program text (max last place + 1) false
termination_by text.size + 1 - place
decreasing_by all_goals omega

/-- The pieces of a text around its matches, where the first piece starts at `start`. -/
def piecesBetween (text : List Char) (start : Nat) : List (Nat × Nat) → List (List Char)
  | [] => [text.drop start]
  | (first, stop) :: rest => (text.drop start).take (first - start) :: piecesBetween text stop rest

/-- The pieces of a text between the matches. -/
def split (program : Program) (text : List Char) : List (List Char) :=
  piecesBetween text 0 (program.matchesFrom text.toArray 0 false)

end Program

end ModalEdit.Pattern

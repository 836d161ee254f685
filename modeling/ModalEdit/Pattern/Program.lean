import ModalEdit.Pattern.Regex

/-!
Regular expressions as programs: numbered steps that take a character, check a condition, or fork.
A program is written from its end, so that the step that follows is known.
-/

set_option autoImplicit false

namespace ModalEdit.Pattern

/-- A step of a program and the number of the step that follows. -/
inductive Step where
  | take (chars : CharSet) (next : Nat)
  | check (condition : Look) (next : Nat)
  | fork (preferred other : Nat)
  | accept
deriving DecidableEq, Inhabited

/-- The steps of a program, and the number of the first. -/
structure Program where
  steps : Array Step
  start : Nat
deriving DecidableEq, Inhabited

namespace Program

/-- Puts a step in front of a program. -/
def push (step : Nat → Step) : Program → Program
  | ⟨steps, next⟩ =>
    let number := steps.size
    ⟨steps.push (step next), number⟩

/-- A choice between going on and leaving for a step. -/
def goOn (greedy : Bool) (leave : Nat) (start : Nat) : Step :=
  if greedy then .fork start leave else .fork leave start

/-- Does the same in front of a program several times. -/
def iterate (change : Program → Program) : Nat → Program → Program
  | 0, program => program
  | count + 1, program => iterate change count (change program)

/-- Writes a choice in front of a program, with the second alternative first. -/
def choose (first second : Program → Program) : Program → Program
  | ⟨steps, next⟩ =>
    match second ⟨steps, next⟩ with
    | ⟨steps, other⟩ => (first ⟨steps, next⟩).push fun start => .fork start other

/-- A loop in front of a program: behind its body comes the choice between another round and the
rest. The loop is entered at its body, or with `throughChoice` at the choice. -/
def loop (greedy throughChoice : Bool) (body : Program → Program) : Program → Program
  | ⟨steps, next⟩ =>
    let choice := steps.size
    match body ⟨steps.push .accept, choice⟩ with
    | ⟨steps, start⟩ =>
      ⟨steps.setIfInBounds choice (goOn greedy next start), if throughChoice then choice else start⟩

/-- Writes an expression in front of a program. -/
def write : Regex → Program → Program
  | .empty, program => program
  | .char c, program => program.push (.take (.single c))
  | .set chars, program => program.push (.take chars)
  | .look condition, program => program.push (.check condition)
  | .seq a b, program => write a (write b program)
  | .alt a b, program => choose (write a) (write b) program
  | .times greedy 0 none r, program =>
    if r.takesSome then loop greedy true (write r) program
    else
      -- A round that takes nothing must not keep the loop from its other alternatives.
      match program with
      | ⟨steps, next⟩ => (loop greedy false (write r) ⟨steps, next⟩).push (goOn greedy next)
  | .times greedy (lowest + 1) none r, program =>
    iterate (write r) lowest (loop greedy false (write r) program)
  | .times greedy lowest (some highest) r, ⟨steps, next⟩ =>
    let optional (inner : Program) : Program := (write r inner).push (goOn greedy next)
    iterate (write r) lowest (iterate optional (highest - lowest) ⟨steps, next⟩)
  | .group r, program => write r program

/-- The program of an expression. -/
def ofRegex (r : Regex) : Program :=
  write r ⟨#[.accept], 0⟩

end Program

end ModalEdit.Pattern

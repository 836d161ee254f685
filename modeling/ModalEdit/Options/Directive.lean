import ModalEdit.Options.Definition
import ModalEdit.Text.Blank

/-!
The arguments of a `:set` line: what each word asks for.
-/

set_option autoImplicit false

namespace ModalEdit

/-- How an assignment combines the old value with the new one. -/
inductive OptionAssignment where
  | set
  | add
  | subtract
  | prepend
deriving DecidableEq, Inhabited

/-- What one word of a `:set` line asks for. -/
inductive SetDirective where
  | on (name : String)
  | off (name : String)
  | toggle (name : String)
  | query (name : String)
  | reset (name : String)
  | assign (name : String) (assignment : OptionAssignment) (text : String)
  /-- Show the options that differ from their defaults. -/
  | showChanged
  | showAll
deriving DecidableEq, Inhabited

namespace SetDirective

/-- Cuts the arguments into words at blanks. A backslash before a space or a backslash makes that
character part of the word; `current` is the word read so far, last character first. -/
def splitArguments (current : List Char) : List Char → List (List Char)
  | [] => if current.isEmpty then [] else [current.reverse]
  | '\\' :: ' ' :: rest => splitArguments (' ' :: current) rest
  | '\\' :: '\\' :: rest => splitArguments ('\\' :: current) rest
  | c :: rest =>
    if Text.isBlank c then
      if current.isEmpty then splitArguments [] rest
      else current.reverse :: splitArguments [] rest
    else splitArguments (c :: current) rest

/-- The option name and the operator in front of an equals sign. -/
def splitAssignment (head : List Char) : List Char × OptionAssignment :=
  match head.getLast? with
  | some '+' => (head.dropLast, .add)
  | some '-' => (head.dropLast, .subtract)
  | some '^' => (head.dropLast, .prepend)
  | _ => (head, .set)

/-- The name behind a prefix, if it is that of an option that is on or off. -/
def negatedName? (start : String) (word : List Char) : Option String :=
  match Text.strip? start.toList word with
  | some rest =>
    let name := String.ofList rest
    if OptionDefinition.isBool name then some name else none
  | none => none

/-- Whether a character separates an option's name from its value. -/
def isAssignmentSign (c : Char) : Bool :=
  c == '=' || c == ':'

/-- What a word without an assignment asks for. -/
def parsePlain (word : List Char) : SetDirective :=
  match Text.stripLast? '?' word, Text.stripLast? '!' word, Text.stripLast? '&' word with
  | some name, _, _ => .query (String.ofList name)
  | _, some name, _ => .toggle (String.ofList name)
  | _, _, some name => .reset (String.ofList name)
  | none, none, none =>
    match negatedName? "no" word, negatedName? "inv" word with
    | some name, _ => .off name
    | none, some name => .toggle name
    | none, none =>
      let name := String.ofList word
      if (OptionDefinition.find? name).isSome && !OptionDefinition.isBool name then .query name
      else .on name

/-- What one word asks for. -/
def parseWord (word : List Char) : SetDirective :=
  if word = "all".toList then .showAll
  else
    match word.dropWhile (!isAssignmentSign ·) with
    | _ :: text =>
      let (name, assignment) := splitAssignment (word.takeWhile (!isAssignmentSign ·))
      .assign (String.ofList name) assignment (String.ofList text)
    | [] => parsePlain word

/-- What the arguments of a `:set` line ask for. -/
def parse (arguments : List Char) : List SetDirective :=
  match splitArguments [] arguments with
  | [] => [.showChanged]
  | words => words.map parseWord

end SetDirective

end ModalEdit

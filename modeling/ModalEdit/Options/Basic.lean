import ModalEdit.Options.Directive

/-!
The options of a session: their current values, the subscribers that hear of changes, and the
`:set` command.
-/

set_option autoImplicit false

namespace ModalEdit

/-- An option with its values. -/
structure OptionSlot where
  definition : OptionDefinition
  global : OptionValue
  local? : Option OptionValue
deriving DecidableEq, Inhabited

namespace OptionSlot

/-- An option as it is in a fresh session. -/
def initial (definition : OptionDefinition) : OptionSlot where
  definition := definition
  global := definition.defaultValue
  local? := if definition.reach = .local then some definition.defaultValue else none

/-- The value that a scope reads. -/
def read (slot : OptionSlot) (scope : Scope) : OptionValue :=
  if slot.definition.reach = .global ∨ scope = .global then slot.global
  else slot.local?.getD slot.global

/-- The option after a write in a scope. Writing both values of an option that is local only
where it differs takes the local one away. -/
def write (slot : OptionSlot) (scope : Scope) (value : OptionValue) : OptionSlot :=
  match slot.definition.reach, scope with
  | .global, _ => { slot with global := value }
  | _, .global => { slot with global := value }
  | _, .local => { slot with local? := some value }
  | .local, .both => { slot with global := value, local? := some value }
  | .globalLocal, .both => { slot with global := value, local? := none }

end OptionSlot

/-- A change of an option, as its subscribers hear of it. -/
structure OptionChange where
  name : String
  scope : Scope
  old : OptionValue
  new : OptionValue
deriving DecidableEq, Inhabited

/-- A subscriber: its number, and the option it follows if not all of them. -/
structure OptionListener where
  id : Nat
  name? : Option String
deriving DecidableEq, Inhabited

/-- A change that a subscriber has been told of. -/
structure OptionNotice where
  listener : Nat
  change : OptionChange
deriving DecidableEq, Inhabited

/-- The options of a session. `notices` are those not yet taken, the oldest first. -/
structure Options where
  slots : List OptionSlot := OptionDefinition.all.map OptionSlot.initial
  listeners : List OptionListener := []
  nextListener : Nat := 0
  notices : List OptionNotice := []
  cursorCache : List (CursorMode × CursorLook) := []
deriving Inhabited

namespace Options

/-- The option with a full or short name. -/
def find? (options : Options) (name : String) : Option OptionSlot :=
  options.slots.find? (·.definition.hasName name)

/-- As `find?`, with the error for names that no option has. -/
def find (options : Options) (name : String) : Except EditorError OptionSlot :=
  match options.find? name with
  | some slot => .ok slot
  | none => .error (.unknownOption name)

/-- The value that a scope reads. -/
def get (options : Options) (scope : Scope) (name : String) : Except EditorError OptionValue :=
  (options.find name).map (·.read scope)

/-- The value in effect. -/
def value? (options : Options) (name : String) : Option OptionValue :=
  (options.find? name).map (·.read .both)

/-- Whether an option is on; what is not an option of that kind is off. -/
def flag (options : Options) (name : String) : Bool :=
  ((options.value? name).bind OptionValue.bool?).getD false

/-- The number of an option; what is not an option of that kind is zero. -/
def number (options : Options) (name : String) : Int64 :=
  ((options.value? name).bind OptionValue.number?).getD 0

/-- As `number`, as a count. -/
def count (options : Options) (name : String) : Nat :=
  (options.number name).toNatClampNeg

/-- The text of an option's value; what is not an option has none. -/
def text (options : Options) (name : String) : String :=
  ((options.value? name).map OptionValue.text).getD ""

/-- Whether a list option holds a token. -/
def hasToken (options : Options) (name token : String) : Bool :=
  ((options.value? name).map (OptionValue.hasToken token)).getD false

/-- The notices that a change brings, one for each subscriber that follows the option. -/
def noticesOf (options : Options) (change : OptionChange) : List OptionNotice :=
  (options.listeners.filter fun listener => listener.name?.all (· == change.name)).map
    fun listener => ⟨listener.id, change⟩

/-- Writes a value. Subscribers hear of it if the scope reads another value afterwards. -/
def write (options : Options) (scope : Scope) (slot : OptionSlot) (value : OptionValue) :
    Options :=
  let name := slot.definition.name
  let old := slot.read scope
  let written := { options with
    slots := options.slots.map fun other =>
      if other.definition.name = name then other.write scope value else other }
  if old = value then written
  else
    { written with
      notices := options.notices ++ options.noticesOf ⟨name, scope, old, value⟩
      cursorCache :=
        if slot.definition.grammar = .guiCursor then [] else options.cursorCache }

/-- The list after an assignment of the parsed tokens. -/
def combineLists (assignment : OptionAssignment) (old new : List OptionEntry) :
    List OptionEntry :=
  let holds (entries : List OptionEntry) (entry : OptionEntry) : Bool :=
    entries.any (·.token == entry.token)
  match assignment with
  | .set => new
  | .add => new.foldl (fun entries entry =>
      if holds entries entry then entries else entries ++ [entry]) old
  | .prepend => new ++ old.filter (!holds new ·)
  | .subtract => old.filter (!holds new ·)

/-- The number after an assignment; it stays in the range of 64 bits. -/
def combineNumbers (assignment : OptionAssignment) (old operand : Int64) : Int64 :=
  match assignment with
  | .set => operand
  | .add => Number.addClamped old operand
  | .subtract => Number.subClamped old operand
  | .prepend => Number.mulClamped old operand

/-- The text after an assignment. -/
def combineTexts (assignment : OptionAssignment) (old text : String) : String :=
  match assignment with
  | .set => text
  | .add => old ++ text
  | .prepend => text ++ old
  | .subtract => String.ofList (Text.removeFirst text.toList old.toList)

/-- Assigns a text to an option, as it was named. Of a list, the tokens before a bad one count. -/
def assign (options : Options) (scope : Scope) (name : String)
    (assignment : OptionAssignment) (text : String) : Options × Except EditorError Unit :=
  match options.find name with
  | .error error => (options, .error error)
  | .ok slot =>
    let invalid : EditorError := .invalidArgument s!"{name}={text}"
    let current := slot.read scope
    match slot.definition.kind with
    | .bool => (options, .error invalid)
    | .number =>
      match Number.parseInteger? (Text.trim text.toList) with
      | none => (options, .error (.numberRequired s!"{name}={text}"))
      | some operand =>
        let combined := combineNumbers assignment (current.number?.getD 0) operand
        match slot.definition.checkNumber combined with
        | .error error => (options, .error error)
        | .ok value => (options.write scope slot (.number value), .ok ())
    | .string =>
      let combined := combineTexts assignment current.text text
      match slot.definition.grammar with
      | .oneOf words =>
        if words.contains combined then (options.write scope slot (.string combined), .ok ())
        else (options, .error invalid)
      | _ => (options.write scope slot (.string combined), .ok ())
    | .list =>
      match current with
      | .list old =>
        let (new, error?) := slot.definition.parseList text
        let written := options.write scope slot (.list (combineLists assignment old new))
        match error? with
        | some error => (written, .error error)
        | none => (written, .ok ())
      | _ => (options, .error invalid)

/-- Sets an option to a value. Truth values and numbers turn into each other, and texts are read
as the option's own text. -/
def set (options : Options) (scope : Scope) (name : String) (value : OptionValue) :
    Options × Except EditorError Unit :=
  match options.find name with
  | .error error => (options, .error error)
  | .ok slot =>
    match slot.definition.kind, value with
    | .bool, .bool value => (options.write scope slot (.bool value), .ok ())
    | .bool, .number value => (options.write scope slot (.bool (value != 0)), .ok ())
    | .number, .number value =>
      match slot.definition.checkNumber value with
      | .error error => (options, .error error)
      | .ok value => (options.write scope slot (.number value), .ok ())
    | .number, .bool value =>
      (options.write scope slot (.number (if value then 1 else 0)), .ok ())
    | .string, .string text | .list, .string text => options.assign scope name .set text
    | .list, .list entries => (options.write scope slot (.list entries), .ok ())
    | _, value =>
      (options, .error (.invalidArgument s!"{slot.definition.name}={value.text}"))

/-- Sets an option to its default. -/
def reset (options : Options) (scope : Scope) (name : String) :
    Options × Except EditorError Unit :=
  match options.find name with
  | .error error => (options, .error error)
  | .ok slot => (options.write scope slot slot.definition.defaultValue, .ok ())

/-- Adds a subscriber to one option or to all, and gives its number. -/
def subscribe (options : Options) (name? : Option String) : Except EditorError (Nat × Options) := do
  let name? ← name?.mapM fun name => (options.find name).map (·.definition.name)
  let id := options.nextListener
  return (id, { options with
    nextListener := id + 1, listeners := options.listeners ++ [⟨id, name?⟩] })

/-- Removes a subscriber. -/
def unsubscribe (options : Options) (id : Nat) : Options :=
  { options with listeners := options.listeners.filter (·.id != id) }

/-- The notices that have come in, and the options without them. -/
def takeNotices (options : Options) : List OptionNotice × Options :=
  (options.notices, { options with notices := [] })

/-- The line that shows an option. -/
def showSlot (slot : OptionSlot) (scope : Scope) : String :=
  match slot.read scope with
  | .bool true => s!"  {slot.definition.name}"
  | .bool false => s!"no{slot.definition.name}"
  | value => s!"  {slot.definition.name}={value.text}"

/-- The line that shows the option of a name. -/
def format (options : Options) (scope : Scope) (name : String) : Except EditorError String :=
  (options.find name).map (showSlot · scope)

/-- The listing of all options, or of those that differ from their defaults. -/
def listing (options : Options) (scope : Scope) (all : Bool) : String :=
  let shown := options.slots.filter fun slot =>
    all || slot.read scope != slot.definition.defaultValue
  "\n".intercalate ("--- Options ---" :: shown.map (showSlot · scope))

/-- What one directive shows, if anything, and the options after it. -/
def runDirective (options : Options) (scope : Scope) (directive : SetDirective) :
    Options × Except EditorError (Option String) :=
  let silently (result : Options × Except EditorError Unit) :
      Options × Except EditorError (Option String) :=
    (result.1, result.2.map fun _ => none)
  match directive with
  | .showChanged => (options, .ok (some (options.listing scope false)))
  | .showAll => (options, .ok (some (options.listing scope true)))
  | .on name =>
    match options.find name with
    | .error error => (options, .error error)
    | .ok slot =>
      if slot.definition.kind = .bool then silently (options.set scope name (.bool true))
      else (options, .ok (some (showSlot slot scope)))
  | .off name => silently (options.set scope name (.bool false))
  | .toggle name =>
    match options.find name with
    | .error error => (options, .error error)
    | .ok slot =>
      match (slot.read scope).bool? with
      | some value => silently (options.set scope name (.bool !value))
      | none => (options, .error (.invalidArgument s!"{slot.definition.name}!"))
  | .query name => (options, (options.format scope name).map some)
  | .reset name => silently (options.reset scope name)
  | .assign name assignment text => silently (options.assign scope name assignment text)

/-- Runs directives up to the first that fails; those before it count. The lines shown come out
in order. -/
def runDirectives (scope : Scope) : List SetDirective → Options →
    Options × Except EditorError (List String)
  | [], options => (options, .ok [])
  | directive :: rest, options =>
    match options.runDirective scope directive with
    | (options, .error error) => (options, .error error)
    | (options, .ok shown) =>
      let (options, result) := runDirectives scope rest options
      (options, result.map (shown.toList ++ ·))

/-- Runs the arguments of a `:set` line: the options after it, and what it shows. -/
def execute (options : Options) (scope : Scope) (arguments : String) :
    Options × Except EditorError (Option String) :=
  let (options, result) := runDirectives scope (SetDirective.parse arguments.toList) options
  (options, result.map fun lines => if lines.isEmpty then none else some ("\n".intercalate lines))

/-- The entries that describe the cursor. -/
def cursorEntries (options : Options) : List CursorEntry :=
  match options.value? "guicursor" with
  | some (.list entries) => entries.filterMap fun
    | .cursor entry => some entry
    | .word _ => none
  | _ => []

/-- The look of the cursor in a mode. It is worked out once and kept until the entries change. -/
def cursorLook (options : Options) (mode : CursorMode) : CursorLook × Options :=
  match options.cursorCache.lookup mode with
  | some look => (look, options)
  | none =>
    let look := CursorLook.ofEntries options.cursorEntries mode
    (look, { options with cursorCache := (mode, look) :: options.cursorCache })

end Options

end ModalEdit

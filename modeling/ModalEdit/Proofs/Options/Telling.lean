import Mathlib.Data.List.Nodup
import ModalEdit.Proofs.Options.CursorCache
import ModalEdit.Session.Basic

/-!
What subscribers are told of options. What they have been told last of an option is its value in effect,
unless that was its global value, which need not be in effect. What they have not been told of has not
changed.
-/

set_option autoImplicit false

namespace ModalEdit

namespace OptionDefinition

/-- The option that the window follows. -/
def tabStop : OptionDefinition :=
  ⟨"tabstop", "ts", .local, .number, .number 8, .any⟩

/-- The option that the history follows. -/
def undoLevels : OptionDefinition :=
  ⟨"undolevels", "ul", .global, .number, .number 1000, .any⟩

theorem tabStop_mem : tabStop ∈ all := by
  decide

theorem undoLevels_mem : undoLevels ∈ all := by
  decide

end OptionDefinition

namespace OptionSlot

variable {slot : OptionSlot} {scope : Scope} {value : OptionValue}

/-- Whatever is written is in effect, unless it is the global value of an option that has two. -/
theorem read_both_write (effective : slot.definition.reach = .global ∨ scope ≠ .global) :
    (slot.write scope value).read .both = value := by
  unfold read write
  cases reach : slot.definition.reach <;> cases scope <;> simp_all

end OptionSlot

/-- What has been told last of an option. -/
def lastTold? (notices : List OptionNotice) (name : String) : Option OptionChange :=
  (notices.filter (·.change.name = name)).getLast?.map (·.change)

theorem lastTold?_append_of_ne {notices later : List OptionNotice} {name : String}
    (others : ∀ notice ∈ later, notice.change.name ≠ name) :
    lastTold? (notices ++ later) name = lastTold? notices name := by
  have none : later.filter (·.change.name = name) = [] :=
    List.filter_eq_nil_iff.mpr fun notice member => by simpa using others notice member
  unfold lastTold?
  rw [List.filter_append, none, List.append_nil]

/-- Of changes that are all the same, and at least one, that is the last. -/
theorem lastTold?_append {notices later : List OptionNotice} {change : OptionChange}
    (same : ∀ notice ∈ later, notice.change = change) (any : later ≠ []) :
    lastTold? (notices ++ later) change.name = some change := by
  have all : later.filter (·.change.name = change.name) = later :=
    List.filter_eq_self.mpr fun notice member => by simp [same notice member]
  unfold lastTold?
  rw [List.filter_append, all, List.getLast?_append_of_ne_nil _ any, List.getLast?_eq_some_getLast any]
  exact congrArg some (same _ (List.getLast_mem any))

theorem changedCount?_eq (notices : List OptionNotice) (name : String) :
    Session.changedCount? notices name =
      (lastTold? notices name).bind fun change => change.new.number?.map Int64.toNatClampNeg := by
  unfold Session.changedCount? lastTold?
  cases (notices.filter (·.change.name = name)).getLast? with
  | none => rfl
  | some notice => cases isNew : notice.change.new <;> simp [isNew, OptionValue.number?]

namespace Options

variable {options after : Options} {scope : Scope} {slot other : OptionSlot} {value : OptionValue}
  {name : String}

/-- Whether someone hears of the changes of an option. -/
def Watches (options : Options) (name : String) : Prop :=
  ∃ listener ∈ options.listeners, listener.name?.all (· == name) = true

theorem listeners_write : (options.write scope slot value).listeners = options.listeners := by
  unfold write
  dsimp only
  split <;> rfl

theorem notices_write_self :
    (options.write scope slot (slot.read scope)).notices = options.notices := by
  unfold write
  dsimp only
  rw [if_pos rfl]

theorem notices_write (differs : slot.read scope ≠ value) :
    (options.write scope slot value).notices =
      options.notices ++ options.noticesOf ⟨slot.definition.name, scope, slot.read scope, value⟩ := by
  unfold write
  dsimp only
  rw [if_neg differs]

theorem change_of_mem_noticesOf {change : OptionChange} {notice : OptionNotice}
    (member : notice ∈ options.noticesOf change) : notice.change = change := by
  obtain ⟨listener, _, rfl⟩ := List.mem_map.mp member
  rfl

theorem Watches.noticesOf_ne_nil {change : OptionChange} (watches : options.Watches change.name) :
    options.noticesOf change ≠ [] := by
  obtain ⟨listener, member, follows⟩ := watches
  exact List.ne_nil_of_mem (List.mem_map_of_mem (List.mem_filter.mpr ⟨member, follows⟩))

theorem count_of_find? (found : options.find? name = some slot) :
    options.count name = ((slot.read .both).number?.getD 0).toNatClampNeg := by
  unfold count number value?
  rw [found]
  rfl

section Declared

variable {definition : OptionDefinition} (declared : definition ∈ OptionDefinition.all)
  (admitted : options.Admitted)

include admitted declared

/-- A write of one option leaves the others, and what has been told of them. -/
theorem Admitted.write_other (others : slot.definition.name ≠ definition.name) :
    (options.write scope slot value).count definition.name = options.count definition.name ∧
      lastTold? (options.write scope slot value).notices definition.name =
        lastTold? options.notices definition.name := by
  obtain ⟨own, found, rfl⟩ := admitted.find declared (OptionDefinition.hasName_self definition)
  have found := find_eq_ok.mp found
  constructor
  · have written : (options.write scope slot value).find? own.definition.name = some own := by
      rw [find?_write, found, Option.map_some, if_neg (Ne.symm others)]
    rw [count_of_find? written, count_of_find? found]
  · by_cases same : slot.read scope = value
    · rw [← same, notices_write_self]
    · rw [notices_write same]
      apply lastTold?_append_of_ne
      intro notice member
      rw [change_of_mem_noticesOf member]
      exact others

/-- A number is given to one option only. -/
theorem Admitted.set_number_other (scope : Scope) (number : Int64)
    (found : options.find name = .ok slot)
    (others : slot.definition.name ≠ definition.name) :
    let after := (options.set scope name (.number number)).1
    after.count definition.name = options.count definition.name ∧
      lastTold? after.notices definition.name = lastTold? options.notices definition.name := by
  unfold Options.set
  rw [found]
  dsimp only
  cases slot.definition.kind with
  | bool => exact admitted.write_other declared others
  | number =>
    dsimp only
    split
    · exact ⟨rfl, rfl⟩
    · exact admitted.write_other declared others
  | string | list => exact ⟨rfl, rfl⟩

/-- A write of an option that someone follows is told, unless its scope has the value already. -/
theorem Admitted.write_own (watches : options.Watches definition.name)
    (found : options.find name = .ok slot) (isOwn : slot.definition.name = definition.name) :
    ((options.write scope slot value).count definition.name = options.count definition.name ∧
      lastTold? (options.write scope slot value).notices definition.name =
        lastTold? options.notices definition.name) ∨
    (lastTold? (options.write scope slot value).notices definition.name =
        some ⟨definition.name, scope, slot.read scope, value⟩ ∧
      (definition.reach = .global ∨ scope ≠ .global →
        (options.write scope slot value).count definition.name =
          (value.number?.getD 0).toNatClampNeg)) := by
  obtain ⟨own, isFound, rfl⟩ := admitted.find declared (OptionDefinition.hasName_self definition)
  obtain rfl :=
    eq_of_name admitted.definitions (mem_of_find found).1 (mem_of_find isFound).1 isOwn
  have isFound := find_eq_ok.mp isFound
  have written : (options.write scope slot value).find? slot.definition.name =
      some (slot.write scope value) := by
    rw [find?_write, isFound, Option.map_some, if_pos rfl]
  rw [count_of_find? written]
  by_cases same : slot.read scope = value
  · left
    subst same
    rw [count_of_find? isFound, OptionSlot.read_both_write_self, notices_write_self]
    exact ⟨rfl, rfl⟩
  · right
    constructor
    · rw [notices_write same]
      exact lastTold?_append (fun notice => change_of_mem_noticesOf) watches.noticesOf_ne_nil
    · intro effective
      rw [OptionSlot.read_both_write effective]

end Declared

/-- Between two states of the options, nothing has happened to one of them, or its last change in a scope
has been told. The count told is in effect, unless it is that of the global value alone. -/
def SilentOrTold (definition : OptionDefinition) (scope : Scope) (options after : Options) : Prop :=
  (after.count definition.name = options.count definition.name ∧
    lastTold? after.notices definition.name = lastTold? options.notices definition.name) ∨
  ∃ change, lastTold? after.notices definition.name = some change ∧ change.scope = scope ∧
    (definition.reach = .global ∨ scope ≠ .global →
      Session.changedCount? after.notices definition.name = some (after.count definition.name))

section Declared

variable {definition : OptionDefinition} (declared : definition ∈ OptionDefinition.all)
  (isNumber : definition.kind = .number)

include declared isNumber

theorem Admitted.silentOrTold_of_sets (admitted : options.Admitted)
    (watches : options.Watches definition.name) (sets : options.Sets scope after) :
    SilentOrTold definition scope options after := by
  cases sets with
  | kept => exact Or.inl ⟨rfl, rfl⟩
  | @written name slot value found admits =>
    by_cases isOwn : slot.definition.name = definition.name
    · rcases admitted.write_own declared watches found isOwn with silent | ⟨told, effective⟩
      · exact Or.inl silent
      · refine Or.inr ⟨_, told, rfl, ?_⟩
        intro inEffect
        have same : slot.definition = definition :=
          OptionDefinition.eq_of_hasName (admitted.declared (mem_of_find found).1) declared
            (OptionDefinition.hasName_self _) (isOwn ▸ OptionDefinition.hasName_self _)
        obtain ⟨number, rfl⟩ := OptionDefinition.exists_number_of_admits (same ▸ admits) isNumber
        rw [changedCount?_eq, told, effective inEffect]
        rfl
    · exact Or.inl (admitted.write_other declared isOwn)

end Declared

theorem Watches.of_sets (watches : options.Watches name) (sets : options.Sets scope after) :
    after.Watches name := by
  cases sets with
  | kept => exact watches
  | written found admits =>
    unfold Watches
    rw [listeners_write]
    exact watches

theorem Watches.of_writes (watches : options.Watches name) (writes : options.Writes scope after) :
    after.Watches name := by
  induction writes with
  | refl => exact watches
  | tail _ sets ih => exact ih.of_sets sets

/-- By induction on the writes: one that is silent leaves what the ones before have told. -/
theorem Admitted.silentOrTold {definition : OptionDefinition}
    (declared : definition ∈ OptionDefinition.all) (isNumber : definition.kind = .number)
    (admitted : options.Admitted) (watches : options.Watches definition.name)
    (writes : options.Writes scope after) : SilentOrTold definition scope options after := by
  induction writes with
  | refl => exact Or.inl ⟨rfl, rfl⟩
  | @tail between after writes sets ih =>
    have last := (admitted.of_writes writes).silentOrTold_of_sets declared isNumber
      (watches.of_writes writes) sets
    rcases last with ⟨sameCount, sameTold⟩ | told
    · unfold SilentOrTold
      rw [changedCount?_eq, sameTold, sameCount, ← changedCount?_eq]
      exact ih
    · exact Or.inr told

section Watch

theorem watch_of_find (found : options.find name = .ok slot) : options.watch name =
    { options with
      nextListener := options.nextListener + 1
      listeners := options.listeners ++ [⟨options.nextListener, some slot.definition.name⟩] } := by
  unfold watch subscribe
  simp [found]
  rfl

variable (found : options.find name = .ok slot)

include found

theorem Admitted.watch (admitted : options.Admitted) : (options.watch name).Admitted := by
  rw [watch_of_find found]
  exact ⟨admitted.definitions, admitted.slots⟩

theorem watches_watch : (options.watch name).Watches slot.definition.name := by
  rw [watch_of_find found]
  exact ⟨_, List.mem_append_right _ (List.mem_singleton_self _), beq_self_eq_true _⟩

theorem Watches.watch {other : String} (watches : options.Watches other) :
    (options.watch name).Watches other := by
  obtain ⟨listener, member, follows⟩ := watches
  rw [watch_of_find found]
  exact ⟨listener, List.mem_append_left _ member, follows⟩

end Watch

/-- The options of a session: each holds what it may hold, and the window and the history hear of
theirs. -/
structure Watched (options : Options) : Prop where
  admitted : options.Admitted
  tabStop : options.Watches OptionDefinition.tabStop.name
  undoLevels : options.Watches OptionDefinition.undoLevels.name

theorem watched_ofWindow (window : Window) : (Session.ofWindow window).editor.options.Watched := by
  have fresh : ({} : Options).Admitted := admitted_fresh
  obtain ⟨first, found, isFirst⟩ :=
    fresh.find OptionDefinition.tabStop_mem (OptionDefinition.hasName_self _)
  obtain ⟨second, isFound, isSecond⟩ :=
    (fresh.watch found).find OptionDefinition.undoLevels_mem (OptionDefinition.hasName_self _)
  refine ⟨(fresh.watch found).watch isFound, ?_, ?_⟩
  · rw [← isFirst]
    exact (watches_watch found).watch isFound
  · rw [← isSecond]
    exact watches_watch isFound

/-- Changes may be taken at any time. -/
theorem Watched.takeNotices (watched : options.Watched) : options.takeNotices.2.Watched :=
  ⟨⟨watched.admitted.definitions, watched.admitted.slots⟩, watched.tabStop, watched.undoLevels⟩

theorem Watched.of_writes (watched : options.Watched) (writes : options.Writes scope after) :
    after.Watched :=
  ⟨watched.admitted.of_writes writes, watched.tabStop.of_writes writes,
    watched.undoLevels.of_writes writes⟩

end Options

/-! ### Every write -/

namespace OptionSlot

variable {slot : OptionSlot} {scope : Scope} {value : OptionValue}

theorem read_both_eq_local : slot.read .both = slot.read .local := by
  unfold read
  simp

theorem read_local_write_both : (slot.write .both value).read .local = value := by
  rw [← read_both_eq_local, read_write]

/-- What a scope has already, it may be given again: the local value stays, and the global one too unless both
are given. -/
theorem read_local_write_self :
    (slot.write scope (slot.read scope)).read .local = slot.read .local := by
  rw [← read_both_eq_local, ← read_both_eq_local, read_both_write_self]

theorem read_write_self (differs : (slot.write scope (slot.read scope)).read .global ≠ slot.read .global) :
    scope = .both := by
  unfold read write at differs
  cases reach : slot.definition.reach <;> cases scope <;> simp_all

/-- A scope reads another value as the global one or as the local one, whichever it is. -/
theorem read_ne_of_ne (differs : slot.read scope ≠ value) :
    (slot.write scope value).read .global ≠ slot.read .global ∨
      (slot.write scope value).read .local ≠ slot.read .local := by
  have reads : (slot.write scope value).read scope ≠ slot.read scope := by
    rw [read_write]
    exact Ne.symm differs
  cases scope with
  | global => exact .inl reads
  | «local» => exact .inr reads
  | both =>
    rw [read_both_eq_local, read_both_eq_local] at reads
    exact .inr reads

end OptionSlot

/-- A write of one option. -/
inductive OptionWrite where
  | set (scope : Scope) (name : String) (value : OptionValue)
  | assign (scope : Scope) (name : String) (assignment : OptionAssignment) (text : String)
  | reset (scope : Scope) (name : String)
deriving DecidableEq, Inhabited

namespace OptionWrite

def scope : OptionWrite → Scope
  | set scope _ _ | assign scope _ _ _ | reset scope _ => scope

def name : OptionWrite → String
  | set _ name _ | assign _ name _ _ | reset _ name => name

end OptionWrite

/-- What can be asked of options that others follow. -/
inductive OptionRequest where
  | write (write : OptionWrite)
  | execute (scope : Scope) (arguments : String)
  | subscribe (name? : Option String)
  | unsubscribe (id : Nat)
deriving DecidableEq, Inhabited

/-- Whether a subscriber follows the option of a name, alone or with all others. -/
def OptionListener.follows (listener : OptionListener) (name : String) : Bool :=
  listener.name?.all fun followed => (OptionDefinition.find? name).any (·.name == followed)

namespace Options

/-- The options after a write, whether it fails or not. -/
def perform (options : Options) : OptionWrite → Options
  | .set scope name value => (options.set scope name value).1
  | .assign scope name assignment text => (options.assign scope name assignment text).1
  | .reset scope name => (options.reset scope name).1

/-- The options after a request. -/
def serve (options : Options) : OptionRequest → Options
  | .write write => options.perform write
  | .execute scope arguments => (options.execute scope arguments).1
  | .subscribe name? =>
    match options.subscribe name? with
    | .ok (_, after) => after
    | .error _ => options
  | .unsubscribe id => options.unsubscribe id

/-- The options after requests, one after the other. -/
def serveAll (options : Options) (requests : List OptionRequest) : Options :=
  requests.foldl serve options

/-- The options that there are, and subscribers whose numbers have been given once each. -/
structure Numbered (options : Options) : Prop where
  definitions : options.slots.map (·.definition) = OptionDefinition.all
  distinct : (options.listeners.map (·.id)).Nodup
  below : ∀ listener ∈ options.listeners, listener.id < options.nextListener

variable {options : Options} {scope : Scope} {slot : OptionSlot} {value : OptionValue} {name : String}

theorem nextListener_write : (options.write scope slot value).nextListener = options.nextListener := by
  unfold write
  dsimp only
  split <;> rfl

theorem numbered_fresh : ({} : Options).Numbered :=
  ⟨admitted_fresh.definitions, List.nodup_nil, nofun⟩

theorem Numbered.write (numbered : options.Numbered) :
    (options.write scope slot value).Numbered := by
  refine ⟨definitions_write.trans numbered.definitions, ?_, ?_⟩
  · rw [listeners_write]
    exact numbered.distinct
  · rw [listeners_write, nextListener_write]
    exact numbered.below

theorem puts_perform (options : Options) (write : OptionWrite) :
    ∃ condition, options.Puts condition write.scope write.name (options.perform write) := by
  cases write with
  | set scope name value => exact ⟨_, puts_set scope name value⟩
  | assign scope name assignment text => exact ⟨_, puts_assign scope name assignment text⟩
  | reset scope name => exact ⟨_, puts_reset scope name⟩

theorem Numbered.perform (numbered : options.Numbered) (write : OptionWrite) :
    (options.perform write).Numbered := by
  obtain ⟨_, puts⟩ := options.puts_perform write
  generalize options.perform write = after at puts
  cases puts with
  | kept => exact numbered
  | written => exact numbered.write

/-- By induction on the directives, each of which writes one option or none. -/
theorem Numbered.runDirectives {directives : List SetDirective} (numbered : options.Numbered) :
    (Options.runDirectives scope directives options).1.Numbered := by
  induction directives generalizing options with
  | nil => exact numbered
  | cons directive rest ih =>
    have first : (options.runDirective scope directive).1.Numbered := by
      obtain ⟨result, kept | ⟨slot, _, value, written⟩⟩ :=
        (writesOne_runDirective directive : options.WritesOne scope _)
      · exact (congrArg Prod.fst (kept options.cursorCache)).symm ▸ numbered
      · exact (congrArg Prod.fst (written options.cursorCache)).symm ▸ numbered.write
    unfold Options.runDirectives
    split
    · rename_i ran
      rw [ran] at first
      exact first
    · rename_i ran
      rw [ran] at first
      exact ih first

theorem eq_of_subscribe {name? : Option String} {id : Nat} {after : Options}
    (done : options.subscribe name? = .ok (id, after)) : ∃ followed?, after = { options with
      nextListener := options.nextListener + 1
      listeners := options.listeners ++ [⟨options.nextListener, followed?⟩] } := by
  unfold Options.subscribe at done
  cases known : name?.mapM fun name => (options.find name).map (·.definition.name) with
  | error error =>
    rw [known] at done
    cases done
  | ok followed? =>
    rw [known] at done
    cases done
    exact ⟨followed?, rfl⟩

/-- A new subscriber has a number that nobody has had before. -/
theorem Numbered.subscribe {name? : Option String} {id : Nat} {after : Options}
    (numbered : options.Numbered) (done : options.subscribe name? = .ok (id, after)) :
    after.Numbered := by
  obtain ⟨followed?, rfl⟩ := eq_of_subscribe done
  refine ⟨numbered.definitions, ?_, ?_⟩
  · dsimp only
    rw [List.map_append, List.map_cons, List.map_nil, ← List.concat_eq_append, List.nodup_concat]
    refine ⟨fun member => ?_, numbered.distinct⟩
    obtain ⟨listener, among, same⟩ := List.mem_map.mp member
    exact absurd same (Nat.ne_of_lt (numbered.below listener among))
  · intro listener member
    rcases List.mem_append.mp member with old | new
    · exact Nat.lt_succ_of_lt (numbered.below listener old)
    · rw [List.mem_singleton.mp new]
      exact Nat.lt_succ_self _

theorem Numbered.serve (numbered : options.Numbered) (request : OptionRequest) :
    (options.serve request).Numbered := by
  cases request with
  | write write => exact numbered.perform write
  | execute scope arguments => exact numbered.runDirectives
  | subscribe name? =>
    unfold Options.serve
    dsimp only
    split
    · rename_i done
      exact numbered.subscribe done
    · exact numbered
  | unsubscribe id =>
    refine ⟨numbered.definitions, ?_, ?_⟩
    · exact numbered.distinct.sublist (List.filter_sublist.map _)
    · intro listener member
      exact numbered.below listener (List.mem_filter.mp member).1

theorem Numbered.serveAll {requests : List OptionRequest} (numbered : options.Numbered) :
    (options.serveAll requests).Numbered := by
  induction requests generalizing options with
  | nil => exact numbered
  | cons request rest ih => exact ih (numbered.serve request)

/-- The numbers of those who follow the option of a name, in the order of their subscriptions. -/
def followers (options : Options) (name : String) : List Nat :=
  (options.listeners.filter (·.follows name)).map (·.id)

theorem Numbered.nodup_followers (numbered : options.Numbered) : (options.followers name).Nodup :=
  numbered.distinct.sublist (List.filter_sublist.map _)

/-- A change is told to the followers of its option. -/
theorem listeners_noticesOf {change : OptionChange} {definition : OptionDefinition}
    (named : OptionDefinition.find? name = some definition) (same : change.name = definition.name) :
    (options.noticesOf change).map (·.listener) = options.followers name := by
  unfold noticesOf followers
  rw [List.map_map]
  have follows : (fun listener : OptionListener => listener.follows name) =
      fun listener => listener.name?.all (· == change.name) := by
    funext listener
    unfold OptionListener.follows
    rw [named, same]
    congr 1
    funext followed
    exact Bool.beq_comm
  rw [follows]
  rfl

theorem get_ne_get_write_iff (found : options.find name = .ok slot) (other : Scope) :
    options.get other name ≠ (options.write scope slot value).get other name ↔
      slot.read other ≠ (slot.write scope value).read other := by
  rw [get_of_find found, get_write_of_find found, ne_eq, Except.ok.injEq]

/-- Whatever has been set, assigned, reset, subscribed and unsubscribed before: a write of an option, and also
one that fails, tells all who follow the option once each, or nobody. It tells them if the option reads
otherwise afterwards, as the global value or as the local one. But of a write of both values that brings the
global one alone to another value nobody is told. -/
theorem told_once (requests : List OptionRequest) (write : OptionWrite) :
    let options := ({} : Options).serveAll requests
    let after := options.perform write
    let changes (scope : Scope) := options.get scope write.name ≠ after.get scope write.name
    let unheard := write.scope = .both ∧ changes .global ∧ ¬ changes .local
    ∃ told, after.notices = options.notices ++ told ∧
      (options.followers write.name).Nodup ∧
      ((changes .global ∨ changes .local) ∧ ¬ unheard →
        told.map (·.listener) = options.followers write.name) ∧
      (¬ (changes .global ∨ changes .local) ∨ unheard → told = []) ∧
      ∀ notice ∈ told, (OptionDefinition.find? write.name).map (·.name) = some notice.change.name ∧
        notice.change.scope = write.scope ∧
        options.get write.scope write.name = .ok notice.change.old ∧
        after.get write.scope write.name = .ok notice.change.new := by
  intro options after changes unheard
  have numbered : options.Numbered := numbered_fresh.serveAll
  obtain ⟨_, puts⟩ := options.puts_perform write
  have isAfter : options.perform write = after := rfl
  rw [isAfter] at puts
  clear_value after
  cases puts with
  | kept =>
    have unchanged : ¬ (changes .global ∨ changes .local) := by simp [changes]
    refine ⟨[], (List.append_nil _).symm, numbered.nodup_followers, ?_, fun _ => rfl, nofun⟩
    exact fun heard => absurd heard.1 unchanged
  | @written slot value found =>
    have changes_iff (scope : Scope) : changes scope ↔ _ := get_ne_get_write_iff found scope
    by_cases same : slot.read write.scope = value
    · subst same
      have localKept : ¬ changes .local := by
        rw [changes_iff, OptionSlot.read_local_write_self]
        exact not_not_intro rfl
      refine ⟨[], ?_, numbered.nodup_followers, ?_, fun _ => rfl, nofun⟩
      · rw [notices_write_self, List.append_nil]
      · rintro ⟨changed, heard⟩
        have globally := changed.resolve_right localKept
        have both := OptionSlot.read_write_self (Ne.symm ((changes_iff _).mp globally))
        exact absurd ⟨both, globally, localKept⟩ heard
    · refine ⟨_, notices_write same, numbered.nodup_followers, fun _ => ?_, ?_, ?_⟩
      · exact listeners_noticesOf (find?_definition numbered.definitions found) rfl
      · rintro (unchanged | ⟨both, -, localKept⟩)
        · rw [changes_iff, changes_iff] at unchanged
          have changed := OptionSlot.read_ne_of_ne same
          exact absurd (changed.imp Ne.symm Ne.symm) unchanged
        · rw [changes_iff, both, OptionSlot.read_local_write_both] at localKept
          rw [both, OptionSlot.read_both_eq_local] at same
          exact absurd same localKept
      · intro notice member
        rw [change_of_mem_noticesOf member, find?_definition numbered.definitions found]
        exact ⟨rfl, rfl, get_of_find found _, get_write found⟩

/-- Nobody hears of a value that is in effect already when it becomes the global one too. -/
example :
    let options := ({} : Options).serveAll
      [.subscribe none, .write (.set .global "ts" (.number 4))]
    let after := options.perform (.set .both "ts" (.number 8))
    (options.get .global "ts" = .ok (.number 4) ∧ after.get .global "ts" = .ok (.number 8)) ∧
      after.notices = options.notices := by
  decide +kernel

end Options

end ModalEdit

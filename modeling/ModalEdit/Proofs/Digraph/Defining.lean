import Mathlib.Data.List.Basic
import Mathlib.Data.List.Induction
import ModalEdit.Digraph

/-!
Digraphs defined one after the other. The list of them and the places of its pairs stay in step: each pair
is listed once, where it was defined first, with the character that it was given last, and that is the
character that is found for it. What is looked up comes from the first of the two tables that has the pair
in either order, so only a table that has both orders can tell them apart.
-/

set_option autoImplicit false

namespace ModalEdit

/-- The two characters that stand for the third. -/
def Digraph.pair (digraph : Digraph) : Char × Char :=
  (digraph.first, digraph.second)

theorem Digraph.isOf_iff (digraph : Digraph) (first second : Char) :
    digraph.isOf first second = true ↔ digraph.pair = (first, second) := by
  simp [isOf, pair]

/-- What can be done to the digraphs of a session. -/
inductive DigraphCall where
  | define (digraph : Digraph)
  | defineCode (first second : Char) (code : Nat)
deriving DecidableEq, Inhabited

/-- The digraph that a call defines, if there is a character with its code point. -/
def DigraphCall.digraph? : DigraphCall → Option Digraph
  | define digraph => some digraph
  | defineCode first second code => (Text.charOfCode? code).map (⟨first, second, ·⟩)

namespace Digraphs

/-- The digraphs after a call, which are those before it if it fails. -/
def call (digraphs : Digraphs) : DigraphCall → Digraphs
  | .define digraph => digraphs.define digraph
  | .defineCode first second code => (digraphs.defineCode first second code).toOption.getD digraphs

/-- The digraphs after calls, one after the other. -/
def callAll (digraphs : Digraphs) (calls : List DigraphCall) : Digraphs :=
  calls.foldl call digraphs

/-- The character that a pair was given last, in this order. -/
def lastChar? (defined : List Digraph) (first second : Char) : Option Char :=
  find? defined.reverse first second

variable {digraphs : Digraphs} {defined listed : List Digraph} {first second : Char}

/-! ### Lists of digraphs -/

theorem find?_cons (digraph : Digraph) (listed : List Digraph) (first second : Char) :
    find? (digraph :: listed) first second =
      if digraph.pair = (first, second) then some digraph.char else find? listed first second := by
  unfold find?
  rw [List.find?_cons]
  by_cases is : digraph.pair = (first, second)
  · rw [(digraph.isOf_iff first second).mpr is, if_pos is]
    rfl
  · rw [Bool.eq_false_iff.mpr (mt (digraph.isOf_iff first second).mp is), if_neg is]

/-- A pair is found at its first place. -/
theorem find?_eq_idxOf? (listed : List Digraph) (first second : Char) :
    find? listed first second =
      ((listed.map Digraph.pair).idxOf? (first, second)).bind fun place =>
        listed[place]?.map Digraph.char := by
  induction listed with
  | nil => rfl
  | cons digraph rest ih =>
    rw [find?_cons, List.map_cons, List.idxOf?_cons]
    by_cases is : digraph.pair = (first, second)
    · simp [is]
    · rw [if_neg is, beq_eq_false_iff_ne.mpr is, if_neg Bool.false_ne_true, Option.bind_map, ih]
      rfl

theorem find?_append (listed others : List Digraph) (first second : Char) :
    find? (listed ++ others) first second =
      (find? listed first second).or (find? others first second) := by
  unfold find?
  rw [List.find?_append, Option.map_or]

theorem idxOf?_concat (pairs : List (Char × Char)) (pair other : Char × Char) :
    (pairs ++ [pair]).idxOf? other =
      (pairs.idxOf? other).or (if pair = other then some pairs.length else none) := by
  unfold List.idxOf?
  rw [List.findIdx?_append]
  by_cases is : pair = other <;> simp [List.findIdx?_cons, is]

theorem isSome_find? (listed : List Digraph) (first second : Char) :
    (find? listed first second).isSome = true ↔ (first, second) ∈ listed.map Digraph.pair := by
  induction listed with
  | nil => simp [find?]
  | cons digraph rest ih =>
    rw [find?_cons, List.map_cons, List.mem_cons]
    by_cases is : digraph.pair = (first, second)
    · simp [is]
    · rw [if_neg is, ih]
      simp [Ne.symm is]

/-- In a list that has each pair once, the characters that are found are those that are listed. -/
theorem mem_iff_find? (distinct : (listed.map Digraph.pair).Nodup) (digraph : Digraph) :
    digraph ∈ listed ↔ find? listed digraph.first digraph.second = some digraph.char := by
  induction listed with
  | nil => simp [find?]
  | cons other rest ih =>
    rw [List.map_cons, List.nodup_cons] at distinct
    rw [find?_cons, List.mem_cons]
    by_cases is : other.pair = (digraph.first, digraph.second)
    · have nowhereElse : digraph ∉ rest := fun later =>
        distinct.1 (is ▸ List.mem_map_of_mem later)
      rw [if_pos is, Option.some.injEq]
      constructor
      · rintro (rfl | later)
        · rfl
        · exact absurd later nowhereElse
      · intro same
        obtain ⟨_, _, _⟩ := digraph
        obtain ⟨_, _, _⟩ := other
        cases is
        cases same
        exact .inl rfl
    · have apart : digraph ≠ other := by
        rintro rfl
        exact is rfl
      rw [if_neg is, ih distinct.2]
      simp [apart]

theorem lastChar?_append (defined : List Digraph) (digraph : Digraph) (first second : Char) :
    lastChar? (defined ++ [digraph]) first second =
      if digraph.pair = (first, second) then some digraph.char
      else lastChar? defined first second := by
  unfold lastChar?
  rw [List.reverse_append]
  exact find?_cons digraph defined.reverse first second

theorem isSome_lastChar? (defined : List Digraph) (first second : Char) :
    (lastChar? defined first second).isSome = true ↔
      (first, second) ∈ defined.map Digraph.pair := by
  unfold lastChar?
  rw [isSome_find?, List.map_reverse, List.mem_reverse]

/-- Another character for a digraph leaves the pairs as they are. -/
theorem pairs_modify (listed : List Digraph) (place : Nat) (char : Char) :
    (listed.modify place fun other => { other with char := char }).map Digraph.pair =
      listed.map Digraph.pair := by
  apply List.ext_getElem?
  intro i
  rw [List.getElem?_map, List.getElem?_modify, List.getElem?_map]
  cases listed[i]? with
  | none => rfl
  | some digraph =>
    show some (Digraph.pair (if place = i then _ else digraph)) = some digraph.pair
    split <;> rfl

/-! ### The list and its places in step -/

/-- The digraphs are what the definitions leave: the places are those of the list, and the list has the
pairs that have been defined, in the order of first definition, with their last characters. -/
structure Holds (digraphs : Digraphs) (defined : List Digraph) : Prop where
  places : ∀ first second,
    digraphs.place? first second = (digraphs.custom.map Digraph.pair).idxOf? (first, second)
  ordered : (digraphs.custom.map Digraph.pair).Pairwise fun earlier later =>
    (defined.map Digraph.pair).idxOf earlier < (defined.map Digraph.pair).idxOf later
  chars : ∀ first second, find? digraphs.custom first second = lastChar? defined first second

theorem holds_nil : Holds {} [] where
  places _ _ := rfl
  ordered := .nil
  chars _ _ := rfl

namespace Holds

theorem customChar?_eq (holds : digraphs.Holds defined) (first second : Char) :
    digraphs.customChar? first second = lastChar? defined first second := by
  unfold customChar?
  rw [holds.places, ← find?_eq_idxOf?, holds.chars]

theorem distinct (holds : digraphs.Holds defined) : (digraphs.custom.map Digraph.pair).Nodup :=
  holds.ordered.imp fun before same => absurd (same ▸ before) (Nat.lt_irrefl _)

theorem mem_pairs_iff (holds : digraphs.Holds defined) (pair : Char × Char) :
    pair ∈ digraphs.custom.map Digraph.pair ↔ pair ∈ defined.map Digraph.pair := by
  obtain ⟨first, second⟩ := pair
  rw [← isSome_find?, holds.chars, isSome_lastChar?]

/-- Definitions that come later do not change which pair was defined first. -/
theorem ordered_append (holds : digraphs.Holds defined) (digraph : Digraph) :
    (digraphs.custom.map Digraph.pair).Pairwise fun earlier later =>
      ((defined ++ [digraph]).map Digraph.pair).idxOf earlier <
        ((defined ++ [digraph]).map Digraph.pair).idxOf later := by
  rw [List.map_append]
  refine holds.ordered.imp_of_mem fun {earlier later} isEarlier isLater before => ?_
  rwa [List.idxOf_append_of_mem ((holds.mem_pairs_iff earlier).mp isEarlier),
    List.idxOf_append_of_mem ((holds.mem_pairs_iff later).mp isLater)]

/-- A pair that is defined again keeps its place. -/
theorem define_again (holds : digraphs.Holds defined) (digraph : Digraph) {place : Nat}
    (found : digraphs.place? digraph.first digraph.second = some place) :
    (digraphs.define digraph).Holds (defined ++ [digraph]) := by
  have isPlace : (digraphs.custom.map Digraph.pair).idxOf? digraph.pair = some place :=
    (holds.places _ _).symm.trans found
  have defines : digraphs.define digraph =
      { digraphs with
        custom := digraphs.custom.modify place fun other => { other with char := digraph.char } } := by
    unfold define
    rw [found]
  rw [defines]
  refine ⟨fun first second => ?_, ?_, fun first second => ?_⟩
  · rw [pairs_modify]
    exact holds.places first second
  · rw [pairs_modify]
    exact holds.ordered_append digraph
  · rw [find?_eq_idxOf?, pairs_modify, lastChar?_append, ← holds.chars, find?_eq_idxOf?]
    by_cases is : digraph.pair = (first, second)
    · obtain ⟨inside, -⟩ := List.idxOf?_eq_some_iff.mp isPlace
      rw [List.length_map] at inside
      rw [if_pos is, ← is, isPlace]
      simp [List.getElem?_modify, inside]
    · rw [if_neg is]
      refine Option.bind_congr fun other isOther => ?_
      have apart : place ≠ other := by
        rintro rfl
        obtain ⟨_, here, -⟩ := List.idxOf?_eq_some_iff.mp isPlace
        obtain ⟨_, there, -⟩ := List.idxOf?_eq_some_iff.mp isOther
        exact is (here.symm.trans there)
      rw [List.getElem?_modify_ne _ _ apart]

/-- A pair that is defined for the first time comes behind all others. -/
theorem define_new (holds : digraphs.Holds defined) (digraph : Digraph)
    (new : digraphs.place? digraph.first digraph.second = none) :
    (digraphs.define digraph).Holds (defined ++ [digraph]) := by
  have notListed : digraph.pair ∉ digraphs.custom.map Digraph.pair :=
    List.idxOf?_eq_none_iff.mp ((holds.places _ _).symm.trans new)
  have notDefined : digraph.pair ∉ defined.map Digraph.pair :=
    mt (holds.mem_pairs_iff digraph.pair).mpr notListed
  have defines : digraphs.define digraph =
      { custom := digraphs.custom ++ [digraph]
        places := (digraph.pair, digraphs.custom.length) :: digraphs.places } := by
    unfold define
    rw [new]
    rfl
  rw [defines]
  refine ⟨fun first second => ?_, ?_, fun first second => ?_⟩
  · dsimp only [place?]
    rw [List.map_append, List.map_singleton, idxOf?_concat, ← holds.places, List.length_map,
      List.lookup_cons]
    by_cases is : digraph.pair = (first, second)
    · have unplaced : digraphs.place? first second = none := by
        cases is
        exact new
      rw [unplaced, if_pos is, is, beq_self_eq_true]
      rfl
    · rw [if_neg is, beq_eq_false_iff_ne.mpr (Ne.symm is), Option.or_none]
      rfl
  · have pairs : (digraphs.custom ++ [digraph]).map Digraph.pair =
        digraphs.custom.map Digraph.pair ++ [digraph.pair] := List.map_append
    rw [pairs, List.pairwise_append]
    refine ⟨holds.ordered_append digraph, List.pairwise_singleton _ _, ?_⟩
    intro earlier isEarlier later isLater
    cases List.mem_singleton.mp isLater
    have isDefined := (holds.mem_pairs_iff earlier).mp isEarlier
    rw [List.map_append, List.idxOf_append_of_mem isDefined, List.idxOf_append_of_notMem notDefined]
    exact Nat.lt_add_right _ (List.idxOf_lt_length_of_mem isDefined)
  · dsimp only
    rw [find?_append, lastChar?_append, ← holds.chars, find?_cons]
    by_cases is : digraph.pair = (first, second)
    · have unfound : find? digraphs.custom first second = none := by
        rw [← Option.not_isSome_iff_eq_none, isSome_find?, ← is]
        exact notListed
      rw [if_pos is, if_pos is, unfound, Option.none_or]
    · rw [if_neg is, if_neg is]
      exact Option.or_none

theorem define (holds : digraphs.Holds defined) (digraph : Digraph) :
    (digraphs.define digraph).Holds (defined ++ [digraph]) := by
  cases found : digraphs.place? digraph.first digraph.second with
  | some place => exact holds.define_again digraph found
  | none => exact holds.define_new digraph found

/-- A call that fails defines nothing. -/
theorem call (holds : digraphs.Holds defined) (call : DigraphCall) :
    (digraphs.call call).Holds (defined ++ call.digraph?.toList) := by
  cases call with
  | define digraph => exact holds.define digraph
  | defineCode first second code =>
    dsimp only [Digraphs.call, DigraphCall.digraph?]
    unfold defineCode
    cases Text.charOfCode? code with
    | some char => exact holds.define ⟨first, second, char⟩
    | none =>
      rw [Option.map_none, Option.toList_none, List.append_nil]
      exact holds

end Holds

theorem holds_callAll (calls : List DigraphCall) :
    (({} : Digraphs).callAll calls).Holds (calls.filterMap DigraphCall.digraph?) := by
  induction calls using List.reverseRecOn with
  | nil => exact holds_nil
  | append_singleton before call ih =>
    have next := ih.call call
    have defined : [call].filterMap DigraphCall.digraph? = call.digraph?.toList := by
      cases defines : call.digraph? <;> simp [defines]
    rw [← defined, ← List.filterMap_append] at next
    rw [callAll, List.foldl_append]
    exact next

/-! ### Looking up -/

/-- The first table that has a pair in either order: that of the session, or else the given one. -/
def decidingTable (digraphs : Digraphs) (first second : Char) : Char → Char → Option Char :=
  if (digraphs.customChar? first second <|> digraphs.customChar? second first).isSome then
    digraphs.customChar?
  else find? defaults

theorem lookup_eq_elim (digraphs : Digraphs) (first second : Char) :
    digraphs.lookup first second =
      (digraphs.customChar? first second <|> digraphs.customChar? second first <|>
        find? defaults first second <|> find? defaults second first).elim
        (.error (.digraphNotFound first second)) .ok := by
  unfold lookup
  split <;> rename_i found <;> rw [found] <;> rfl

theorem lookup_of_decidingTable (digraphs : Digraphs) (first second : Char) :
    digraphs.lookup first second =
      (digraphs.decidingTable first second first second <|>
        digraphs.decidingTable first second second first).elim
        (.error (.digraphNotFound first second)) .ok := by
  rw [lookup_eq_elim]
  unfold decidingTable
  cases here : digraphs.customChar? first second <;>
    cases there : digraphs.customChar? second first <;> simp [here, there]

theorem decidingTable_comm (digraphs : Digraphs) (first second : Char) :
    digraphs.decidingTable first second = digraphs.decidingTable second first := by
  unfold decidingTable
  cases digraphs.customChar? first second <;> cases digraphs.customChar? second first <;> rfl

/-- A table that has one order only gives its character to both. -/
theorem lookup_comm (one : (digraphs.decidingTable first second first second).isSome ≠
      (digraphs.decidingTable first second second first).isSome) :
    digraphs.lookup first second = digraphs.lookup second first := by
  rw [lookup_of_decidingTable, lookup_of_decidingTable, digraphs.decidingTable_comm second first]
  cases here : digraphs.decidingTable first second first second <;>
    cases there : digraphs.decidingTable first second second first <;>
      simp [here, there] at one ⊢

theorem defineCode_eq_error_iff (digraphs : Digraphs) (first second : Char) (code : Nat)
    (error : EditorError) :
    digraphs.defineCode first second code = .error error ↔
      Text.charOfCode? code = none ∧ error = .invalidCodePoint code := by
  unfold defineCode
  cases Text.charOfCode? code <;> simp [eq_comm]

/-- Whatever has been defined, each pair is listed once, in the order of first definition and with its last
character. That is also what is found for it, before the pair in the other order, and before the given
digraphs in either order. So both orders give the same, unless the table that decides has both. A call that
fails, which is one for no character, changes nothing. -/
theorem defining_and_looking_up (calls : List DigraphCall) :
    let digraphs := ({} : Digraphs).callAll calls
    let defined := calls.filterMap DigraphCall.digraph?
    let pairs := defined.map Digraph.pair
    ((digraphs.custom.map Digraph.pair).Nodup ∧
      (digraphs.custom.map Digraph.pair).Pairwise
        (fun earlier later => pairs.idxOf earlier < pairs.idxOf later) ∧
      (∀ pair, pair ∈ digraphs.custom.map Digraph.pair ↔ pair ∈ pairs) ∧
      ∀ digraph ∈ digraphs.custom,
        lastChar? defined digraph.first digraph.second = some digraph.char) ∧
    (∀ first second, digraphs.lookup first second =
      (lastChar? defined first second <|> lastChar? defined second first <|>
        find? defaults first second <|> find? defaults second first).elim
        (.error (.digraphNotFound first second)) .ok) ∧
    (∀ first second, (digraphs.decidingTable first second first second).isSome ≠
        (digraphs.decidingTable first second second first).isSome →
      digraphs.lookup first second = digraphs.lookup second first) ∧
    ∀ first second code,
      ((∃ error, digraphs.defineCode first second code = .error error) ↔
        Text.charOfCode? code = none) ∧
      (Text.charOfCode? code = none →
        digraphs.call (.defineCode first second code) = digraphs) := by
  intro digraphs defined pairs
  have holds : digraphs.Holds defined := holds_callAll calls
  refine ⟨⟨holds.distinct, holds.ordered, holds.mem_pairs_iff, ?_⟩, ?_, ?_, ?_⟩
  · intro digraph listed
    rw [← holds.chars]
    exact (mem_iff_find? holds.distinct digraph).mp listed
  · intro first second
    rw [lookup_eq_elim, holds.customChar?_eq, holds.customChar?_eq]
  · exact fun first second one => lookup_comm one
  · intro first second code
    constructor
    · simp [defineCode_eq_error_iff]
    · intro none
      rw [call, (digraphs.defineCode_eq_error_iff first second code _).mpr ⟨none, rfl⟩]
      rfl

/-- A pair that is defined twice, one that is defined by its code point, and a code point of no character. -/
theorem defining_and_looking_up_twice :
    let calls : List DigraphCall := [.define ⟨'a', ':', 'x'⟩, .defineCode 'b' 'c' 955,
      .define ⟨'a', ':', 'y'⟩, .defineCode 'b' 'd' 55296]
    let digraphs := ({} : Digraphs).callAll calls
    digraphs.custom = [⟨'a', ':', 'y'⟩, ⟨'b', 'c', 'λ'⟩] ∧
      lastChar? (calls.filterMap DigraphCall.digraph?) 'b' 'c' = some 'λ' ∧
      digraphs.lookup 'a' ':' = digraphs.lookup ':' 'a' ∧
      digraphs.call (.defineCode 'b' 'd' 55296) = digraphs := by
  intro calls digraphs
  obtain ⟨⟨-, -, -, chars⟩, -, symmetric, failing⟩ := defining_and_looking_up calls
  refine ⟨by decide, chars ⟨'b', 'c', 'λ'⟩ (by decide), symmetric 'a' ':' (by decide), ?_⟩
  exact (failing 'b' 'd' 55296).2 (by decide)

end Digraphs

end ModalEdit

import Mathlib.Data.Option.Basic
import ModalEdit.Proofs.Mapping.Table
import ModalEdit.Proofs.Session.Asking
import ModalEdit.Session.Keys

/-!
The strokes that a run of keys makes: each key that reaches the editor, in the session that it reaches it
in. Keys are used in rounds: a key that waits and is not mapped is one, and so are the keys of a mapping
that are not mapped again. A run has a result just where each of its strokes has an answer.
-/

set_option autoImplicit false

namespace ModalEdit

/-- The keys of a mapping that are used without looking at mappings: all of them where the result is
not mapped again, and otherwise the keys themselves where the result starts with them. -/
def Mapping.unmapped (mapping : Mapping) : List Key :=
  if mapping.noremap then mapping.rhs
  else if mapping.lhs.isPrefixOf mapping.rhs then mapping.lhs else []

/-- The keys of a mapping that wait to be mapped again. -/
def Mapping.mapped (mapping : Mapping) : List Key :=
  mapping.rhs.drop mapping.unmapped.length

/-- A key that reaches the editor, and the session that it reaches it in. -/
structure Stroke where
  session : Session
  key : Key

/-- Strokes that belong together. -/
abbrev Round := List Stroke

/-- What comes of a stroke. -/
abbrev StrokeAnswer := Option (Session × KeyResult)

def KeyRunner.ofStrokes (answer : Stroke → StrokeAnswer) : KeyRunner :=
  fun session key => answer ⟨session, key⟩

def Stroke.answer (press : KeyRunner) (stroke : Stroke) : StrokeAnswer :=
  press stroke.session stroke.key

namespace Session

/-- The strokes of keys that are used one after the other, up to the first without an answer. -/
def strokes (press : KeyRunner) : List Key → Session → List Stroke
  | [], _ => []
  | key :: rest, session =>
    ⟨session, key⟩ :: (press session key).elim [] fun (after, _) => strokes press rest after

/-- The rounds of keys that wait, until a mapping is to be expanded and `next?` goes on. -/
def roundsUntilMapped (press : KeyRunner) (flush : Bool)
    (next? : Option (List Key → Session → KeyResult → List Round)) :
    List Key → Session → KeyResult → List Round
  | [], _, _ => []
  | key :: rest, session, result =>
    match session.mappings.resolve session.editor.mapModes (key :: rest) flush with
    | .wait => []
    | .raw =>
      [⟨session, key⟩] :: (press session key).elim [] fun (after, result) =>
        if result = .failed then []
        else roundsUntilMapped press flush next? rest after result
    | .expand consumed rhs remap keepFirst =>
      match next? with
      | none => []
      | some next =>
        let split := if remap then keepFirst else rhs.length
        strokes press (rhs.take split) session ::
          (pressAll press (rhs.take split) session result false).elim []
            fun (after, result, failed) =>
              let waiting := rhs.drop split ++ (key :: rest).drop consumed
              next (if failed then [] else waiting) after result

/-- The rounds of keys that wait, with mappings expanded as often as is allowed. -/
def rounds (press : KeyRunner) (flush : Bool) : (expansions : Nat) → List Key → Session →
    KeyResult → List Round
  | 0 => roundsUntilMapped press flush none
  | expansions + 1 => roundsUntilMapped press flush (some (rounds press flush expansions))

/-- The strokes of keys that are typed one by one. -/
def typedStrokes (press : KeyRunner) (remap : Bool) : List Key → List Key → Session → List Stroke
  | [], _, _ => []
  | key :: rest, waiting, session =>
    if remap then
      (rounds press false maxExpansions (waiting ++ [key]) session .consumed).flatten ++
        (drain press false maxExpansions (waiting ++ [key]) session .consumed).elim []
          fun (after, waiting, _) => typedStrokes press remap rest waiting after
    else
      ⟨session, key⟩ :: (press session key).elim []
        fun (after, _) => typedStrokes press remap rest waiting after

/-- The strokes of keys that are taken as if they were typed, and of those that then still wait. -/
def runStrokes (press : KeyRunner) (session : Session) (keys : List Key) (remap : Bool) :
    List Stroke :=
  typedStrokes press remap keys [] session ++
    (typeKeys press remap keys [] session).elim [] fun (after, waiting) =>
      (rounds press true maxExpansions waiting after .consumed).flatten

/-- The session as a key that is typed finds it. -/
def begun (session : Session) : Session :=
  if session.typeahead = [] ∧ session.atCommandStart then session.clearStatus else session

/-- The rounds of the keys that wait, with one more that is typed. -/
def feedRounds (press : KeyRunner) (session : Session) (key : Key) : List Round :=
  rounds press false maxExpansions (session.typeahead ++ [key]) session.begun .consumed

/-- The rounds of the keys that wait where no more come. -/
def flushRounds (press : KeyRunner) (session : Session) : List Round :=
  rounds press true maxExpansions session.typeahead session .consumed

end Session

namespace Mapping

theorem take_unmapped (mapping : Mapping) :
    mapping.rhs.take mapping.unmapped.length = mapping.unmapped := by
  unfold unmapped
  split
  · exact List.take_length
  · split
    · rename_i starts
      exact (List.prefix_iff_eq_take.mp (List.isPrefixOf_iff_prefix.mp starts)).symm
    · rfl

/-- All keys of a mapping are used unmapped or none of them, except where the result starts with the keys
themselves. -/
theorem unmapped_cases (mapping : Mapping) :
    (mapping.unmapped = mapping.rhs ∧ mapping.mapped = []) ∨
      (mapping.unmapped = [] ∧ mapping.mapped = mapping.rhs) ∨
        ∃ key, mapping.lhs.head? = some key ∧ mapping.rhs.head? = some key := by
  unfold mapped unmapped
  by_cases final : mapping.noremap = true
  · rw [if_pos final]
    exact Or.inl ⟨rfl, List.drop_length⟩
  · rw [if_neg final]
    by_cases starts : mapping.lhs.isPrefixOf mapping.rhs = true
    · rw [if_pos starts]
      obtain ⟨others, isRhs⟩ := List.isPrefixOf_iff_prefix.mp starts
      cases keys : mapping.lhs with
      | nil => exact Or.inr (Or.inl ⟨rfl, rfl⟩)
      | cons first keys' =>
        rw [keys] at isRhs
        exact Or.inr (Or.inr ⟨first, rfl, by rw [← isRhs]; rfl⟩)
    · rw [if_neg starts]
      exact Or.inr (Or.inl ⟨rfl, rfl⟩)

/-- An expansion keeps the unmapped keys of the mapping from being mapped again. -/
theorem expansion_eq (mapping : Mapping) (consumed : Nat) :
    ∃ keepFirst, mapping.expansion consumed =
        .expand consumed mapping.rhs (!mapping.noremap) keepFirst ∧
      (if !mapping.noremap then keepFirst else mapping.rhs.length) = mapping.unmapped.length := by
  refine ⟨_, rfl, ?_⟩
  unfold unmapped
  cases mapping.noremap with
  | true => rfl
  | false => by_cases starts : mapping.lhs.isPrefixOf mapping.rhs <;> simp [starts]

end Mapping

namespace MappingTable

variable {table : MappingTable} {modes : MapModes} {flush : Bool}

/-- No mapping of the modes starts with a key. -/
def Plain (table : MappingTable) (modes : MapModes) (key : Key) : Prop :=
  ∀ mapping ∈ table.within modes, mapping.lhs.head? ≠ some key

/-- A key that no mapping starts with stands for itself. -/
theorem resolve_plain {key : Key} (plain : table.Plain modes key) (rest : List Key) :
    table.resolve modes (key :: rest) flush = .raw := by
  rcases table.resolve_cases key rest with waits | isRaw | expands
  · obtain ⟨_, mapping, member, starts⟩ := waits
    exact absurd starts (plain mapping member)
  · exact isRaw
  · obtain ⟨mapping, member, others, isLhs, _⟩ := expands
    refine absurd ?_ (plain mapping member)
    rw [isLhs]
    rfl

end MappingTable

namespace Session

section Equations

variable {press : KeyRunner} {flush : Bool} {expansions consumed : Nat} {key : Key}
  {rest : List Key} {session : Session} {result : KeyResult} {mapping : Mapping}

theorem drain_nil : drain press flush expansions [] session result = some (session, [], result) := by
  cases expansions <;> rfl

theorem rounds_nil : rounds press flush expansions [] session result = [] := by
  cases expansions <;> rfl

theorem drain_wait
    (waits : session.mappings.resolve session.editor.mapModes (key :: rest) flush = .wait) :
    drain press flush expansions (key :: rest) session result =
      some (session, key :: rest, .pending) := by
  cases expansions <;> simp only [drain, drainUntilMapped, waits]

theorem rounds_wait
    (waits : session.mappings.resolve session.editor.mapModes (key :: rest) flush = .wait) :
    rounds press flush expansions (key :: rest) session result = [] := by
  cases expansions <;> simp only [rounds, roundsUntilMapped, waits]

theorem drain_raw
    (isRaw : session.mappings.resolve session.editor.mapModes (key :: rest) flush = .raw) :
    drain press flush expansions (key :: rest) session result =
      (press session key).bind fun (after, result) =>
        if result = .failed then some (after, [], result)
        else drain press flush expansions rest after result := by
  cases expansions <;> rw [drain, drainUntilMapped, isRaw]

theorem rounds_raw
    (isRaw : session.mappings.resolve session.editor.mapModes (key :: rest) flush = .raw) :
    rounds press flush expansions (key :: rest) session result =
      [⟨session, key⟩] :: (press session key).elim [] fun (after, result) =>
        if result = .failed then [] else rounds press flush expansions rest after result := by
  cases expansions <;> rw [rounds, roundsUntilMapped, isRaw]

/-- A mapping is not expanded more often than is allowed. -/
theorem drain_spent (expands : session.mappings.resolve session.editor.mapModes (key :: rest) flush =
      mapping.expansion consumed) :
    drain press flush 0 (key :: rest) session result =
      some (session.fail .recursiveMapping, [], .failed) := by
  unfold drain drainUntilMapped
  rw [expands]
  rfl

theorem rounds_spent (expands : session.mappings.resolve session.editor.mapModes (key :: rest) flush =
      mapping.expansion consumed) :
    rounds press flush 0 (key :: rest) session result = [] := by
  unfold rounds roundsUntilMapped
  rw [expands]
  rfl

/-- What a mapping is expanded to is used as far as it is not mapped again, and waits otherwise. -/
theorem drain_expand (expands : session.mappings.resolve session.editor.mapModes (key :: rest) flush =
      mapping.expansion consumed) :
    drain press flush (expansions + 1) (key :: rest) session result =
      (pressAll press mapping.unmapped session result false).bind fun (after, result, failed) =>
        drain press flush expansions
          (if failed then [] else mapping.mapped ++ (key :: rest).drop consumed) after result := by
  obtain ⟨keepFirst, isExpansion, split⟩ := mapping.expansion_eq consumed
  rw [drain, drainUntilMapped, expands, isExpansion]
  simp only [split, mapping.take_unmapped]
  rfl

theorem rounds_expand (expands : session.mappings.resolve session.editor.mapModes (key :: rest) flush =
      mapping.expansion consumed) :
    rounds press flush (expansions + 1) (key :: rest) session result =
      strokes press mapping.unmapped session ::
        (pressAll press mapping.unmapped session result false).elim [] fun (after, result, failed) =>
          rounds press flush expansions
            (if failed then [] else mapping.mapped ++ (key :: rest).drop consumed) after result := by
  obtain ⟨keepFirst, isExpansion, split⟩ := mapping.expansion_eq consumed
  rw [rounds, roundsUntilMapped, expands, isExpansion]
  simp only [split, mapping.take_unmapped]
  rfl

end Equations

/-- Induction along keys that wait: a key that is used leaves those behind it, and a mapping that is
expanded leaves one expansion less. -/
theorem drain_induction (flush : Bool) {motive : Nat → List Key → Session → KeyResult → Prop}
    (empty : ∀ expansions session result, motive expansions [] session result)
    (wait : ∀ expansions key rest session result,
      session.mappings.resolve session.editor.mapModes (key :: rest) flush = .wait →
        motive expansions (key :: rest) session result)
    (raw : ∀ expansions key rest session result,
      session.mappings.resolve session.editor.mapModes (key :: rest) flush = .raw →
        (∀ after result, motive expansions rest after result) →
          motive expansions (key :: rest) session result)
    (spent : ∀ key rest session result (mapping : Mapping) consumed,
      session.mappings.resolve session.editor.mapModes (key :: rest) flush =
        mapping.expansion consumed → motive 0 (key :: rest) session result)
    (expand : ∀ expansions key rest session result,
      ∀ mapping ∈ session.mappings.within session.editor.mapModes, ∀ consumed,
        session.mappings.resolve session.editor.mapModes (key :: rest) flush =
          mapping.expansion consumed →
        (∀ keys after result, motive expansions keys after result) →
          motive (expansions + 1) (key :: rest) session result)
    (expansions : Nat) (keys : List Key) (session : Session) (result : KeyResult) :
    motive expansions keys session result := by
  induction expansions generalizing keys session result with
  | zero =>
    induction keys generalizing session result with
    | nil => exact empty 0 session result
    | cons key rest ih =>
      rcases session.mappings.resolve_cases key rest with waits | isRaw | expands
      · exact wait 0 key rest session result waits.1
      · exact raw 0 key rest session result isRaw ih
      · obtain ⟨mapping, _, others, _, expands⟩ := expands
        exact spent key rest session result mapping (others + 1) expands
  | succ expansions deeper =>
    induction keys generalizing session result with
    | nil => exact empty _ session result
    | cons key rest ih =>
      rcases session.mappings.resolve_cases key rest with waits | isRaw | expands
      · exact wait _ key rest session result waits.1
      · exact raw _ key rest session result isRaw ih
      · obtain ⟨mapping, member, others, _, expands⟩ := expands
        exact expand expansions key rest session result mapping member (others + 1) expands deeper

section Asking

open Asking (Asks)

theorem asks_pressAll (keys : List Key) (session : Session) (result : KeyResult) (failed : Bool) :
    Asks (fun answer => pressAll (.ofStrokes answer) keys session result failed)
      (fun answer => strokes (.ofStrokes answer) keys session) := by
  induction keys generalizing session result failed with
  | nil => exact .pure _
  | cons key rest ih =>
    refine (Asks.ask (Stroke.mk session key)).bind ?_
    rintro ⟨after, result⟩
    exact ih after result _

theorem asks_drain (flush : Bool) (expansions : Nat) (keys : List Key) (session : Session)
    (result : KeyResult) :
    Asks (fun answer => drain (.ofStrokes answer) flush expansions keys session result)
      (fun answer => (rounds (.ofStrokes answer) flush expansions keys session result).flatten) := by
  induction expansions, keys, session, result using drain_induction flush with
  | empty expansions session result =>
    simp only [drain_nil, rounds_nil]
    exact .pure _
  | wait expansions key rest session result waits =>
    simp only [drain_wait waits, rounds_wait waits]
    exact .pure _
  | raw expansions key rest session result isRaw ih =>
    simp only [drain_raw isRaw, rounds_raw isRaw, List.flatten_cons, ← Option.elim_comp List.flatten]
    refine (Asks.ask (Stroke.mk session key)).bind ?_
    rintro ⟨after, result⟩
    by_cases failed : result = .failed
    · simp only [if_pos failed]
      exact .pure _
    · simp only [if_neg failed]
      exact ih after result
  | spent key rest session result mapping consumed expands =>
    simp only [drain_spent expands, rounds_spent expands]
    exact .pure _
  | expand expansions key rest session result mapping member consumed expands ih =>
    simp only [drain_expand expands, rounds_expand expands, List.flatten_cons,
      ← Option.elim_comp List.flatten]
    refine (asks_pressAll mapping.unmapped session result false).bind ?_
    rintro ⟨after, result, failed⟩
    exact ih _ after result

theorem asks_typeKeys (remap : Bool) (keys waiting : List Key) (session : Session) :
    Asks (fun answer => typeKeys (.ofStrokes answer) remap keys waiting session)
      (fun answer => typedStrokes (.ofStrokes answer) remap keys waiting session) := by
  induction keys generalizing waiting session with
  | nil => exact .pure _
  | cons key rest ih =>
    unfold typeKeys typedStrokes
    cases remap with
    | true =>
      refine (asks_drain false maxExpansions (waiting ++ [key]) session .consumed).bind ?_
      rintro ⟨after, waiting, result⟩
      exact ih waiting after
    | false =>
      refine (Asks.ask (Stroke.mk session key)).bind ?_
      rintro ⟨after, result⟩
      exact ih waiting after

/-- Keys taken as if they were typed come to their strokes, and are done where each has an answer. -/
theorem asks_runKeys (session : Session) (keys : List Key) (remap : Bool) :
    Asks (fun answer => runKeys (.ofStrokes answer) session keys remap)
      (fun answer => runStrokes (.ofStrokes answer) session keys remap) := by
  refine (asks_typeKeys remap keys [] session).bind ?_
  rintro ⟨typed, waiting⟩
  have ends := (asks_drain true maxExpansions waiting typed .consumed).map fun drained =>
    (drained.1.update Editor.escape).collectReport
  simp only [Option.map_eq_bind] at ends
  exact ends

end Asking

end Session

end ModalEdit

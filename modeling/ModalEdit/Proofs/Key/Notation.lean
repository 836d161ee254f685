import Mathlib.Data.List.TakeWhile
import Mathlib.Tactic.IntervalCases
import ModalEdit.Key.Spelling

/-!
Written keys are read back. The written form of a key says by itself where it ends, so written keys stay
apart from each other and from any text behind them.
-/

set_option autoImplicit false

namespace ModalEdit.Key

/-- The codes that are written by a name, even without modifiers. -/
def HasName (code : KeyCode) : Prop :=
  match code with
  | .char c => c ∈ [' ', '<', '|']
  | .function number => 1 ≤ number ∧ number ≤ 35
  | _ => True

instance (code : KeyCode) : Decidable (HasName code) := by
  unfold HasName
  split <;> infer_instance

/-- The keys that a text can hold: plain characters, keys with a name, and with modifiers any character but
the closing bracket, letters with control being in lower case. -/
def IsWritable (key : Key) : Prop :=
  HasName key.code ∨ ∃ c, key.code = .char c ∧
    (key.modifiers = .none ∨ (c ≠ '>' ∧ (key.modifiers.ctrl = true → c.toLower = c)))

theorem isWritable_ofChar (c : Char) : (ofChar c).IsWritable :=
  .inr ⟨c, rfl, .inl rfl⟩

theorem toLower_toLower (c : Char) : c.toLower.toLower = c.toLower := by
  unfold Char.toLower
  grind

theorem toLower_ne_closing {c : Char} (other : c ≠ '>') : c.toLower ≠ '>' := by
  unfold Char.toLower
  split
  · rename_i upper
    intro same
    have code : (c.val + ('a'.val - 'A'.val)).toNat = '>'.val.toNat := congrArg (·.val.toNat) same
    simp only [ge_iff_le, UInt32.le_iff_toNat_le, Char.reduceVal, UInt32.reduceToNat] at upper
    simp only [Char.reduceVal, UInt32.reduceSub, UInt32.toNat_add, UInt32.reduceToNat] at code
    omega
  · exact other

/-! ### Inside the brackets -/

theorem splitModifiers?_modifierText (modifiers : Modifiers) {name : List Char} (some : name ≠ [])
    (plain : splitModifiers? name = .some (.none, name)) :
    splitModifiers? ((modifierText modifiers).toList ++ name) = .some (modifiers, name) := by
  obtain ⟨c, rest, rfl⟩ := List.exists_cons_of_ne_nil some
  obtain ⟨shift, alt, ctrl, metaKey⟩ := modifiers
  cases shift <;> cases alt <;> cases ctrl <;> cases metaKey <;>
    simp [modifierText, splitModifiers?, plain, modifierOf?, Modifiers.union, Modifiers.none]

/-- Modifiers are taken off the front. -/
theorem suffix_of_splitModifiers? {inner name : List Char} {modifiers : Modifiers}
    (split : splitModifiers? inner = some (modifiers, name)) : name <:+ inner := by
  fun_induction splitModifiers? inner generalizing modifiers name with
  | case1 c next rest ih =>
    simp only [Option.bind_eq_bind, Option.bind_eq_some_iff] at split
    obtain ⟨held, -, ⟨others, found⟩, taken, ended⟩ := split
    cases ended
    exact ((ih taken).trans (List.suffix_cons _ _)).trans (List.suffix_cons _ _)
  | case2 =>
    cases split
    exact List.suffix_rfl

/-- No key is called by a single character. -/
theorem namedCode?_singleton (c : Char) : namedCode? [c] = none := by
  have unlisted : names.lookup (String.ofList [c.toLower]) = none := by
    refine List.lookup_eq_none_iff.mpr fun entry member => bne_iff_ne.mpr fun same => ?_
    have long : ∀ entry ∈ names, entry.1.toList.length ≠ 1 := by decide
    exact long entry member (by rw [← same, String.toList_ofList]; rfl)
  unfold namedCode?
  simp only [List.map_cons, List.map_nil, unlisted]
  generalize c.toLower = letter
  split
  · rename_i digits split
    cases split
    rfl
  · rfl

theorem bounds_of_functionNumber? {digits : List Char} {number : Nat}
    (found : functionNumber? digits = some number) : 1 ≤ number ∧ number ≤ 35 := by
  unfold functionNumber? at found
  dsimp only at found
  split at found
  all_goals
    split at found
    · rename_i bounds
      cases found
      simp only [Bool.and_eq_true, decide_eq_true_eq] at bounds
      exact ⟨bounds.1.2, bounds.2⟩
    · cases found

/-- Whatever is read by its name can be written, with any modifiers. The backslash is written as it is. -/
theorem isWritable_of_namedCode? {name : List Char} {code : KeyCode}
    (found : namedCode? name = some code) (modifiers : Modifiers) :
    IsWritable ⟨code, modifiers⟩ := by
  unfold namedCode? at found
  dsimp only at found
  split at found
  · rename_i listed
    cases found
    obtain ⟨before, behind, split, -⟩ := List.lookup_eq_some_iff.mp listed
    have member : (String.ofList (name.map Char.toLower), code) ∈ names := by
      rw [split]
      exact List.mem_append_right before List.mem_cons_self
    have written : ∀ entry ∈ names, HasName entry.2 ∨ entry.2 = .char '\\' := by decide
    rcases written _ member with named | backslash
    · exact .inl named
    · exact .inr ⟨'\\', backslash, .inr ⟨by decide, fun _ => rfl⟩⟩
  · split at found
    · obtain ⟨number, read, same⟩ := Option.map_eq_some_iff.mp found
      cases same
      exact .inl (bounds_of_functionNumber? read)
    · cases found

theorem isWritable_of_ofBracketed? {inner : List Char} {key : Key}
    (found : ofBracketed? inner = some key) (unclosed : '>' ∉ inner) : key.IsWritable := by
  unfold ofBracketed? at found
  obtain ⟨⟨modifiers, name⟩, split, found⟩ := Option.bind_eq_some_iff.mp found
  dsimp only at found
  have unclosedName : '>' ∉ name :=
    fun member => unclosed ((suffix_of_splitModifiers? split).subset member)
  split at found
  · rename_i named
    cases found
    exact isWritable_of_namedCode? named modifiers
  split at found
  · rename_i c _
    have other : c ≠ '>' := fun same => unclosedName (same ▸ List.mem_cons_self)
    split at found
    · cases found
    split at found
    · cases found
      exact .inr ⟨_, rfl, .inr ⟨toLower_ne_closing other, fun _ => toLower_toLower c⟩⟩
    · rename_i noControl
      cases found
      exact .inr ⟨_, rfl, .inr ⟨other, fun control => absurd control noControl⟩⟩
  · cases found

/-! ### Written and read back -/

/-- The text that names a key between brackets. -/
def bracketText (key : Key) : List Char :=
  (modifierText key.modifiers).toList ++ (codeText key.code).1.toList

theorem notMem_modifierText (modifiers : Modifiers) : '>' ∉ (modifierText modifiers).toList := by
  obtain ⟨shift, alt, ctrl, metaKey⟩ := modifiers
  cases shift <;> cases alt <;> cases ctrl <;> cases metaKey <;> decide

/-- A name stands for itself behind modifiers: it is no modifier, it is read as its code, and it does not
close the bracket. -/
theorem codeText_of_hasName {code : KeyCode} (named : HasName code) :
    (codeText code).2 = true ∧ (codeText code).1.toList ≠ [] ∧
      splitModifiers? (codeText code).1.toList = some (.none, (codeText code).1.toList) ∧
      namedCode? (codeText code).1.toList = some code ∧ '>' ∉ (codeText code).1.toList := by
  cases code with
  | char c =>
    simp only [HasName, List.mem_cons, List.not_mem_nil, or_false] at named
    rcases named with rfl | rfl | rfl <;> decide
  | function number =>
    obtain ⟨least, most⟩ := named
    interval_cases number <;> decide
  | _ => decide

theorem codeText_of_not_hasName {c : Char} (unnamed : ¬ HasName (.char c)) :
    (codeText (.char c)).1.toList = [c] ∧ (codeText (.char c)).2 = false := by
  simp only [HasName, List.mem_cons, List.not_mem_nil, or_false, not_or] at unnamed
  obtain ⟨notSpace, notOpening, notBar⟩ := unnamed
  unfold codeText
  split
  any_goals
    rename_i same
    cases same
  · exact absurd rfl notSpace
  · exact absurd rfl notOpening
  · exact absurd rfl notBar
  · exact ⟨by simp, rfl⟩

theorem ofBracketed?_bracketText {key : Key} (writable : key.IsWritable)
    (bracketed : HasName key.code ∨ key.modifiers ≠ .none) :
    ofBracketed? key.bracketText = some key ∧ '>' ∉ key.bracketText := by
  obtain ⟨code, modifiers⟩ := key
  have unclosed := notMem_modifierText modifiers
  unfold bracketText ofBracketed?
  dsimp only at *
  by_cases named : HasName code
  · obtain ⟨-, some, plain, read, unclosedName⟩ := codeText_of_hasName named
    refine ⟨?_, fun member => (List.mem_append.mp member).elim unclosed unclosedName⟩
    simp [splitModifiers?_modifierText modifiers some plain, read]
  · rcases writable with absurd | ⟨c, is, written⟩
    · exact (named absurd).elim
    dsimp only at is written
    subst is
    have held := bracketed.resolve_left named
    obtain ⟨other, lower⟩ := written.resolve_left held
    rw [(codeText_of_not_hasName named).1]
    refine ⟨?_, fun member => ?_⟩
    · simp [splitModifiers?_modifierText modifiers (List.cons_ne_nil c []) rfl, namedCode?_singleton, held]
      exact lower
    · rcases List.mem_append.mp member with absurd | isClosing
      · exact unclosed absurd
      · exact other (List.mem_singleton.mp isClosing).symm

theorem readBracketed?_closed {inner : List Char} (unclosed : '>' ∉ inner) (rest : List Char) :
    readBracketed? (inner ++ '>' :: rest) = (ofBracketed? inner).map (·, rest) := by
  have inside : ∀ c ∈ inner, (c != '>') = true := by
    intro c member
    exact bne_iff_ne.mpr fun same => unclosed (same ▸ member)
  unfold readBracketed?
  rw [List.dropWhile_append_of_pos inside, List.takeWhile_append_of_pos inside]
  simp

/-- The written form of a key is read as the key, whatever stands behind it. -/
theorem readAll_spell {key : Key} (writable : key.IsWritable) (rest : List Char) :
    readAll (key.spell.toList ++ rest) = key :: readAll rest := by
  by_cases bracketed : HasName key.code ∨ key.modifiers ≠ .none
  · obtain ⟨read, unclosed⟩ := ofBracketed?_bracketText writable bracketed
    have text : key.spell.toList = '<' :: (key.bracketText ++ ['>']) := by
      have brackets : ((codeText key.code).2 || key.modifiers != .none) = true := by
        rcases bracketed with named | held
        · simp [(codeText_of_hasName named).1]
        · simp [held]
      simp [spell, brackets, bracketText]
    have one : readOne '<' (key.bracketText ++ '>' :: rest) = (key, rest) := by
      rw [readOne, if_pos rfl, readBracketed?_closed unclosed, read]
      rfl
    rw [text]
    simp only [List.cons_append, List.append_assoc, List.nil_append]
    rw [readAll, one]
  · rw [not_or, not_not] at bracketed
    obtain ⟨unnamed, bare⟩ := bracketed
    obtain ⟨c, is, -⟩ := writable.resolve_left unnamed
    obtain ⟨code, modifiers⟩ := key
    dsimp only at is bare unnamed
    subst is bare
    obtain ⟨name, plain⟩ := codeText_of_not_hasName unnamed
    have text : (spell ⟨.char c, .none⟩).toList = [c] := by
      simp [spell, plain, name]
    have notOpening : c ≠ '<' := by
      rintro rfl
      exact unnamed (by decide)
    rw [text, List.singleton_append, readAll, readOne, if_neg notOpening]
    rfl

/-- Written keys are read one by one, and nothing merges with what stands behind them. -/
theorem readAll_spellAll {keys : List Key} (writable : ∀ key ∈ keys, key.IsWritable)
    (rest : List Char) :
    readAll ((spellAll keys).toList ++ rest) = keys ++ readAll rest := by
  induction keys with
  | nil => rfl
  | cons key keys ih =>
    have split : (spellAll (key :: keys)).toList = key.spell.toList ++ (spellAll keys).toList := by
      simp [spellAll]
    rw [split, List.append_assoc, readAll_spell (writable key List.mem_cons_self),
      ih fun other member => writable other (List.mem_cons_of_mem key member)]
    rfl

theorem isWritable_readOne (c : Char) (text : List Char) : (readOne c text).1.IsWritable := by
  unfold readOne
  split
  · cases found : readBracketed? text with
    | none => exact isWritable_ofChar c
    | some read =>
      unfold readBracketed? at found
      split at found
      · obtain ⟨key, named, same⟩ := Option.map_eq_some_iff.mp found
        cases same
        refine isWritable_of_ofBracketed? named fun member => ?_
        exact absurd (List.mem_takeWhile_imp member) (by decide)
      · cases found
  · exact isWritable_ofChar c

/-- Every key that is read from a text can be written. -/
theorem isWritable_of_mem_readAll {text : List Char} {key : Key} (member : key ∈ readAll text) :
    key.IsWritable := by
  fun_induction readAll text with
  | case1 => cases member
  | case2 c text ih =>
    rcases List.mem_cons.mp member with rfl | later
    · exact isWritable_readOne c text
    · exact ih later

/-- The keys of a text are read back from their written form. That form stays the same keys in front of any
other text: none of it merges with what follows. -/
theorem ofString_spellAll (text : String) :
    ofString (spellAll (ofString text)) = ofString text ∧
      ∀ behind : String, ofString (spellAll (ofString text) ++ behind) =
        ofString text ++ ofString behind := by
  have reads (behind : List Char) :
      readAll ((spellAll (ofString text)).toList ++ behind) = ofString text ++ readAll behind :=
    readAll_spellAll (fun _ member => isWritable_of_mem_readAll member) behind
  refine ⟨?_, fun behind => ?_⟩
  · simpa [ofString, readAll] using reads []
  · simpa [ofString] using reads behind.toList

end ModalEdit.Key

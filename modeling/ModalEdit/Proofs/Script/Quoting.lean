import ModalEdit.Proofs.Key.Notation
import ModalEdit.Proofs.Script.Parting

/-!
Texts in quotes end at their closing quote, whatever comes behind it. A key in brackets inside of a text in
double quotes is the one construct that looks further: for the bracket that closes it.
-/

set_option autoImplicit false

namespace ModalEdit

namespace Script

variable {behind : List Char}

theorem readSingleQuoted?_append (parts : Parts behind) {text quoted rest : List Char}
    (read : readSingleQuoted? text = some (quoted, rest)) :
    readSingleQuoted? (text ++ behind) = some (quoted, rest ++ behind) := by
  fun_induction readSingleQuoted? text generalizing quoted rest with
  | case1 tail ih =>
    obtain ⟨⟨others, after⟩, tailRead, same⟩ := Option.map_eq_some_iff.mp read
    cases same
    simp [readSingleQuoted?, ih tailRead]
  | case2 tail notDoubled =>
    cases read
    match tail, notDoubled with
    | [], _ =>
      obtain ⟨c, more, rfl⟩ := List.exists_cons_of_ne_nil parts.ne_nil
      have other : c ≠ '\'' := parts.ne (by decide)
      simp [readSingleQuoted?, other]
    | c :: more, notDoubled =>
      have other : c ≠ '\'' := by
        rintro rfl
        exact notDoubled more rfl
      simp [readSingleQuoted?, other]
  | case3 c tail _ notQuote ih =>
    obtain ⟨⟨others, after⟩, tailRead, same⟩ := Option.map_eq_some_iff.mp read
    cases same
    have other : c ≠ '\'' := by
      rintro rfl
      exact notQuote rfl
    simp [readSingleQuoted?, other, ih tailRead]
  | case4 => cases read

theorem readCodePoint_append (parts : Parts behind) (count : Nat) (letter : Char)
    (text : List Char) :
    readCodePoint count letter (text ++ behind) =
      ((readCodePoint count letter text).1, (readCodePoint count letter text).2 ++ behind) := by
  have stops : ∀ c ∈ behind.head?, Number.isHexDigit c = false := parts.stops_isDigitIn 16
  have taken := takeWhile_take_append stops count text
  have short : ((text.take count).takeWhile Number.isHexDigit).length ≤ text.length :=
    (List.takeWhile_prefix _).length_le.trans (List.take_prefix _ _).length_le
  unfold readCodePoint
  dsimp only
  rw [taken, List.drop_append_of_le_length short]
  split <;> rfl

theorem notMem_modifierLetter {c : Char} {held : Modifiers} (isModifier : Key.modifierOf? c = some held) :
    c ≠ '"' := by
  rintro rfl
  cases isModifier

theorem quote_mem_of_splitModifiers? {inner name : List Char} {modifiers : Modifiers}
    (split : Key.splitModifiers? inner = some (modifiers, name)) (quoted : '"' ∈ inner) :
    '"' ∈ name := by
  fun_induction Key.splitModifiers? inner generalizing modifiers name with
  | case1 c next rest ih =>
    simp only [Option.bind_eq_bind, Option.bind_eq_some_iff] at split
    obtain ⟨held, isModifier, ⟨others, found⟩, taken, ended⟩ := split
    cases ended
    have other := (notMem_modifierLetter isModifier).symm
    refine ih taken ?_
    simpa [other] using quoted
  | case2 =>
    cases split
    exact quoted

theorem functionNumber?_of_quote {digits : List Char} (quoted : '"' ∈ digits) :
    Key.functionNumber? digits = none := by
  have noNumber {run : List Char} (inRun : '"' ∈ run) : run.all Char.isDigit = false :=
    List.all_eq_false.mpr ⟨'"', inRun, by decide⟩
  unfold Key.functionNumber?
  dsimp only
  split
  · rename_i rest
    rw [noNumber (by simpa using quoted)]
    simp
  · rw [noNumber quoted]
    simp

/-- No key has a quote in its name. -/
theorem namedCode?_of_quote {name : List Char} (quoted : '"' ∈ name) : Key.namedCode? name = none := by
  have lower : '"' ∈ name.map Char.toLower := List.mem_map.mpr ⟨'"', quoted, rfl⟩
  have unlisted : Key.names.lookup (String.ofList (name.map Char.toLower)) = none := by
    refine List.lookup_eq_none_iff.mpr fun entry member => bne_iff_ne.mpr fun same => ?_
    have plain : ∀ entry ∈ Key.names, '"' ∉ entry.1.toList := by decide
    refine plain entry member ?_
    rwa [← same, String.toList_ofList]
  unfold Key.namedCode?
  simp only [unlisted]
  split
  · rename_i digits isFunction
    rw [isFunction] at lower
    rw [functionNumber?_of_quote (by simpa using lower)]
    rfl
  · rfl

theorem keyText?_of_quote {inner : List Char} {key : Key} (quoted : '"' ∈ inner)
    (found : Key.ofBracketed? inner = some key) : keyText? key = none := by
  unfold Key.ofBracketed? at found
  obtain ⟨⟨modifiers, name⟩, split, found⟩ := Option.bind_eq_some_iff.mp found
  have inName := quote_mem_of_splitModifiers? split quoted
  dsimp only at found
  simp only [namedCode?_of_quote inName] at found
  split at found
  · rename_i c
    obtain rfl : '"' = c := by simpa using inName
    split at found
    · cases found
    · rename_i held
      have key : key = ⟨.char '"', modifiers⟩ := by
        split at found <;> exact (Option.some.inj found).symm
      subst key
      simp [keyText?, held]
  · cases found

/-- The character that a bracketed key stands for in a text, and what follows the bracket. -/
def readKeyText? (text : List Char) : Option (Char × List Char) :=
  (Key.readBracketed? text).bind fun (key, after) => (keyText? key).map (·, after)

/-- A bracket that a quote comes before is not closed within the text. -/
theorem readKeyText?_of_quote {inner : List Char} (unclosed : '>' ∉ inner) (quoted : '"' ∈ inner)
    (rest : List Char) : readKeyText? (inner ++ '>' :: rest) = none := by
  unfold readKeyText?
  rw [Key.readBracketed?_closed unclosed]
  cases found : Key.ofBracketed? inner with
  | none => rfl
  | some key => simp [keyText?_of_quote quoted found]

theorem readKeyText?_append {text : List Char} (closed : '"' ∈ text) :
    readKeyText? (text ++ behind) =
      (readKeyText? text).map fun (c, after) => (c, after ++ behind) := by
  by_cases inText : '>' ∈ text
  · obtain ⟨inner, rest, rfl, unclosed⟩ := List.eq_append_cons_of_mem inText
    unfold readKeyText?
    rw [List.append_assoc, List.cons_append, Key.readBracketed?_closed unclosed,
      Key.readBracketed?_closed unclosed]
    cases Key.ofBracketed? inner with
    | none => rfl
    | some key =>
      show (keyText? key).map (·, rest ++ behind) = ((keyText? key).map (·, rest)).map _
      rw [Option.map_map]
      rfl
  · have noKey {whole : List Char} (unclosed : '>' ∉ whole) : readKeyText? whole = none := by
      have all : ∀ c ∈ whole, (c != '>') = true := fun c member =>
        bne_iff_ne.mpr fun same => unclosed (same ▸ member)
      unfold readKeyText? Key.readBracketed?
      rw [List.dropWhile_eq_nil_iff.mpr all]
      rfl
    rw [noKey inText]
    by_cases isBehind : '>' ∈ behind
    · obtain ⟨before, rest, rfl, unclosed⟩ := List.eq_append_cons_of_mem isBehind
      rw [← List.append_assoc]
      refine readKeyText?_of_quote ?_ (List.mem_append_left before closed) rest
      exact fun member => (List.mem_append.mp member).elim inText unclosed
    · exact noKey fun member => (List.mem_append.mp member).elim inText isBehind

theorem readEscape_key (text : List Char) :
    readEscape ('<' :: text) =
      match readKeyText? text with
      | some (c, after) => ([c], after)
      | none => (['<'], text) := by
  unfold readKeyText?
  rw [readEscape]
  cases Key.readBracketed? text with
  | none => rfl
  | some found =>
    obtain ⟨key, after⟩ := found
    dsimp only [Option.bind_some]
    cases keyText? key <;> rfl

/-- What follows the backslash of an escape that is no key: one character, or up to as many digits. -/
theorem readEscape_cases {c : Char} (key : c ≠ '<') :
    (∃ spelled, ∀ rest, readEscape (c :: rest) = (spelled, rest)) ∨
      (∃ count letter, ∀ rest, readEscape (c :: rest) = readCodePoint count letter rest) ∨
        ∀ rest, readEscape (c :: rest) =
          let digits := (rest.take 2).takeWhile (Number.isDigitIn 8)
          ((Text.charOfCode? (Number.valueOfDigits 8 (c :: digits))).toList,
            rest.drop digits.length) := by
  by_cases letter : c ∈ ['n', 't', 'r', 'e', 'b', 'f']
  · simp only [List.mem_cons, List.not_mem_nil, or_false] at letter
    rcases letter with rfl | rfl | rfl | rfl | rfl | rfl <;> exact .inl ⟨_, fun _ => rfl⟩
  · by_cases codePoint : c ∈ ['x', 'X', 'u', 'U']
    · simp only [List.mem_cons, List.not_mem_nil, or_false] at codePoint
      rcases codePoint with rfl | rfl | rfl | rfl <;> exact .inr (.inl ⟨_, _, fun _ => rfl⟩)
    · simp only [List.mem_cons, List.not_mem_nil, or_false, not_or] at letter codePoint
      by_cases octal : Number.isDigitIn 8 c = true
      · exact .inr (.inr fun rest => by simp [readEscape, letter, codePoint, octal])
      · exact .inl ⟨[c], fun rest => by simp [readEscape, letter, codePoint, octal]⟩

theorem readEscape_append (parts : Parts behind) {text : List Char} (closed : '"' ∈ text) :
    readEscape (text ++ behind) = ((readEscape text).1, (readEscape text).2 ++ behind) := by
  cases text with
  | nil => cases closed
  | cons c rest =>
    rw [List.cons_append]
    by_cases key : c = '<'
    · subst key
      have closed : '"' ∈ rest := by simpa using closed
      rw [readEscape_key, readEscape_key, readKeyText?_append closed]
      cases readKeyText? rest <;> rfl
    · rcases readEscape_cases key with ⟨spelled, reads⟩ | ⟨count, name, reads⟩ | reads
      · rw [reads, reads]
      · rw [reads, reads, readCodePoint_append parts]
      · have octal := takeWhile_take_append (parts.stops_isDigitIn 8) 2 rest
        have short : ((rest.take 2).takeWhile (Number.isDigitIn 8)).length ≤ rest.length :=
          (List.takeWhile_prefix _).length_le.trans (List.take_prefix _ _).length_le
        simp only [reads, octal, List.drop_append_of_le_length short]

theorem suffix_readKeyText? {text after : List Char} {c : Char}
    (read : readKeyText? text = some (c, after)) : after <:+ text := by
  obtain ⟨⟨key, rest⟩, found, isKey⟩ := Option.bind_eq_some_iff.mp read
  obtain ⟨_, _, same⟩ := Option.map_eq_some_iff.mp isKey
  cases same
  unfold Key.readBracketed? at found
  split at found
  · rename_i bracket rest closed
    obtain ⟨_, _, same⟩ := Option.map_eq_some_iff.mp found
    cases same
    exact (List.suffix_cons bracket _).trans (closed ▸ List.dropWhile_suffix _)
  · cases found

theorem suffix_readEscape (text : List Char) : (readEscape text).2 <:+ text := by
  cases text with
  | nil => exact List.suffix_rfl
  | cons c rest =>
    refine List.IsSuffix.trans ?_ (List.suffix_cons c rest)
    by_cases key : c = '<'
    · subst key
      rw [readEscape_key]
      cases read : readKeyText? rest with
      | none => exact List.suffix_rfl
      | some found => exact suffix_readKeyText? read
    · rcases readEscape_cases key with ⟨spelled, reads⟩ | ⟨count, name, reads⟩ | reads
      · simp only [reads, List.suffix_rfl]
      · rw [reads]
        unfold readCodePoint
        dsimp only
        split
        · exact List.suffix_rfl
        · exact List.drop_suffix _ rest
      · rw [reads]
        exact List.drop_suffix _ rest

theorem quote_mem_of_readDoubleQuoted? {text quoted rest : List Char}
    (read : readDoubleQuoted? text = some (quoted, rest)) : '"' ∈ text := by
  fun_induction readDoubleQuoted? text generalizing quoted rest with
  | case1 tail => exact List.mem_cons_self
  | case2 tail ih =>
    obtain ⟨⟨others, after⟩, tailRead, -⟩ := Option.map_eq_some_iff.mp read
    exact List.mem_cons_of_mem _ ((suffix_readEscape tail).subset (ih tailRead))
  | case3 c tail _ _ ih =>
    obtain ⟨⟨others, after⟩, tailRead, -⟩ := Option.map_eq_some_iff.mp read
    exact List.mem_cons_of_mem _ (ih tailRead)
  | case4 => cases read

theorem readDoubleQuoted?_append (parts : Parts behind) {text quoted rest : List Char}
    (read : readDoubleQuoted? text = some (quoted, rest)) :
    readDoubleQuoted? (text ++ behind) = some (quoted, rest ++ behind) := by
  fun_induction readDoubleQuoted? text generalizing quoted rest with
  | case1 tail =>
    cases read
    rw [List.cons_append, readDoubleQuoted?]
  | case2 tail ih =>
    obtain ⟨⟨others, after⟩, tailRead, same⟩ := Option.map_eq_some_iff.mp read
    cases same
    have closed : '"' ∈ tail :=
      (suffix_readEscape tail).subset (quote_mem_of_readDoubleQuoted? tailRead)
    rw [List.cons_append, readDoubleQuoted?, readEscape_append parts closed]
    dsimp only
    rw [ih tailRead]
    rfl
  | case3 c tail notQuote notBackslash ih =>
    obtain ⟨⟨others, after⟩, tailRead, same⟩ := Option.map_eq_some_iff.mp read
    cases same
    rw [List.cons_append, readDoubleQuoted?, ih tailRead]
    · rfl
    · exact notQuote
    · exact notBackslash
  | case4 => cases read

end Script

end ModalEdit

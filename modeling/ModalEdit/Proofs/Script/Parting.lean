import Mathlib.Data.List.TakeWhile
import ModalEdit.Script.Token.Sequence

/-!
Reading a name or a number does not look past it: a dot, a blank or a closing brace behind a text changes
neither, unless the number goes on there.
-/

set_option autoImplicit false

namespace ModalEdit

namespace Number

theorem isAlpha_of_announcedBase? {letter : Char} {base : Nat}
    (announced : announcedBase? letter = some base) : letter.isAlpha = true := by
  by_contra other
  have same : letter.toLower = letter := by
    refine dif_neg fun upper => other ?_
    have isUpper : letter.isUpper = true := decide_eq_true upper
    exact Bool.or_eq_true_iff.mpr (.inl isUpper)
  unfold announcedBase? at announced
  rw [same] at announced
  split at announced
  · exact other rfl
  · exact other rfl
  · exact other rfl
  · cases announced

end Number

namespace Script

/-- The text begins with a dot, a blank or a closing brace. -/
def Parts (behind : List Char) : Prop :=
  ∃ c more, behind = c :: more ∧ c ∈ ['.', ' ', '\t', '}']

theorem parts_cons {c : Char} (listed : c ∈ ['.', ' ', '\t', '}']) (more : List Char) : Parts (c :: more) :=
  ⟨c, more, rfl, listed⟩

section Runs

variable {behind : List Char} {p : Char → Bool}

theorem Parts.stops (parts : Parts behind) (none : ['.', ' ', '\t', '}'].any p = false) :
    ∀ c ∈ behind.head?, p c = false := by
  obtain ⟨c, more, rfl, listed⟩ := parts
  rintro _ ⟨⟩
  exact Bool.eq_false_iff.mpr (List.any_eq_false.mp none c listed)

theorem Parts.ne {c other : Char} {more : List Char} (parts : Parts (c :: more))
    (unlisted : other ∉ ['.', ' ', '\t', '}']) : c ≠ other := by
  obtain ⟨_, _, same, listed⟩ := parts
  cases same
  exact ne_of_mem_of_not_mem listed unlisted

theorem Parts.ne_nil (parts : Parts behind) : behind ≠ [] := by
  obtain ⟨_, _, rfl, -⟩ := parts
  exact List.cons_ne_nil _ _

theorem takeWhile_of_stops (stops : ∀ c ∈ behind.head?, p c = false) : behind.takeWhile p = [] := by
  cases behind with
  | nil => rfl
  | cons c rest => exact List.takeWhile_cons_of_neg (Bool.eq_false_iff.mp (stops c rfl))

theorem dropWhile_of_stops (stops : ∀ c ∈ behind.head?, p c = false) : behind.dropWhile p = behind := by
  cases behind with
  | nil => rfl
  | cons c rest => exact List.dropWhile_cons_of_neg (Bool.eq_false_iff.mp (stops c rfl))

theorem takeWhile_append (stops : ∀ c ∈ behind.head?, p c = false) (text : List Char) :
    (text ++ behind).takeWhile p = text.takeWhile p := by
  rw [List.takeWhile_append, takeWhile_of_stops stops, List.append_nil]
  split
  · rename_i all
    exact ((List.takeWhile_prefix p).eq_of_length all).symm
  · rfl

theorem dropWhile_append (stops : ∀ c ∈ behind.head?, p c = false) (text : List Char) :
    (text ++ behind).dropWhile p = text.dropWhile p ++ behind := by
  rw [List.dropWhile_append, dropWhile_of_stops stops]
  split
  · rename_i empty
    rw [List.isEmpty_iff.mp empty, List.nil_append]
  · rfl

theorem takeWhile_take_append (stops : ∀ c ∈ behind.head?, p c = false) (count : Nat)
    (text : List Char) : ((text ++ behind).take count).takeWhile p = (text.take count).takeWhile p := by
  rw [List.take_append]
  refine takeWhile_append ?_ _
  intro c head
  cases behind with
  | nil => simp at head
  | cons first more =>
    cases left : count - text.length with
    | zero => simp [left] at head
    | succ n =>
      rw [left] at head
      exact stops c head

end Runs

section Readers

variable {behind : List Char}

/-! ### Names -/

theorem readCaseMode_append (parts : Parts behind) (text : List Char) :
    readCaseMode (text ++ behind) = ((readCaseMode text).1, (readCaseMode text).2 ++ behind) := by
  cases text with
  | nil =>
    obtain ⟨c, more, rfl⟩ := List.exists_cons_of_ne_nil parts.ne_nil
    have hash : c ≠ '#' := parts.ne (by decide)
    have question : c ≠ '?' := parts.ne (by decide)
    simp [readCaseMode, hash, question]
  | cons c rest =>
    by_cases hash : c = '#'
    · subst hash
      rfl
    · by_cases question : c = '?'
      · subst question
        rfl
      · simp [readCaseMode, hash, question]

theorem comparisonToken_append (parts : Parts behind) (operator : Comparison) (rest : List Char) :
    comparisonToken operator (rest ++ behind) =
      ((comparisonToken operator rest).1, (comparisonToken operator rest).2 ++ behind) := by
  unfold comparisonToken
  rw [readCaseMode_append parts]

/-- A name without a scope, or a comparison spelled as a word. -/
def plainName (first rest : List Char) : TokenKind × List Char :=
  if first = ['i', 's'] then comparisonToken .is rest
  else if first = ['i', 's', 'n', 'o', 't'] then comparisonToken .isNot rest
  else (.ident (String.ofList first), rest)

theorem plainName_append (parts : Parts behind) (first rest : List Char) :
    plainName first (rest ++ behind) = ((plainName first rest).1, (plainName first rest).2 ++ behind) := by
  unfold plainName
  split
  · exact comparisonToken_append parts .is rest
  · split
    · exact comparisonToken_append parts .isNot rest
    · rfl

/-- A name, given the run of letters that it begins with and what follows them. -/
def nameOf (first rest : List Char) : TokenKind × List Char :=
  match first, rest with
  | [letter], ':' :: next :: tail =>
    if isScopeLetter letter && isNameChar next then
      (.ident (String.ofList (letter :: ':' ::
        (next :: tail).takeWhile fun c => isNameChar c || c == '#')),
        (next :: tail).dropWhile fun c => isNameChar c || c == '#')
    else plainName first rest
  | _, _ => plainName first rest

theorem readName_eq (text : List Char) :
    readName text = nameOf (text.takeWhile isNameChar) (text.dropWhile isNameChar) :=
  rfl

theorem nameOf_eq_plainName {first rest : List Char}
    (unscoped : ∀ letter next tail, first = [letter] → rest = ':' :: next :: tail →
      (isScopeLetter letter && isNameChar next) = false) :
    nameOf first rest = plainName first rest := by
  unfold nameOf
  split
  · rename_i letter next tail
    rw [unscoped letter next tail rfl rfl]
    rfl
  · rfl

theorem nameOf_append (parts : Parts behind) (first rest : List Char) :
    nameOf first (rest ++ behind) = ((nameOf first rest).1, (nameOf first rest).2 ++ behind) := by
  have stops := parts.stops (p := isNameChar) rfl
  have scopedStops := parts.stops (p := fun c => isNameChar c || c == '#') rfl
  by_cases hasScope : ∃ letter next tail, first = [letter] ∧ rest = ':' :: next :: tail ∧
      (isScopeLetter letter && isNameChar next) = true
  · obtain ⟨letter, next, tail, rfl, rfl, accepted⟩ := hasScope
    have taken := takeWhile_append scopedStops (next :: tail)
    have dropped := dropWhile_append scopedStops (next :: tail)
    rw [List.cons_append] at taken dropped
    simp only [nameOf, List.cons_append, accepted, if_true, taken, dropped]
  · have plain : nameOf first rest = plainName first rest := by
      refine nameOf_eq_plainName fun letter next tail isFirst isRest => ?_
      exact Bool.eq_false_iff.mpr fun accepted =>
        hasScope ⟨letter, next, tail, isFirst, isRest, accepted⟩
    have plainBehind : nameOf first (rest ++ behind) = plainName first (rest ++ behind) := by
      refine nameOf_eq_plainName fun letter next tail isFirst isRest => ?_
      rw [Bool.and_eq_false_iff]
      match rest, isRest with
      | [], isRest =>
        cases isRest
        exact absurd rfl (parts.ne (by decide : ':' ∉ _))
      | [_], isRest =>
        injection isRest with _ isBehind
        exact .inr (stops next (congrArg List.head? isBehind))
      | _ :: _ :: _, isRest =>
        cases isRest
        rw [← Bool.and_eq_false_iff]
        exact Bool.eq_false_iff.mpr fun accepted => hasScope ⟨letter, _, _, isFirst, rfl, accepted⟩
    rw [plain, plainBehind, plainName_append parts]

theorem readName_append (parts : Parts behind) (text : List Char) :
    readName (text ++ behind) = ((readName text).1, (readName text).2 ++ behind) := by
  have stops := parts.stops (p := isNameChar) rfl
  rw [readName_eq, takeWhile_append stops, dropWhile_append stops, nameOf_append parts, ← readName_eq]

/-! ### Numbers -/

theorem exponentSign?_append (parts : Parts behind) (text : List Char) :
    exponentSign? (text ++ behind) =
      (exponentSign? text).map fun (negative, body) => (negative, body ++ behind) := by
  obtain ⟨c, more, rfl⟩ := List.exists_cons_of_ne_nil parts.ne_nil
  have notLower : c ≠ 'e' := parts.ne (by decide)
  have notUpper : c ≠ 'E' := parts.ne (by decide)
  have notMinus : c ≠ '-' := parts.ne (by decide)
  have notPlus : c ≠ '+' := parts.ne (by decide)
  match text with
  | [] => simp [exponentSign?, notLower, notUpper]
  | [letter] =>
    by_cases exponent : letter = 'e' ∨ letter = 'E'
    · rcases exponent with rfl | rfl <;> simp [exponentSign?, notMinus, notPlus]
    · simp [exponentSign?, not_or.mp exponent]
  | letter :: sign :: rest =>
    by_cases exponent : letter = 'e' ∨ letter = 'E'
    · by_cases minus : sign = '-'
      · rcases exponent with rfl | rfl <;> simp [exponentSign?, minus]
      · by_cases plus : sign = '+'
        · rcases exponent with rfl | rfl <;> simp [exponentSign?, plus]
        · rcases exponent with rfl | rfl <;> simp [exponentSign?, minus, plus]
    · simp [exponentSign?, not_or.mp exponent]

theorem readExponent_append (parts : Parts behind) (text : List Char) :
    readExponent (text ++ behind) = ((readExponent text).1, (readExponent text).2 ++ behind) := by
  have stops := parts.stops (p := Char.isDigit) rfl
  unfold readExponent
  rw [exponentSign?_append parts]
  cases exponentSign? text with
  | none => rfl
  | some read =>
    obtain ⟨negative, body⟩ := read
    simp only [Option.map_some, takeWhile_append stops, dropWhile_append stops]
    split <;> rfl

/-- A number in base ten, given its digits and what follows them. -/
def decimalOf (whole rest : List Char) : TokenKind × List Char :=
  let integer :=
    (.number (Number.leadingInteger (if Number.isOctalRun whole then 8 else 10) whole), rest)
  match rest with
  | '.' :: next :: tail =>
    if next.isDigit then
      let fraction := (next :: tail).takeWhile Char.isDigit
      let (exponent, after) := readExponent ((next :: tail).dropWhile Char.isDigit)
      let digits := whole ++ fraction
      (.float (.ofDecimal (Number.valueOfDigits 10 digits) digits.length
        (exponent - fraction.length)), after)
    else integer
  | _ => integer

theorem readDecimal_eq (text : List Char) :
    readDecimal text = decimalOf (text.takeWhile Char.isDigit) (text.dropWhile Char.isDigit) :=
  rfl

theorem decimalOf_of_whole {whole rest : List Char}
    (noFraction : ∀ next tail, rest = '.' :: next :: tail → next.isDigit = false) :
    decimalOf whole rest =
      (.number (Number.leadingInteger (if Number.isOctalRun whole then 8 else 10) whole), rest) := by
  unfold decimalOf
  dsimp only
  split
  · rename_i next tail
    rw [noFraction next tail rfl]
    rfl
  · rfl

/-- Digits behind a dot. -/
def StartsFraction (behind : List Char) : Prop :=
  ∃ digit more, behind = '.' :: digit :: more ∧ digit.isDigit = true

theorem decimalOf_append (parts : Parts behind) (whole : List Char) {rest : List Char}
    (ends : rest = [] → ¬ StartsFraction behind) :
    decimalOf whole (rest ++ behind) =
      ((decimalOf whole rest).1, (decimalOf whole rest).2 ++ behind) := by
  have stops := parts.stops (p := Char.isDigit) rfl
  by_cases hasFraction : StartsFraction rest
  · obtain ⟨next, tail, rfl, isDigit⟩ := hasFraction
    have taken := takeWhile_append stops (next :: tail)
    have dropped := dropWhile_append stops (next :: tail)
    rw [List.cons_append] at taken dropped
    simp only [decimalOf, List.cons_append, isDigit, if_true, taken, dropped,
      readExponent_append parts]
  · have whole' : decimalOf whole rest = _ := decimalOf_of_whole fun next tail isRest =>
      Bool.eq_false_iff.mpr fun isDigit => hasFraction ⟨next, tail, isRest, isDigit⟩
    have behindWhole : ∀ next tail, rest ++ behind = '.' :: next :: tail → next.isDigit = false := by
      intro next tail isRest
      match rest, isRest with
      | [], isRest =>
        exact Bool.eq_false_iff.mpr fun isDigit => ends rfl ⟨next, tail, isRest, isDigit⟩
      | [_], isRest =>
        injection isRest with _ isBehind
        exact stops next (congrArg List.head? isBehind)
      | _ :: _ :: _, isRest =>
        cases isRest
        exact Bool.eq_false_iff.mpr fun isDigit => hasFraction ⟨_, _, rfl, isDigit⟩
    rw [whole', decimalOf_of_whole behindWhole]

theorem readDecimal_append (parts : Parts behind) {text : List Char}
    (ends : text.all Char.isDigit = true → ¬ StartsFraction behind) :
    readDecimal (text ++ behind) = ((readDecimal text).1, (readDecimal text).2 ++ behind) := by
  have stops := parts.stops (p := Char.isDigit) rfl
  have whole : text.dropWhile Char.isDigit = [] → ¬ StartsFraction behind := fun nothing =>
    ends (List.all_eq_true.mpr (List.dropWhile_eq_nil_iff.mp nothing))
  rw [readDecimal_eq, takeWhile_append stops, dropWhile_append stops, decimalOf_append parts _ whole,
    ← readDecimal_eq]

theorem readBlob_append (parts : Parts behind) (started : Bool) {text rest : List Char}
    {bytes : List UInt8} (read : readBlob started text = .ok (bytes, rest))
    (ends : rest = [] → behind.head? ≠ some '.') :
    readBlob started (text ++ behind) = .ok (bytes, rest ++ behind) := by
  have stops := parts.stops (p := Number.isHexDigit) rfl
  fun_induction readBlob started text generalizing bytes rest with
  | case1 started high low tail isHigh isLow ih =>
    cases tailRead : readBlob true tail with
    | error error =>
      rw [tailRead] at read
      cases read
    | ok found =>
      obtain ⟨others, after⟩ := found
      rw [tailRead] at read
      cases read
      have more := ih tailRead ends
      simp only [List.cons_append, readBlob, isHigh, isLow, if_true, more]
      rfl
  | case2 => cases read
  | case3 started high low tail notHigh joins ih =>
    have more := ih read ends
    simp only [List.cons_append] at more ⊢
    rw [readBlob, if_neg notHigh, if_pos joins, more]
  | case4 started high low tail notHigh apart =>
    cases read
    simp only [List.cons_append]
    rw [readBlob, if_neg notHigh, if_neg apart]
  | case5 => cases read
  | case6 started last notHex =>
    cases read
    obtain ⟨c, more, rfl⟩ := List.exists_cons_of_ne_nil parts.ne_nil
    have other : Number.isHexDigit c = false := stops c rfl
    simp [readBlob, notHex, other]
  | case7 started =>
    cases read
    obtain ⟨c, more, rfl⟩ := List.exists_cons_of_ne_nil parts.ne_nil
    have other : Number.isHexDigit c = false := stops c rfl
    have point : c ≠ '.' := fun isPoint => ends rfl (congrArg Option.some isPoint)
    cases more <;> simp [readBlob, other, point]

theorem readDecimal_rest_of_all {text : List Char} (all : text.all Char.isDigit = true) :
    (readDecimal text).2 = [] := by
  have nothing : text.dropWhile Char.isDigit = [] :=
    List.dropWhile_eq_nil_iff.mpr (List.all_eq_true.mp all)
  rw [readDecimal_eq, nothing]
  rfl

section Announced

variable {letter : Char} {more : List Char} {base : Nat}

theorem readNumber_blob (isBlob : letter = 'z' ∨ letter = 'Z') :
    readNumber ('0' :: letter :: more) =
      (readBlob false more).map fun (bytes, after) => (.blob bytes, after) := by
  rcases isBlob with rfl | rfl <;> rfl

theorem readNumber_based (noBlob : ¬ (letter = 'z' ∨ letter = 'Z'))
    (announced : Number.announcedBase? letter = some base)
    (first : more.head?.any (Number.isDigitIn base) = true) :
    readNumber ('0' :: letter :: more) = .ok (readBasedNumber base more) := by
  cases more with
  | nil => cases first
  | cons digit tail =>
    have isDigit : Number.isDigitIn base digit = true := first
    simp [readNumber, noBlob, announced, isDigit]

end Announced

/-- No letter behind a zero announces a blob, or a base that has the digit behind the letter. -/
def Unannounced (text : List Char) : Prop :=
  ∀ letter more, text = '0' :: letter :: more → ¬ (letter = 'z' ∨ letter = 'Z') ∧
    ∀ base, Number.announcedBase? letter = some base → more.head?.any (Number.isDigitIn base) = false

theorem Unannounced.readNumber_eq {text : List Char} (unannounced : Unannounced text) :
    readNumber text = .ok (readDecimal text) := by
  unfold readNumber
  split
  · rename_i letter more
    obtain ⟨noBlob, noBase⟩ := unannounced letter more rfl
    cases announced : Number.announcedBase? letter with
    | none => simp [noBlob]
    | some base =>
      have first := noBase base announced
      cases more with
      | nil => simp [noBlob]
      | cons digit tail =>
        have isDigit : Number.isDigitIn base digit = false := first
        simp [noBlob, isDigit]
  · rfl

theorem unannounced_of_not_isAlpha {text : List Char}
    (plain : ∀ letter more, text = '0' :: letter :: more → letter.isAlpha = false) : Unannounced text := by
  intro letter more isText
  have other := Bool.eq_false_iff.mp (plain letter more isText)
  constructor
  · rintro (rfl | rfl) <;> exact other rfl
  · exact fun base announced => absurd (Number.isAlpha_of_announcedBase? announced) other

/-- The ways to read a number: as a blob, in an announced base, or in base ten. -/
theorem readNumber_cases (text : List Char) :
    (∃ letter more, text = '0' :: letter :: more ∧ (letter = 'z' ∨ letter = 'Z')) ∨
      (∃ letter more base, text = '0' :: letter :: more ∧ ¬ (letter = 'z' ∨ letter = 'Z') ∧
        Number.announcedBase? letter = some base ∧ more.head?.any (Number.isDigitIn base) = true) ∨
      Unannounced text := by
  by_cases blob : ∃ letter more, text = '0' :: letter :: more ∧ (letter = 'z' ∨ letter = 'Z')
  · exact .inl blob
  have notBlob {letter : Char} {more : List Char} (isText : text = '0' :: letter :: more) :
      ¬ (letter = 'z' ∨ letter = 'Z') := fun isBlob => blob ⟨letter, more, isText, isBlob⟩
  by_cases based : ∃ letter more base, text = '0' :: letter :: more ∧
      Number.announcedBase? letter = some base ∧ more.head?.any (Number.isDigitIn base) = true
  · obtain ⟨letter, more, base, isText, announces⟩ := based
    exact .inr (.inl ⟨letter, more, base, isText, notBlob isText, announces⟩)
  · refine .inr (.inr fun letter more isText => ⟨notBlob isText, fun base announced => ?_⟩)
    exact Bool.eq_false_iff.mpr fun first => based ⟨letter, more, base, isText, announced, first⟩

theorem Parts.stops_isDigitIn (parts : Parts behind) (base : Nat) :
    ∀ c ∈ behind.head?, Number.isDigitIn base c = false := by
  refine parts.stops ?_
  simp [Number.isDigitIn, Number.digitValue?]

theorem any_head?_append (parts : Parts behind) (text : List Char) (base : Nat) :
    (text ++ behind).head?.any (Number.isDigitIn base) = text.head?.any (Number.isDigitIn base) := by
  cases text with
  | nil =>
    obtain ⟨c, more, rfl⟩ := List.exists_cons_of_ne_nil parts.ne_nil
    exact parts.stops_isDigitIn base c rfl
  | cons _ _ => rfl

theorem Unannounced.append {text : List Char} (unannounced : Unannounced text) (parts : Parts behind) :
    Unannounced (text ++ behind) := by
  match text, unannounced with
  | [], _ =>
    intro letter more isText
    cases isText
    exact absurd rfl (parts.ne (by decide : '0' ∉ _))
  | [_], _ =>
    have stops := parts.stops (p := Char.isAlpha) rfl
    refine unannounced_of_not_isAlpha fun letter more isText => ?_
    exact stops letter (congrArg List.head? (List.cons.inj isText).2)
  | zero :: first :: rest, unannounced =>
    intro letter more isText
    cases isText
    obtain ⟨noBlob, noBase⟩ := unannounced first rest rfl
    exact ⟨noBlob, fun base announced => (any_head?_append parts rest base).trans (noBase base announced)⟩

theorem readNumber_append (parts : Parts behind) {text rest : List Char} {kind : TokenKind}
    (read : readNumber text = .ok (kind, rest))
    (noFraction : rest = [] → text.all Char.isDigit = true → ¬ StartsFraction behind)
    (noBlob : rest = [] → (∃ bytes, kind = .blob bytes) → behind.head? ≠ some '.') :
    readNumber (text ++ behind) = .ok (kind, rest ++ behind) := by
  rcases readNumber_cases text with ⟨letter, more, rfl, isBlob⟩ |
    ⟨letter, more, base, rfl, notBlob, announced, first⟩ | unannounced
  · rw [List.cons_append, List.cons_append]
    rw [readNumber_blob isBlob] at read ⊢
    cases blob : readBlob false more with
    | error error =>
      rw [blob] at read
      cases read
    | ok found =>
      obtain ⟨bytes, after⟩ := found
      rw [blob] at read
      cases read
      rw [readBlob_append parts false blob fun nothing => noBlob nothing ⟨bytes, rfl⟩]
      rfl
  · have stops := parts.stops_isDigitIn base
    rw [readNumber_based notBlob announced first] at read
    cases read
    rw [List.cons_append, List.cons_append,
      readNumber_based notBlob announced ((any_head?_append parts more base).trans first), readBasedNumber,
      dropWhile_append stops]
    unfold Number.leadingInteger
    rw [takeWhile_append stops]
  · have same := Except.ok.inj (unannounced.readNumber_eq.symm.trans read)
    have ends : text.all Char.isDigit = true → ¬ StartsFraction behind := fun all =>
      noFraction ((congrArg Prod.snd same).symm.trans (readDecimal_rest_of_all all)) all
    rw [(unannounced.append parts).readNumber_eq, readDecimal_append parts ends, same]

end Readers

end Script

end ModalEdit

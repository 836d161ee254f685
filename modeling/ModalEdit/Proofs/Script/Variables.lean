import ModalEdit.Proofs.Command.Lines
import ModalEdit.Proofs.Script.Complete
import ModalEdit.Proofs.Script.Lexing

/-!
Assigned variables: what an assignment has written is found under the same name, and which of the names
that can be assigned are expressions that read it.
-/

set_option autoImplicit false

namespace ModalEdit.Script

/-! ### The store -/

namespace Variables

theorem get?_insertSorted (key : String) (value : Value) (entries : Dict Value) :
    Dict.get? (insertSorted key value entries) key = some value := by
  induction entries with
  | nil => simp [insertSorted, Dict.get?]
  | cons entry rest ih =>
    obtain ⟨other, old⟩ := entry
    unfold Dict.get? at ih ⊢
    unfold insertSorted
    split
    · exact List.lookup_cons_self
    · rename_i apart
      split
      · exact List.lookup_cons_self
      · have differs : (key == other) = false := beq_eq_false_iff_ne.mpr (Ne.symm apart)
        rw [List.lookup_cons, differs]
        exact ih

/-- The variables that are always there cannot be written. -/
theorem isReadOnly_of_predefined {name : String} {n : Int64}
    (found : predefined.lookup name = some n) : isReadOnly name = true := by
  obtain ⟨before, behind, split, -⟩ := List.lookup_eq_some_iff.mp found
  have all : ∀ entry ∈ predefined, isReadOnly entry.1 = true := by decide
  refine all (name, n) ?_
  rw [split]
  exact List.mem_append_right before List.mem_cons_self

theorem get?_set {vars after : Variables} {name : String} {value : Value}
    (done : vars.set name value = .ok after) : after.get? name = some value := by
  unfold set at done
  split at done
  · cases done
  · rename_i writable
    cases done
    unfold get?
    cases found : predefined.lookup (fullName name) with
    | some n => exact absurd (isReadOnly_of_predefined found) writable
    | none => exact get?_insertSorted _ value vars.values

end Variables

/-- A variable that has been assigned has the value that was assigned to it. -/
theorem Environment.eval_assigned {environment after : Environment} {name : String}
    {operator : AssignOperator} {operand : Expr}
    (done : environment.assign (.var name) operator operand = (after, .ok ())) :
    ∃ value, environment.assignedValue (.var name) operator operand = .ok value ∧
      (Expr.var name).eval after = .ok value := by
  unfold assign at done
  split at done
  · cases done
  · rename_i value assigned
    refine ⟨value, assigned, ?_⟩
    unfold write at done
    dsimp only at done
    split at done
    · cases done
    · rename_i vars set
      cases done
      have found := Variables.get?_set set
      simp only [Expr.eval, Environment.variable, found]

/-! ### Names -/

/-- The names that expressions read: every name with a scope, and without one those that are a word of
letters, digits and underscores, but not a word that compares. -/
def IsReadable (name : List Char) : Prop :=
  ':' ∈ name ∨
    (name.all isNameChar = true ∧ name ≠ ['i', 's'] ∧ name ≠ ['i', 's', 'n', 'o', 't'])

instance (name : List Char) : Decidable (IsReadable name) :=
  inferInstanceAs (Decidable (_ ∨ _))

theorem mem_of_splitFirst? {separator : Char} {text before behind : List Char}
    (split : Text.splitFirst? separator text = some (before, behind)) :
    text = before ++ separator :: behind := by
  unfold Text.splitFirst? at split
  split at split
  · rename_i c rest found
    cases split
    have whole : text.takeWhile (· != separator) ++ text.dropWhile (· != separator) = text :=
      List.takeWhile_append_dropWhile
    have stops := List.head?_dropWhile_not (· != separator) text
    rw [found] at whole stops
    simp only [List.head?_cons, bne_eq_false_iff_eq] at stops
    rw [stops] at whole
    exact whole.symm
  · cases split

theorem notMem_of_splitFirst? {separator : Char} {text : List Char}
    (split : Text.splitFirst? separator text = none) : separator ∉ text := by
  unfold Text.splitFirst? at split
  split at split
  · cases split
  · rename_i found
    intro member
    have all := List.dropWhile_eq_nil_iff.mp found separator member
    simp at all

/-- A name that can be assigned is a plain name, with or without the letter of a scope before it. -/
theorem isVariableName_cases {name : List Char} (valid : Command.isVariableName name = true) :
    (∃ letter plain, name = letter :: ':' :: plain ∧ isScopeLetter letter = true ∧
        Command.isPlainVariable plain = true) ∨
      (':' ∉ name ∧ Command.isPlainVariable name = true) := by
  unfold Command.isVariableName at valid
  cases split : Text.splitFirst? ':' name with
  | none =>
    rw [split] at valid
    exact .inr ⟨notMem_of_splitFirst? split, valid⟩
  | some pieces =>
    obtain ⟨scope, plain⟩ := pieces
    rw [split, Bool.and_eq_true] at valid
    obtain ⟨listed, isPlain⟩ := valid
    have letter : ∃ letter, scope = [letter] ∧ isScopeLetter letter = true := by
      simp only [List.contains_eq_mem, decide_eq_true_eq, List.mem_cons, List.not_mem_nil, or_false]
        at listed
      rcases listed with rfl | rfl | rfl | rfl | rfl | rfl | rfl <;> exact ⟨_, rfl, by decide⟩
    obtain ⟨letter, rfl, isLetter⟩ := letter
    exact .inl ⟨letter, plain, mem_of_splitFirst? split, isLetter, isPlain⟩

theorem exists_of_isPlainVariable {name : List Char} (plain : Command.isPlainVariable name = true) :
    ∃ c rest, name = c :: rest ∧ (c.isAlpha = true ∨ c = '_') ∧
      ∀ c ∈ name, Command.isVariableChar c = true := by
  unfold Command.isPlainVariable at plain
  split at plain
  · cases plain
  · rename_i c rest
    simp only [Bool.and_eq_true, Bool.or_eq_true, beq_iff_eq, List.all_eq_true] at plain
    exact ⟨c, rest, rfl, plain⟩

theorem isDigit_eq_false {c : Char} (starts : c.isAlpha = true ∨ c = '_') : c.isDigit = false := by
  rcases starts with alpha | rfl
  · exact Text.isDigit_of_isAlpha alpha
  · rfl

theorem read_of_starts {c : Char} {rest : List Char} (starts : c.isAlpha = true ∨ c = '_') :
    TokenKind.read (c :: rest) = .ok (readName (c :: rest)) := by
  have notDigit := isDigit_eq_false starts
  unfold TokenKind.read
  simp [notDigit, starts]

/-- A text that is one token. -/
theorem tokenize_of_read {first : Char} {spelled : List Char} {kind : TokenKind}
    (notBlank : isSeparator first = false)
    (read : TokenKind.read (first :: spelled) = .ok (kind, [])) :
    tokenize (first :: spelled) = .ok [⟨kind, 0, false⟩] := by
  have behind := @tokensFrom_blanks [] spelled [] first kind nofun notBlank (by simpa using read) 0
  have done : tokensFrom (0 + 0 + (first :: spelled).length) [] = .ok [] := by
    rw [tokensFrom]
    rfl
  simp only [List.nil_append, List.append_nil, List.length_nil, done] at behind
  exact behind

theorem isSeparator_eq_false {c : Char} (starts : c.isAlpha = true ∨ c = '_') :
    isSeparator c = false := by
  refine Bool.eq_false_iff.mpr fun blank => ?_
  simp only [isSeparator, Bool.or_eq_true, beq_iff_eq] at blank
  rcases blank with rfl | rfl <;> exact absurd starts (by decide)

theorem readName_scoped {letter : Char} {plain : List Char} (isLetter : isScopeLetter letter = true)
    (isPlain : Command.isPlainVariable plain = true) :
    readName (letter :: ':' :: plain) = (.ident (String.ofList (letter :: ':' :: plain)), []) := by
  obtain ⟨c, rest, rfl, starts, chars⟩ := exists_of_isPlainVariable isPlain
  have first : isNameChar letter = true := by
    simp only [isScopeLetter, List.mem_cons, List.not_mem_nil, or_false, decide_eq_true_eq] at isLetter
    rcases isLetter with rfl | rfl | rfl | rfl | rfl | rfl | rfl | rfl <;> decide
  have colon : ¬ isNameChar ':' = true := by decide
  have next : isNameChar c = true := isNameChar_of_isAlpha starts
  have taken : (c :: rest).takeWhile (fun c => isNameChar c || c == '#') = c :: rest :=
    List.takeWhile_eq_self_iff.mpr fun c member => chars c member
  have behind : (c :: rest).dropWhile (fun c => isNameChar c || c == '#') = [] :=
    List.dropWhile_eq_nil_iff.mpr fun c member => chars c member
  unfold readName
  simp only [List.takeWhile_cons_of_pos first, List.takeWhile_cons_of_neg colon,
    List.dropWhile_cons_of_pos first, List.dropWhile_cons_of_neg colon, isLetter, next, Bool.and_self,
    if_true, taken, behind]

/-- Without a scope a name is read up to a `#`. -/
theorem readName_unscoped {name : List Char} (unscoped : ':' ∉ name) :
    readName name =
      if name.takeWhile isNameChar = ['i', 's'] then comparisonToken .is (name.dropWhile isNameChar)
      else if name.takeWhile isNameChar = ['i', 's', 'n', 'o', 't'] then
        comparisonToken .isNot (name.dropWhile isNameChar)
      else (.ident (String.ofList (name.takeWhile isNameChar)), name.dropWhile isNameChar) := by
  unfold readName
  dsimp only
  split
  · rename_i letter next tail _ behind
    have member : ':' ∈ name :=
      (List.dropWhile_suffix isNameChar).subset (behind ▸ List.mem_cons_self)
    exact absurd member unscoped
  · rfl

/-- A readable name is an expression that reads the variable. -/
theorem parse_name {name : List Char} (valid : Command.isVariableName name = true)
    (readable : IsReadable name) : Expr.parse name = .ok (.var (String.ofList name)) := by
  have single {c : Char} {rest : List Char} (starts : c.isAlpha = true ∨ c = '_')
      (read : readName (c :: rest) = (.ident (String.ofList (c :: rest)), [])) :
      Expr.parse (c :: rest) = .ok (.var (String.ofList (c :: rest))) := by
    have word : Derives (.expr .atom) [⟨.ident (String.ofList (c :: rest)), 0, false⟩]
        (.var (String.ofList (c :: rest))) := .literal (.ident _)
    refine (Expr.parse_eq_ok_iff _ _).mpr ⟨_, ?_, Derives.loosest word⟩
    exact tokenize_of_read (isSeparator_eq_false starts) ((read_of_starts starts).trans (by rw [read]))
  rcases isVariableName_cases valid with ⟨letter, plain, rfl, isLetter, isPlain⟩ | ⟨unscoped, isPlain⟩
  · have starts : letter.isAlpha = true ∨ letter = '_' := by
      simp only [isScopeLetter, List.mem_cons, List.not_mem_nil, or_false, decide_eq_true_eq] at isLetter
      rcases isLetter with rfl | rfl | rfl | rfl | rfl | rfl | rfl | rfl <;> decide
    exact single starts (readName_scoped isLetter isPlain)
  · obtain ⟨c, rest, rfl, starts, -⟩ := exists_of_isPlainVariable isPlain
    obtain ⟨chars, notIs, notIsNot⟩ := readable.resolve_left unscoped
    rw [List.all_eq_true] at chars
    refine single starts ?_
    rw [readName_unscoped unscoped, List.takeWhile_eq_self_iff.mpr chars,
      List.dropWhile_eq_nil_iff.mpr chars, if_neg notIs, if_neg notIsNot]

/-! ### Names that are no expression -/

/-- Without blanks in front of it, the first token is read from the start of the text. -/
theorem tokensFrom_cons {first : Char} {spelled : List Char} (notBlank : isSeparator first = false)
    (before : Nat) :
    tokensFrom before (first :: spelled) =
      match TokenKind.read (first :: spelled) with
      | .error error => .error error
      | .ok (kind, rest) =>
        (tokensFrom (before + ((first :: spelled).length - rest.length)) rest).map
          (⟨kind, before, false⟩ :: ·) := by
  have stops : ∀ c ∈ (first :: spelled).head?, isSeparator c = false := by
    rintro _ ⟨⟩
    exact notBlank
  exact @tokensFrom_step [] (first :: spelled) nofun stops before

/-- No expression begins with a comparison. -/
theorem readLevel_of_compare (source : List Char) {token : Token} {operator : Comparison}
    {case : CaseMode} (is : token.kind = .compare operator case) (level : Level)
    (rest : List Token) :
    readLevel source level (token :: rest) = .error (invalidSource source) := by
  have atom : readLevel source .atom (token :: rest) = .error (invalidSource source) := by
    rw [readLevel_atom_cons, is]
    rfl
  have suffix : readLevel source .suffix (token :: rest) = .error (invalidSource source) := by
    rw [readLevel_eq source (by decide) (by decide), Level.tighter, atom, Found.andThen_error]
  have unary : readLevel source .unary (token :: rest) = .error (invalidSource source) := by
    rw [readLevel_unary_cons, is]
    exact suffix
  cases level with
  | atom => exact atom
  | suffix => exact suffix
  | unary => exact unary
  | _ => simp [readLevel_eq, Level.tighter, unary]

/-- A word that compares is an operator, and nothing stands to the left of it. -/
theorem parse_of_comparison {c : Char} {spelled : List Char} {operator : Comparison}
    {rest : List Char} (starts : c.isAlpha = true ∨ c = '_')
    (read : readName (c :: spelled) = comparisonToken operator rest) :
    ∃ error, Expr.parse (c :: spelled) = .error error := by
  unfold Expr.parse tokenize
  rw [tokensFrom_cons (isSeparator_eq_false starts), read_of_starts starts, read]
  dsimp only [comparisonToken]
  generalize tokensFrom _ (readCaseMode rest).2 = behind
  cases behind with
  | error error => exact ⟨error, rfl⟩
  | ok tokens =>
    refine ⟨invalidSource (c :: spelled), ?_⟩
    show Expr.ofTokens (c :: spelled) (_ :: tokens) = _
    rw [Expr.ofTokens_eq, readLevel_of_compare _ rfl]

/-- A `#` is a token only before a brace. -/
theorem parse_of_hash {c : Char} {spelled word more : List Char}
    (starts : c.isAlpha = true ∨ c = '_')
    (read : readName (c :: spelled) = (.ident (String.ofList word), '#' :: more))
    (chars : ∀ c ∈ more, Command.isVariableChar c = true) :
    ∃ error, Expr.parse (c :: spelled) = .error error := by
  have noToken : TokenKind.read ('#' :: more) = .error (invalidAt ('#' :: more)) := by
    cases more with
    | nil => rfl
    | cons next more =>
      have notBrace : next ≠ '{' := by
        rintro rfl
        exact absurd (chars '{' List.mem_cons_self) (by decide)
      simp [TokenKind.read, readComparison?, readMark?, notBrace]
  refine ⟨invalidAt ('#' :: more), ?_⟩
  unfold Expr.parse tokenize
  rw [tokensFrom_cons (isSeparator_eq_false starts), read_of_starts starts, read]
  dsimp only
  rw [tokensFrom_cons (by decide), noToken]
  rfl

theorem parse_unreadable {name : List Char} (valid : Command.isVariableName name = true)
    (unreadable : ¬ IsReadable name) : ∃ error, Expr.parse name = .error error := by
  obtain ⟨unscoped, notWord⟩ := not_or.mp unreadable
  rcases isVariableName_cases valid with ⟨letter, plain, rfl, -⟩ | ⟨-, isPlain⟩
  · exact absurd (List.mem_cons_of_mem _ List.mem_cons_self) unscoped
  · obtain ⟨c, rest, rfl, starts, chars⟩ := exists_of_isPlainVariable isPlain
    have whole : (c :: rest).takeWhile isNameChar ++ (c :: rest).dropWhile isNameChar = c :: rest :=
      List.takeWhile_append_dropWhile
    have reads := readName_unscoped unscoped
    split at reads
    · exact parse_of_comparison starts reads
    · split at reads
      · exact parse_of_comparison starts reads
      · rename_i notIs notIsNot
        cases behind : (c :: rest).dropWhile isNameChar with
        | nil =>
          have all := List.dropWhile_eq_nil_iff.mp behind
          rw [List.takeWhile_eq_self_iff.mpr all] at notIs notIsNot
          exact absurd ⟨List.all_eq_true.mpr all, notIs, notIsNot⟩ notWord
        | cons next more =>
          have stops := List.head?_dropWhile_not isNameChar (c :: rest)
          rw [behind] at reads stops whole
          have member (d : Char) (inTail : d ∈ next :: more) : d ∈ c :: rest :=
            whole ▸ List.mem_append_right _ inTail
          have hash : next = '#' := by
            have isChar := chars next (member next List.mem_cons_self)
            simp only [List.head?_cons] at stops
            simpa [Command.isVariableChar, stops] using isChar
          subst hash
          exact parse_of_hash starts reads fun d inMore =>
            chars d (member d (List.mem_cons_of_mem _ inMore))

/-! ### What has been assigned is read -/

theorem isVariableName_of_readTarget {text rest : List Char} {name : String}
    (read : Command.readTarget text = .ok (.var name, rest)) :
    Command.isVariableName name.toList = true := by
  unfold Command.readTarget at read
  split at read
  · dsimp only at read
    split at read <;> cases read
  · cases read
  · cases read
  · dsimp only at read
    split at read <;> cases read
  · dsimp only at read
    split at read
    · rename_i valid
      cases read
      simpa using valid
    · cases read

theorem isVariableName_of_readAssignment {text : List Char} {name : String}
    {operator : AssignOperator} {operand : Expr}
    (read : Command.readAssignment text = .ok (.assignment (.var name) operator operand)) :
    Command.isVariableName name.toList = true := by
  unfold Command.readAssignment at read
  split at read
  · cases read
  · cases target : Command.readTarget text with
    | error error =>
      rw [target] at read
      cases read
    | ok found =>
      obtain ⟨target', rest⟩ := found
      rw [target] at read
      have same : target' = .var name := by
        simp only [bind, Except.bind, pure, Except.pure, throw, throwThe, MonadExceptOf.throw] at read
        repeat' split at read
        all_goals cases read
        rfl
      subst same
      exact isVariableName_of_readTarget target

/-- What an assignment has written is the value of the variable of that name. The text of the name is
that variable just if the name is readable, and else it is no expression. -/
theorem Environment.reads_assigned {environment after : Environment} {text : List Char}
    {name : String} {operator : AssignOperator} {operand : Expr}
    (read : Command.readAssignment text = .ok (.assignment (.var name) operator operand))
    (done : environment.assign (.var name) operator operand = (after, .ok ())) :
    ∃ value, environment.assignedValue (.var name) operator operand = .ok value ∧
      (Expr.var name).eval after = .ok value ∧
      (IsReadable name.toList → Expr.parse name.toList = .ok (.var name)) ∧
      (¬ IsReadable name.toList → ∃ error, Expr.parse name.toList = .error error) := by
  have valid := isVariableName_of_readAssignment read
  obtain ⟨value, assigned, evaluates⟩ := eval_assigned done
  refine ⟨value, assigned, evaluates, fun readable => ?_, parse_unreadable valid⟩
  have parsed := parse_name valid readable
  rwa [String.ofList_toList] at parsed

/-- `let a#b = 1` writes a variable that the text `a#b` does not read; `g:a#b` reads it. -/
theorem Environment.reads_assigned_hash :
    let after : Environment := { vars := { values := [("g:a#b", .number 1)] } }
    Command.readAssignment "a#b = 1".toList = .ok (.assignment (.var "a#b") .assign (.number 1)) ∧
      Command.readAssignment "g:a#b = 1".toList =
        .ok (.assignment (.var "g:a#b") .assign (.number 1)) ∧
      (default : Environment).assign (.var "a#b") .assign (.number 1) = (after, .ok ()) ∧
      (default : Environment).assign (.var "g:a#b") .assign (.number 1) = (after, .ok ()) ∧
      (∃ error, Expr.parse "a#b".toList = .error error) ∧
      Expr.parse "g:a#b".toList = .ok (.var "g:a#b") := by
  intro after
  have one : Expr.parse ['1'] = .ok (.number 1) := by
    have word : Derives (.expr .atom) [⟨.number 1, 0, false⟩] (.number 1) := .literal (.number 1)
    exact (Expr.parse_eq_ok_iff _ _).mpr ⟨_, tokenize_of_read rfl rfl, Derives.loosest word⟩
  have bare : Command.readAssignment "a#b = 1".toList =
      (Expr.parse ['1']).map (.assignment (.var "a#b") .assign) := rfl
  have withScope : Command.readAssignment "g:a#b = 1".toList =
      (Expr.parse ['1']).map (.assignment (.var "g:a#b") .assign) := rfl
  rw [one] at bare withScope
  have written : (default : Environment).assign (.var "a#b") .assign (.number 1) = (after, .ok ()) := rfl
  have writtenScoped :
      (default : Environment).assign (.var "g:a#b") .assign (.number 1) = (after, .ok ()) := rfl
  obtain ⟨_, -, -, -, refused⟩ := reads_assigned bare written
  obtain ⟨_, -, -, reads, -⟩ := reads_assigned withScope writtenScoped
  exact ⟨bare, withScope, written, writtenScoped, refused (by decide), reads (by decide)⟩

end ModalEdit.Script

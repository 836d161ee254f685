import ModalEdit.Proofs.Script.Complete
import ModalEdit.Proofs.Script.Equality
import ModalEdit.Proofs.Script.Lexing
import ModalEdit.Script.Eval

/-!
The text of a value reads back: it is an expression whose value is that value, in every environment.
-/

set_option autoImplicit false

namespace ModalEdit.Script

/-- The text is read as tokens up to what is left of it. -/
def Lexes (before : Nat) (text : List Char) (taken : List Token) (after : Nat) (rest : List Char) :
    Prop :=
  tokensFrom before text = (tokensFrom after rest).map (taken ++ ·)

/-- A character that is a mark wherever it stands. -/
structure Stands (c : Char) (sign : Mark) : Prop where
  notBlank : isSeparator c = false
  read : ∀ rest, TokenKind.read (c :: rest) = .ok (.mark sign, rest)

theorem stands_comma : Stands ',' .comma := ⟨rfl, fun _ => rfl⟩

theorem stands_colon : Stands ':' .colon := ⟨rfl, fun _ => rfl⟩

theorem stands_minus : Stands '-' .minus := ⟨rfl, fun _ => rfl⟩

theorem stands_openParen : Stands '(' .openParen := ⟨rfl, fun _ => rfl⟩

theorem stands_closeParen : Stands ')' .closeParen := ⟨rfl, fun _ => rfl⟩

theorem stands_openBracket : Stands '[' .openBracket := ⟨rfl, fun _ => rfl⟩

theorem stands_closeBracket : Stands ']' .closeBracket := ⟨rfl, fun _ => rfl⟩

theorem stands_openBrace : Stands '{' .openBrace := ⟨rfl, fun _ => rfl⟩

theorem stands_closeBrace : Stands '}' .closeBrace := ⟨rfl, fun _ => rfl⟩

namespace Lexes

theorem trans {before after last : Nat} {text rest behind : List Char} {first second : List Token}
    (one : Lexes before text first after rest) (two : Lexes after rest second last behind) :
    Lexes before text (first ++ second) last behind := by
  unfold Lexes at *
  rw [one, two]
  cases tokensFrom last behind with
  | error error => rfl
  | ok tokens => exact congrArg Except.ok (List.append_assoc first second tokens).symm

theorem token {blanks spelled rest : List Char} {first : Char} {kind : TokenKind}
    (blank : ∀ c ∈ blanks, isSeparator c = true) (notBlank : isSeparator first = false)
    (read : TokenKind.read (first :: spelled ++ rest) = .ok (kind, rest)) (before : Nat) :
    ∃ start after, Lexes before (blanks ++ (first :: spelled ++ rest))
      [⟨kind, start, 0 < blanks.length⟩] after rest :=
  ⟨_, _, tokensFrom_blanks blank notBlank read before⟩

theorem mark {c : Char} {sign : Mark} (stands : Stands c sign) {blanks : List Char}
    (blank : ∀ c ∈ blanks, isSeparator c = true) (rest : List Char) (before : Nat) :
    ∃ token after, Lexes before (blanks ++ c :: rest) [token] after rest ∧ token.Is sign :=
  ⟨_, _, @tokensFrom_blanks blanks [] rest c _ blank stands.notBlank (stands.read rest) before, rfl⟩

/-- Right behind what has been read. -/
theorem tightMark {c : Char} {sign : Mark} (stands : Stands c sign) (rest : List Char)
    (before : Nat) :
    ∃ token after, Lexes before (c :: rest) [token] after rest ∧ token.IsTight sign :=
  ⟨_, _, @tokensFrom_blanks [] [] rest c _ nofun stands.notBlank (stands.read rest) before, rfl, rfl⟩

end Lexes

/-- The text is read as the phrase, wherever it stands. -/
def Spells (phrase : Phrase) (text : List Char) (tree : phrase.Tree) : Prop :=
  ∀ (before : Nat) (blanks rest : List Char), (∀ c ∈ blanks, isSeparator c = true) →
    Delimits rest → ∃ taken after,
      Lexes before (blanks ++ (text ++ rest)) taken after rest ∧ Derives phrase taken tree

namespace Spells

variable {text others : List Char} {tree : Expr} {trees : List Expr}

theorem token {spelled : List Char} {first : Char} {kind : TokenKind} {phrase : Phrase}
    {tree : phrase.Tree} (notBlank : isSeparator first = false)
    (read : ∀ rest, Delimits rest → TokenKind.read (first :: spelled ++ rest) = .ok (kind, rest))
    (derives : ∀ start spaced, Derives phrase [⟨kind, start, spaced⟩] tree) :
    Spells phrase (first :: spelled) tree := by
  intro before blanks rest blank delimits
  obtain ⟨start, after, lexes⟩ := Lexes.token blank notBlank (read rest delimits) before
  exact ⟨_, after, lexes, derives _ _⟩

theorem imp {phrase phrase' : Phrase} {tree : phrase.Tree} {tree' : phrase'.Tree}
    (spells : Spells phrase text tree)
    (implies : ∀ taken, Derives phrase taken tree → Derives phrase' taken tree') :
    Spells phrase' text tree' := by
  intro before blanks rest blank delimits
  obtain ⟨taken, after, lexes, derives⟩ := spells before blanks rest blank delimits
  exact ⟨taken, after, lexes, implies taken derives⟩

/-- A phrase between two marks. -/
theorem enclosed {phrase whole : Phrase} {tree : phrase.Tree} {wholeTree : whole.Tree}
    {first last : Char} {opening closing : Mark} (opens : Stands first opening)
    (closes : Stands last closing) (listed : last ∈ [',', ']', '}', ':', ')'])
    (inside : Spells phrase text tree)
    (derives : ∀ taken (start stop : Token), Derives phrase taken tree → start.Is opening →
      stop.Is closing → Derives whole (start :: taken ++ [stop]) wholeTree) :
    Spells whole (first :: text ++ [last]) wholeTree := by
  intro before blanks rest blank _
  obtain ⟨start, inner, lexesStart, isStart⟩ := Lexes.mark opens blank (text ++ last :: rest) before
  obtain ⟨taken, outer, lexesInside, derivesInside⟩ :=
    inside inner [] (last :: rest) nofun (delimits_cons listed rest)
  obtain ⟨stop, after, lexesStop, isStop⟩ := Lexes.tightMark closes rest outer
  refine ⟨start :: taken ++ [stop], after, ?_, derives taken _ _ derivesInside isStart isStop.1⟩
  simpa using lexesStart.trans (lexesInside.trans lexesStop)

theorem pair {whole : Phrase} {wholeTree : whole.Tree} {first last : Char} {opening closing : Mark}
    (opens : Stands first opening) (closes : Stands last closing)
    (derives : ∀ start stop : Token, start.Is opening → stop.Is closing →
      Derives whole [start, stop] wholeTree) :
    Spells whole [first, last] wholeTree := by
  intro before blanks rest blank _
  obtain ⟨start, inner, lexesStart, isStart⟩ := Lexes.mark opens blank (last :: rest) before
  obtain ⟨stop, after, lexesStop, isStop⟩ := Lexes.tightMark closes rest inner
  exact ⟨[start, stop], after, lexesStart.trans lexesStop, derives start stop isStart isStop.1⟩

/-- Two phrases with a mark between them and a blank behind the mark. -/
theorem joined {first second whole : Phrase} {firstTree : first.Tree} {secondTree : second.Tree}
    {wholeTree : whole.Tree} {c : Char} {sign : Mark} (stands : Stands c sign)
    (listed : c ∈ [',', ']', '}', ':', ')']) (one : Spells first text firstTree)
    (two : Spells second others secondTree)
    (derives : ∀ taken (between : Token) takenOthers, Derives first taken firstTree →
      between.Is sign → Derives second takenOthers secondTree →
      Derives whole (taken ++ between :: takenOthers) wholeTree) :
    Spells whole (text ++ (c :: ' ' :: others)) wholeTree := by
  intro before blanks rest blank delimits
  obtain ⟨taken, inner, lexesOne, derivesOne⟩ :=
    one before blanks (c :: ' ' :: (others ++ rest)) blank (delimits_cons listed _)
  obtain ⟨between, outer, lexesBetween, isBetween⟩ :=
    Lexes.tightMark stands (' ' :: (others ++ rest)) inner
  obtain ⟨takenOthers, after, lexesTwo, derivesTwo⟩ := two outer [' '] rest
    (List.forall_mem_singleton.mpr rfl) delimits
  refine ⟨taken ++ between :: takenOthers, after, ?_,
    derives taken between takenOthers derivesOne isBetween.1 derivesTwo⟩
  simpa using lexesOne.trans (lexesBetween.trans lexesTwo)

theorem sequence_cons (one : Spells (.expr .ternary) text tree)
    (two : Spells .sequence others trees) :
    Spells .sequence (text ++ (',' :: ' ' :: others)) (tree :: trees) :=
  joined stands_comma (by decide) one two fun _ _ _ derives isComma derivesOthers =>
    .more derives isComma derivesOthers

theorem entry {key value : Expr} (spellsKey : Spells (.expr .ternary) text key)
    (spellsValue : Spells (.expr .ternary) others value) :
    Spells (.entries false) (text ++ (':' :: ' ' :: others)) [(key, value)] :=
  joined stands_colon (by decide) spellsKey spellsValue fun _ _ _ derivesKey isColon derivesValue =>
    .entry (.key derivesKey) isColon derivesValue

theorem entries_cons {key value : Expr} {entries : List (Expr × Expr)}
    (one : Spells (.entries false) text [(key, value)])
    (two : Spells (.entries false) others entries) :
    Spells (.entries false) (text ++ (',' :: ' ' :: others)) ((key, value) :: entries) := by
  refine joined stands_comma (by decide) one two fun _ _ _ derives isComma derivesOthers => ?_
  cases derives with
  | entry derivesKey isColon derivesValue =>
    exact .moreEntries derivesKey isColon derivesValue isComma derivesOthers
  | moreEntries _ _ _ _ none => cases none

theorem number (n : Nat) :
    Spells (.expr .atom) (Nat.toDigits 10 n) (.number (Int64.ofIntClamp n)) := by
  have read (rest : List Char) (delimits : Delimits rest) := read_toDigits n (delimits.not_of_head rfl)
  cases digits : Nat.toDigits 10 n with
  | nil => exact absurd digits Nat.toDigits_ne_nil
  | cons first others =>
    have isDigit : first.isDigit = true :=
      Number.isDigit_of_mem_toDigits (digits ▸ List.mem_cons_self)
    rw [digits] at read
    exact token (not_isSeparator_of_isDigit isDigit) read fun _ _ => .literal (.number _)

theorem negative (spells : Spells (.expr .unary) text tree) :
    Spells (.expr .unary) ('-' :: text) (.unary .negate tree) := by
  intro before blanks rest blank delimits
  obtain ⟨minus, inner, lexesMinus, isMinus⟩ := Lexes.mark stands_minus blank (text ++ rest) before
  obtain ⟨taken, after, lexesOperand, derives⟩ := spells inner [] rest nofun delimits
  exact ⟨minus :: taken, after, by simpa using lexesMinus.trans lexesOperand, .unary isMinus derives⟩

theorem quoted (literal : String) : Spells (.expr .atom) (Value.quoted literal).toList (.str literal) := by
  have toList : (Value.quoted literal).toList = '\'' :: (Value.quoted literal).toList.tail := by
    simp [Value.quoted]
  rw [toList]
  refine token rfl (fun rest delimits => ?_) fun start spaced => .literal (.str literal)
  rw [← toList]
  exact read_quoted literal delimits

theorem blob (bytes : List UInt8) :
    Spells (.expr .atom) ('0' :: 'z' :: bytes.flatMap Value.hexByte) (.blob bytes) :=
  token rfl (fun _ delimits => read_blob bytes delimits) fun _ _ => .literal (.blob bytes)

theorem functionCall (argument : Spells (.expr .ternary) text tree) :
    Spells (.expr .suffix) ("function".toList ++ '(' :: text ++ [')'])
      (.call (.var "function") [tree]) := by
  intro before blanks rest blank _
  have name : TokenKind.read ('f' :: "unction".toList ++ '(' :: (text ++ ')' :: rest)) =
      .ok (.ident "function", '(' :: (text ++ ')' :: rest)) := rfl
  obtain ⟨start, first, lexesName⟩ := Lexes.token blank rfl name before
  obtain ⟨opening, second, lexesOpening, isOpening⟩ :=
    Lexes.tightMark stands_openParen (text ++ ')' :: rest) first
  obtain ⟨taken, third, lexesArgument, derives⟩ :=
    argument second [] (')' :: rest) nofun (delimits_cons (by decide) rest)
  obtain ⟨closing, after, lexesClosing, isClosing⟩ := Lexes.tightMark stands_closeParen rest third
  refine ⟨[⟨.ident "function", start, 0 < blanks.length⟩] ++ opening :: taken ++ [closing], after, ?_,
    .call (.tighter (.literal (.ident "function"))) isOpening (.one derives) isClosing.1⟩
  simpa using lexesName.trans (lexesOpening.trans (lexesArgument.trans lexesClosing))

end Spells

/-! ### Values -/

namespace Value

/-- The text of the value is an expression for it. -/
def ReadsBack (value : Value) : Prop :=
  ∃ tree, Spells (.expr .ternary) value.repr.toList tree ∧
    ∀ environment, tree.eval environment = .ok value

theorem readsBack_number {value : Int64} (notLeast : value ≠ Int64.minValue) :
    (number value).ReadsBack := by
  have most : Int64.maxValue.toInt = 2 ^ 63 - 1 := rfl
  have printed : (number value).repr = Int.repr value.toInt := by
    rw [repr]
    rfl
  unfold ReadsBack
  rw [printed]
  cases sign : value.toInt with
  | ofNat n =>
    have same : Int64.ofIntClamp n = value := Number.ofIntClamp_of_toInt sign
    refine ⟨.number value, ?_, fun _ => rfl⟩
    have spells := (Spells.number n).imp fun _ derives => derives.loosest
    rw [same] at spells
    simpa [Int.repr] using spells
  | negSucc m =>
    have above : -2 ^ 63 < value.toInt := by
      refine Int.lt_iff_le_and_ne.mpr ⟨value.le_toInt, fun least => notLeast ?_⟩
      exact Int64.toInt_inj.mp (least.symm.trans Int64.toInt_minValue.symm)
    have fits : ((m + 1 : Nat) : Int) ≤ Int64.maxValue.toInt := by omega
    have negated : -Int64.ofIntClamp (m + 1 : Nat) = value := by
      apply Int64.toInt_inj.mp
      rw [Int64.toInt_neg, Number.toInt_ofIntClamp fits,
        Int.bmod_eq_of_le_mul_two (by omega) (by omega), sign]
      omega
    refine ⟨.unary .negate (.number (Int64.ofIntClamp (m + 1 : Nat))), ?_, fun _ => ?_⟩
    · have operand : Spells (.expr .unary) _ _ :=
        (Spells.number (m + 1)).imp fun _ derives => .tighter (.tighter derives)
      have spells := operand.negative.imp fun _ derives => derives.loosest
      simpa [Int.repr] using spells
    · show Except.ok (number (-Int64.ofIntClamp (m + 1 : Nat))) = _
      rw [negated]

theorem readsBack_string (text : String) : (string text).ReadsBack :=
  ⟨.str text, (Spells.quoted text).imp fun _ derives => derives.loosest, fun _ => rfl⟩

theorem readsBack_blob (bytes : List UInt8) : (blob bytes).ReadsBack := by
  refine ⟨.blob bytes, ?_, fun _ => rfl⟩
  have spells := (Spells.blob bytes).imp fun _ derives => derives.loosest
  simpa [repr] using spells

/-- No function has a quote in its name. -/
theorem quoted_of_isName {name : String} (known : Builtin.isName name = true) :
    quoted name = "'" ++ name ++ "'" := by
  obtain ⟨entry, member, same⟩ := List.lookup_isSome_iff.mp known
  rw [beq_iff_eq] at same
  subst same
  revert entry
  decide

theorem readsBack_funcref {name : String} (known : Builtin.isName name = true) :
    (funcref name).ReadsBack := by
  refine ⟨.call (.var "function") [.str name], ?_, fun environment => ?_⟩
  · have argument := (Spells.quoted name).imp fun _ derives => derives.loosest
    have spells := (Spells.functionCall argument).imp fun _ derives => derives.loosest
    rw [quoted_of_isName known] at spells
    simpa [repr] using spells
  · have callee : environment.calleeOfName "function" = .ok "function" := rfl
    have found : Builtin.find "function" 1 = .ok .function := rfl
    simp [Expr.eval, callee, evalItems, callFunction, found, Builtin.value, Builtin.functionName,
      known, bind, Except.bind, pure, Except.pure]

theorem readsBack_items {items : List Value} (each : ∀ item ∈ items, item.ReadsBack)
    (some : items ≠ []) :
    ∃ trees, Spells .sequence (", ".intercalate (reprItems items)).toList trees ∧
      ∀ environment, evalItems environment trees = .ok items := by
  induction items with
  | nil => exact absurd rfl some
  | cons item items ih =>
    obtain ⟨tree, spells, evals⟩ := each item List.mem_cons_self
    cases items with
    | nil =>
      refine ⟨[tree], spells.imp fun _ derives => .one derives, fun environment => ?_⟩
      simp [evalItems, evals environment, bind, Except.bind, pure, Except.pure]
    | cons next items =>
      obtain ⟨trees, spellsOthers, evalsOthers⟩ :=
        ih (fun other member => each other (List.mem_cons_of_mem item member)) (by simp)
      refine ⟨tree :: trees, ?_, fun environment => ?_⟩
      · have whole := spells.sequence_cons spellsOthers
        simpa [reprItems, String.intercalate_cons_cons] using whole
      · simp [evalItems, evals environment, evalsOthers environment, bind, Except.bind, pure, Except.pure]

theorem readsBack_entries {entries : List (String × Value)}
    (each : ∀ entry ∈ entries, entry.2.ReadsBack) (some : entries ≠ []) :
    ∃ trees, Spells (.entries false) (", ".intercalate (reprEntries entries)).toList trees ∧
      ∀ environment before, ((before ++ entries).map Prod.fst).Nodup →
        evalEntries environment before trees = .ok (before ++ entries) := by
  induction entries with
  | nil => exact absurd rfl some
  | cons entry entries ih =>
    obtain ⟨key, value⟩ := entry
    obtain ⟨tree, spells, evals⟩ := each (key, value) List.mem_cons_self
    have spellsKey := (Spells.quoted key).imp fun _ derives => derives.loosest
    have spellsEntry := spellsKey.entry spells
    have evalEntry (environment : Environment) (before : Dict Value)
        (distinct : ((before ++ (key, value) :: entries).map Prod.fst).Nodup)
        (rest : List (Expr × Expr)) :
        evalEntries environment before ((.str key, tree) :: rest) =
          evalEntries environment (before ++ [(key, value)]) rest := by
      have new : key ∉ before.map Prod.fst := by
        rw [List.map_append] at distinct
        exact fun member => (List.nodup_append.mp distinct).2.2 key member key List.mem_cons_self rfl
      simp [evalEntries, Expr.eval, toText, evals environment, Dict.insert_of_notMem new, bind, Except.bind]
    cases entries with
    | nil =>
      refine ⟨[(.str key, tree)], by simpa [reprEntries] using spellsEntry, ?_⟩
      intro environment before distinct
      rw [evalEntry environment before distinct, evalEntries]
    | cons next entries =>
      obtain ⟨trees, spellsOthers, evalsOthers⟩ :=
        ih (fun other member => each other (List.mem_cons_of_mem _ member)) (by simp)
      refine ⟨(.str key, tree) :: trees, ?_, ?_⟩
      · have whole := spellsEntry.entries_cons spellsOthers
        simpa [reprEntries, String.intercalate_cons_cons] using whole
      · intro environment before distinct
        rw [evalEntry environment before distinct, evalsOthers environment _ (by simpa using distinct)]
        simp

/-- The values whose text reads back: their numbers are whole and not the least one, their functions
exist, and the keys of their dictionaries are distinct. -/
inductive Printable : Value → Prop
  | number {value : Int64} : value ≠ Int64.minValue → Printable (number value)
  | string (text : String) : Printable (string text)
  | blob (bytes : List UInt8) : Printable (blob bytes)
  | funcref {name : String} : Builtin.isName name = true → Printable (funcref name)
  | list {items : List Value} : (∀ item ∈ items, Printable item) → Printable (list items)
  | dict {entries : List (String × Value)} :
      (entries.map Prod.fst).Nodup → (∀ entry ∈ entries, Printable entry.2) →
      Printable (dict entries)

theorem readsBack_list {items : List Value} (each : ∀ item ∈ items, item.ReadsBack) :
    (list items).ReadsBack := by
  by_cases some : items = []
  · subst some
    have spells : Spells (.expr .atom) ['[', ']'] (.list []) :=
      Spells.pair stands_openBracket stands_closeBracket fun _ _ => .emptyList
    exact ⟨.list [], spells.imp fun _ derives => derives.loosest, fun _ => rfl⟩
  · obtain ⟨trees, spells, evals⟩ := readsBack_items each some
    refine ⟨.list trees, ?_, fun environment => ?_⟩
    · have whole : Spells (.expr .atom) _ (.list trees) :=
        Spells.enclosed stands_openBracket stands_closeBracket (by decide) spells
          fun _ _ _ derives opens closes => derives.plainList opens closes
      have loose := whole.imp fun _ derives => derives.loosest
      simpa [repr] using loose
    · rw [Expr.eval, evals environment]
      rfl

theorem readsBack_dict {entries : List (String × Value)} (distinct : (entries.map Prod.fst).Nodup)
    (each : ∀ entry ∈ entries, entry.2.ReadsBack) : (dict entries).ReadsBack := by
  by_cases some : entries = []
  · subst some
    have spells : Spells (.expr .atom) ['{', '}'] (.dict []) :=
      Spells.pair stands_openBrace stands_closeBrace fun start _ opens closes =>
        .emptyDict (show start.Is (openingBrace false) from opens) closes
    exact ⟨.dict [], spells.imp fun _ derives => derives.loosest, fun _ => rfl⟩
  · obtain ⟨trees, spells, evals⟩ := readsBack_entries each some
    refine ⟨.dict trees, ?_, fun environment => ?_⟩
    · have whole : Spells (.expr .atom) _ (.dict trees) :=
        Spells.enclosed stands_openBrace stands_closeBrace (by decide) spells
          fun _ _ _ derives opens closes => derives.plainDict opens closes
      have loose := whole.imp fun _ derives => derives.loosest
      simpa [repr] using loose
    · rw [Expr.eval, evals environment [] distinct]
      rfl

theorem Printable.readsBack {value : Value} (printable : value.Printable) : value.ReadsBack := by
  induction printable with
  | number notLeast => exact readsBack_number notLeast
  | string text => exact readsBack_string text
  | blob bytes => exact readsBack_blob bytes
  | funcref known => exact readsBack_funcref known
  | list _ each => exact readsBack_list each
  | dict distinct _ each => exact readsBack_dict distinct each

/-- The text of a printable value is one expression, and that has the value in every environment. -/
theorem Printable.parse_repr {value : Value} (printable : value.Printable) :
    ∃ tree, Expr.parse value.repr.toList = .ok tree ∧
      ∀ environment, tree.eval environment = .ok value := by
  obtain ⟨tree, spells, evals⟩ := printable.readsBack
  obtain ⟨taken, after, lexes, derives⟩ := spells 0 [] [] nofun delimits_nil
  refine ⟨tree, (Expr.parse_eq_ok_iff _ _).mpr ⟨taken, ?_, derives⟩, evals⟩
  have done : tokensFrom after [] = .ok [] := by
    rw [tokensFrom]
    rfl
  simpa [Lexes, tokenize, done, Except.map] using lexes

/-- A negative number, a doubled quote, bytes, a function and an empty list, in a list and a dictionary. -/
theorem Printable.parse_repr_nested :
    let value : Value := .list [.number (-5), .string "it's", .blob [0, 255], .funcref "len",
      .dict [("items", .list []), ("", .number 0)]]
    value.Printable ∧ ∃ tree, Expr.parse value.repr.toList = .ok tree ∧
      ∀ environment, tree.eval environment = .ok value := by
  intro value
  have inner : Value.Printable (.dict [("items", .list []), ("", .number 0)]) := by
    refine .dict (by decide) ?_
    simp only [List.forall_mem_cons]
    exact ⟨.list nofun, .number (by decide), nofun⟩
  have printable : value.Printable := by
    refine .list ?_
    simp only [List.forall_mem_cons]
    exact ⟨.number (by decide), .string _, .blob _, .funcref (by decide), inner, nofun⟩
  exact ⟨printable, printable.parse_repr⟩

end Value

end ModalEdit.Script

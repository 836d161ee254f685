import ModalEdit.Proofs.Script.Joining
import Mathlib.Data.List.Pairwise

/-!
A text and its tokens: the text is cut into one piece for each token, in order, with blanks in front of
each and behind the last, and nothing is left out or read twice.
-/

set_option autoImplicit false

namespace ModalEdit

namespace Script

/-! ### Texts in single quotes -/

/-- The text with one quote for every two. -/
def halveQuotes : List Char → List Char
  | '\'' :: '\'' :: rest => '\'' :: halveQuotes rest
  | c :: rest => c :: halveQuotes rest
  | [] => []

/-- What is read in single quotes is what stands between them with the quotes halved, and all quotes are
doubled there. -/
theorem readSingleQuoted?_eq_some {text quoted rest : List Char}
    (read : readSingleQuoted? text = some (quoted, rest)) :
    ∃ inside, text = inside ++ '\'' :: rest ∧ quoted = halveQuotes inside ∧
      inside = quoted.flatMap (fun c => if c = '\'' then ['\'', '\''] else [c]) := by
  fun_induction readSingleQuoted? text generalizing quoted rest with
  | case1 tail ih =>
    obtain ⟨⟨others, after⟩, tailRead, same⟩ := Option.map_eq_some_iff.mp read
    cases same
    obtain ⟨inside, isTail, halved, doubled⟩ := ih tailRead
    refine ⟨'\'' :: '\'' :: inside, by rw [isTail]; rfl, by rw [halved]; rfl, ?_⟩
    rw [List.flatMap_cons, ← doubled]
    rfl
  | case2 tail =>
    cases read
    exact ⟨[], rfl, rfl, rfl⟩
  | case3 c tail _ notQuote ih =>
    obtain ⟨⟨others, after⟩, tailRead, same⟩ := Option.map_eq_some_iff.mp read
    cases same
    obtain ⟨inside, isTail, halved, doubled⟩ := ih tailRead
    have other : c ≠ '\'' := fun is => notQuote is
    refine ⟨c :: inside, by rw [isTail]; rfl, ?_, ?_⟩
    · rw [halved]
      simp [halveQuotes, other]
    · rw [List.flatMap_cons, ← doubled, if_neg other]
      rfl
  | case4 => cases read

/-! ### Pieces -/

/-- A token with the blanks in front of it and the characters that spell it. -/
structure Piece where
  blanks : List Char
  spelled : List Char
  token : Token

/-- All characters of a piece. -/
def Piece.text (piece : Piece) : List Char :=
  piece.blanks ++ piece.spelled

/-- A piece stands between what is in front of it and what is behind it. -/
structure Piece.Stands (piece : Piece) (front back : List Char) : Prop where
  blank : ∀ c ∈ piece.blanks, c = ' ' ∨ c = '\t'
  /-- A token is one character at least, and the first of them is no blank. -/
  begins : ∃ first more, piece.spelled = first :: more ∧ first ≠ ' ' ∧ first ≠ '\t'
  start : piece.token.start = (front ++ piece.blanks).length
  spaced : piece.token.spaced = true ↔ piece.blanks ≠ []
  read : TokenKind.read (piece.spelled ++ back) = .ok (piece.token.kind, back)
  /-- A token in single quotes is the text between them with each doubled quote halved. -/
  quoted : ∀ more, piece.spelled = '\'' :: more →
    ∃ inside, more = inside ++ ['\''] ∧
      piece.token.kind = .str (String.ofList (halveQuotes inside)) ∧
      piece.spelled = (Value.quoted (String.ofList (halveQuotes inside))).toList

theorem not_isSeparator_iff {c : Char} : isSeparator c = false ↔ c ≠ ' ' ∧ c ≠ '\t' := by
  simp [isSeparator]

theorem isSeparator_iff {c : Char} : isSeparator c = true ↔ c = ' ' ∨ c = '\t' := by
  simp [isSeparator]

/-- How a token in single quotes is spelled. -/
theorem quoted_of_read {more back : List Char} {kind : TokenKind}
    (read : TokenKind.read ('\'' :: more ++ back) = .ok (kind, back)) :
    ∃ inside, more = inside ++ ['\''] ∧ kind = .str (String.ofList (halveQuotes inside)) ∧
      '\'' :: more = (Value.quoted (String.ofList (halveQuotes inside))).toList := by
  rw [List.cons_append, TokenKind.read, if_neg (by decide), if_neg (by decide), if_pos rfl] at read
  cases quotedRead : readSingleQuoted? (more ++ back) with
  | none =>
    rw [quotedRead] at read
    cases read
  | some found =>
    obtain ⟨quoted, after⟩ := found
    rw [quotedRead] at read
    cases read
    obtain ⟨inside, parts, rfl, doubled⟩ := readSingleQuoted?_eq_some quotedRead
    have same : more ++ back = inside ++ ['\''] ++ back := by
      rw [parts, List.append_assoc]
      rfl
    have isMore : more = inside ++ ['\''] := List.append_cancel_right same
    refine ⟨inside, isMore, rfl, ?_⟩
    rw [isMore, Value.quoted, String.toList_ofList, String.toList_ofList, ← doubled]
    rfl

/-! ### The cut -/

/-- A text is cut into pieces, in order, with blanks behind the last of them. -/
structure Cut (text : List Char) (pieces : List Piece) (trailing : List Char) : Prop where
  whole : text = pieces.flatMap Piece.text ++ trailing
  blank : ∀ c ∈ trailing, c = ' ' ∨ c = '\t'

/-- Each piece stands between all others, behind what is in front of them all. -/
def AllStand (front : List Char) (pieces : List Piece) (trailing : List Char) : Prop :=
  ∀ earlier piece later, pieces = earlier ++ piece :: later →
    piece.Stands (front ++ earlier.flatMap Piece.text) (later.flatMap Piece.text ++ trailing)

theorem AllStand.cons {front trailing : List Char} {piece : Piece} {pieces : List Piece}
    (first : piece.Stands front (pieces.flatMap Piece.text ++ trailing))
    (others : AllStand (front ++ piece.text) pieces trailing) :
    AllStand front (piece :: pieces) trailing := by
  intro earlier other later split
  cases earlier with
  | nil =>
    cases split
    rwa [List.flatMap_nil, List.append_nil]
  | cons head earlier =>
    cases split
    have stands := others earlier other later rfl
    rwa [List.append_assoc] at stands

/-- Reading token by token cuts a text. -/
theorem Tokenizes.exists_cut {before : Nat} {text : List Char} {tokens : List Token}
    (reads : Tokenizes before text tokens) :
    ∃ pieces trailing, tokens = pieces.map Piece.token ∧ Cut text pieces trailing ∧
      ∀ front : List Char, front.length = before → AllStand front pieces trailing := by
  induction reads with
  | @done before blanks blank =>
    refine ⟨[], blanks, rfl, ⟨rfl, fun c member => isSeparator_iff.mp (blank c member)⟩, ?_⟩
    intro front _ earlier piece later split
    cases earlier <;> cases split
  | @token before blanks spelled rest first kind tokens blank notBlank read _ ih =>
    obtain ⟨pieces, trailing, isTokens, ⟨whole, trails⟩, stand⟩ := ih
    let piece : Piece :=
      ⟨blanks, first :: spelled, ⟨kind, before + blanks.length, 0 < blanks.length⟩⟩
    refine ⟨piece :: pieces, trailing, by rw [isTokens]; rfl, ⟨?_, trails⟩, ?_⟩
    · simp [whole, Piece.text, piece]
    intro front length
    have further :
        (front ++ piece.text).length = before + blanks.length + (first :: spelled).length := by
      simp [Piece.text, piece, length, Nat.add_assoc]
    refine AllStand.cons ⟨fun c member => isSeparator_iff.mp (blank c member), ?_, ?_, ?_, ?_, ?_⟩
      (stand _ further)
    · exact ⟨first, spelled, rfl, not_isSeparator_iff.mp notBlank⟩
    · rw [List.length_append, length]
    · simp [piece, List.length_pos_iff]
    · rwa [← whole]
    · intro more isQuoted
      rw [isQuoted]
      rw [show first :: spelled = '\'' :: more from isQuoted] at read
      exact quoted_of_read read

/-- Tokens start one behind the other. -/
theorem Tokenizes.starts_lt {before : Nat} {text : List Char} {tokens : List Token}
    (reads : Tokenizes before text tokens) :
    (∀ token ∈ tokens, before ≤ token.start ∧ token.start < before + text.length) ∧
      tokens.Pairwise fun first second => first.start < second.start := by
  induction reads with
  | done => exact ⟨nofun, .nil⟩
  | @token before blanks spelled rest first kind tokens _ _ _ _ ih =>
    obtain ⟨within, ordered⟩ := ih
    constructor
    · intro token member
      simp only [List.length_append, List.length_cons] at within ⊢
      rcases List.mem_cons.mp member with rfl | member
      · dsimp only
        omega
      · have := within token member
        omega
    · refine .cons (fun token member => ?_) ordered
      have := within token member
      simp only [List.length_cons] at this
      dsimp only
      omega

theorem byteOffset_eq (source : List Char) (count : Nat) :
    byteOffset source count = ((source.take count).map Char.utf8Size).sum := by
  rw [byteOffset, List.sum_eq_foldl, List.foldl_map]

/-- Within a text, a character further on is one at a later byte. -/
theorem byteOffset_lt {source : List Char} {first second : Nat} (less : first < second)
    (within : second ≤ source.length) : byteOffset source first < byteOffset source second := by
  obtain ⟨more, rfl⟩ : ∃ more, second = first + (1 + more) := ⟨second - (first + 1), by omega⟩
  obtain ⟨c, rest, isBehind⟩ : ∃ c rest, source.drop first = c :: rest :=
    List.exists_cons_of_ne_nil fun none => by
      have := List.drop_eq_nil_iff.mp none
      omega
  have positive := c.utf8Size_pos
  rw [byteOffset_eq, byteOffset_eq, List.take_add, isBehind, Nat.add_comm 1, List.take_succ_cons]
  simp only [List.map_append, List.map_cons, List.sum_append, List.sum_cons]
  omega

/-- The tokens of a text cover it. Each has a piece of its own, in order, and the pieces and the blanks
behind the last are all of the text. In front of a token in its piece are spaces and tabs only, and the
token is spaced just if there are any. The tokens start one behind the other, in characters and in bytes. -/
theorem tokenize_covers {source : List Char} {tokens : List Token}
    (tokenized : tokenize source = .ok tokens) :
    (∃ pieces trailing, tokens = pieces.map Piece.token ∧ Cut source pieces trailing ∧
      AllStand [] pieces trailing) ∧
    (tokens.Pairwise fun first second => first.start < second.start) ∧
    tokens.Pairwise fun first second =>
      byteOffset source first.start < byteOffset source second.start := by
  have reads : Tokenizes 0 source tokens := tokenizes_of_tokensFrom tokenized
  obtain ⟨within, ordered⟩ := reads.starts_lt
  obtain ⟨pieces, trailing, isTokens, cut, stand⟩ := reads.exists_cut
  refine ⟨⟨pieces, trailing, isTokens, cut, stand [] rfl⟩, ordered, ?_⟩
  refine ordered.imp_of_mem fun _ second less => byteOffset_lt less ?_
  have := (within _ second).2
  omega

/-- A quoted text, a register that a blank names, a name right behind it, and a mark behind a blank. -/
theorem tokenize_covers_quoted :
    let tokens : List Token := [⟨.str "it's", 0, false⟩, ⟨.register ' ', 7, false⟩,
      ⟨.ident "x", 9, false⟩, ⟨.mark .plus, 11, true⟩]
    tokenize "'it''s'@ x +".toList = .ok tokens ∧
      (∃ pieces trailing, tokens = pieces.map Piece.token ∧
        Cut "'it''s'@ x +".toList pieces trailing ∧ AllStand [] pieces trailing) ∧
      tokens.Pairwise fun first second => first.start < second.start := by
  intro tokens
  have mark : Tokenizes 10 " +".toList [⟨.mark .plus, 11, true⟩] :=
    @Tokenizes.token 10 [' '] [] [] '+' (.mark .plus) [] (List.forall_mem_singleton.mpr rfl) rfl rfl
      (.done nofun)
  have tokenized : tokenize "'it''s'@ x +".toList = .ok tokens :=
    Tokenizes.tokensFrom_eq (.next '\'' ['i', 't', '\'', '\'', 's', '\''] rfl rfl
      (.next '@' [' '] rfl rfl (.next 'x' [] rfl rfl mark)))
  exact ⟨tokenized, (tokenize_covers tokenized).1, (tokenize_covers tokenized).2.1⟩

end Script

end ModalEdit

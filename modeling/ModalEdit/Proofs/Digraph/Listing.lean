import Mathlib.Data.List.Chain
import Mathlib.Data.List.Induction
import Mathlib.Order.Bounds.Basic
import ModalEdit.Digraph
import ModalEdit.Proofs.Document.LineList
import ModalEdit.Proofs.Number.Digits

/-!
The listing of digraphs holds each item once and in order. A heading is alone on its line, and the entries between
two headings stand side by side, six on each line but the last of them. The listing is written item by item, and
what is kept along the way are the lines that are finished and the entries on the one that is not.
-/

set_option autoImplicit false

namespace ModalEdit

namespace Digraphs

/-- What a line of the listing holds. -/
inductive ListingRow where
  | heading (text : String)
  | entries (digraphs : List Digraph)

/-- Entries on one line. Each begins 13 columns or more behind the start of the one before it and one blank or
more behind its end, and as near to it as that permits. -/
inductive SideBySide : List Digraph → String → Prop where
  | last (digraph : Digraph) : SideBySide [digraph] (showEntry digraph).1
  | before {digraph next : Digraph} {rest : List Digraph} {line : String} {gap : Nat}
      (least : IsLeast {gap | 1 ≤ gap ∧ 13 ≤ (showEntry digraph).2 + gap} gap)
      (behind : SideBySide (next :: rest) line) :
      SideBySide (digraph :: next :: rest) ((showEntry digraph).1 ++ Text.blanks gap ++ line)

namespace ListingRow

/-- The items on a line. -/
def items : ListingRow → List DigraphItem
  | heading text => [.header text]
  | entries digraphs => digraphs.map .entry

/-- A line and what it holds: a heading alone, or at most six entries. -/
def Shows : ListingRow → String → Prop
  | heading text, line => line = text
  | entries digraphs, line => digraphs.length ≤ 6 ∧ SideBySide digraphs line

/-- Whether a line may stand right before another: entries go on to the next line only from a full one. -/
def Precedes : ListingRow → ListingRow → Prop
  | entries digraphs, entries _ => digraphs.length = 6
  | _, _ => True

end ListingRow

open ListingRow

variable {rows : List ListingRow} {current : List Digraph} {digraph : Digraph} {line : String}

/-! ### Entries side by side -/

theorem isLeast_gap (width : Nat) : IsLeast {gap | 1 ≤ gap ∧ 13 ≤ width + gap} (max (cellWidth - width) 1) := by
  constructor
  · show 1 ≤ max (13 - width) 1 ∧ 13 ≤ width + max (13 - width) 1
    omega
  · intro gap fits
    show max (13 - width) 1 ≤ gap
    have one := fits.1
    have column := fits.2
    omega

theorem SideBySide.ne_nil (beside : SideBySide current line) : current ≠ [] := by
  cases beside <;> exact List.cons_ne_nil _ _

/-- Another entry behind the last one. -/
theorem SideBySide.concat (beside : SideBySide current line) {last : Digraph} (isLast : last ∈ current.getLast?)
    (next : Digraph) :
    SideBySide (current ++ [next])
      (line ++ Text.blanks (max (cellWidth - (showEntry last).2) 1) ++ (showEntry next).1) := by
  induction beside with
  | last only =>
    cases isLast
    exact .before (isLeast_gap _) (.last next)
  | before least behind ih =>
    rw [List.getLast?_cons_cons] at isLast
    have further := SideBySide.before least (ih isLast)
    rwa [← String.append_assoc, ← String.append_assoc] at further

/-! ### The listing along its items -/

/-- A listing as far as it is written: `rows` are its finished lines, and `current` are the entries on the line
that is not finished. Whatever comes to that line, it may stand behind the finished ones. -/
structure Listing.Holds (listing : Listing) (rows : List ListingRow) (current : List Digraph) : Prop where
  finished : List.Forall₂ Shows rows listing.finished
  onLine : listing.onLine = current.length
  room : current.length ≤ 6
  line : if current = [] then listing.line = "" else SideBySide current listing.line
  lastWidth : ∀ last ∈ current.getLast?, listing.lastWidth = (showEntry last).2
  precedes : ∀ more, (rows ++ [ListingRow.entries more]).IsChain Precedes

namespace Listing.Holds

variable {listing : Listing}

theorem empty : Holds {} [] [] where
  finished := .nil
  onLine := rfl
  room := Nat.zero_le 6
  line := rfl
  lastWidth := by
    intro last isLast
    cases isLast
  precedes more := List.isChain_singleton _

theorem onLine_pos_iff (holds : listing.Holds rows current) : 0 < listing.onLine ↔ current ≠ [] := by
  rw [holds.onLine, List.length_pos_iff]

/-- The line that is not finished, as a finished one. -/
theorem shows_current (holds : listing.Holds rows current) (some : current ≠ []) :
    List.Forall₂ Shows (rows ++ [.entries current]) (listing.finished ++ [listing.line]) := by
  have line := holds.line
  rw [if_neg some] at line
  exact List.rel_append holds.finished (.cons ⟨holds.room, line⟩ .nil)

/-- A line with six entries is finished for the next one. -/
theorem breakLine (holds : listing.Holds rows current) (full : current.length = 6) :
    listing.breakLine.Holds (rows ++ [.entries current]) [] where
  finished := by
    apply holds.shows_current
    rintro rfl
    cases full
  onLine := rfl
  room := Nat.zero_le 6
  line := rfl
  lastWidth := by
    intro last isLast
    cases isLast
  precedes more := by
    apply List.isChain_append.mpr
    refine ⟨holds.precedes current, List.isChain_singleton _, ?_⟩
    intro row isLast next isNext
    rw [List.getLast?_concat] at isLast
    cases isLast
    cases isNext
    exact full

theorem addEntry (holds : listing.Holds rows current) (room : current.length < 6) (digraph : Digraph) :
    (listing.addEntry digraph).Holds rows (current ++ [digraph]) where
  finished := holds.finished
  onLine := by
    rw [List.length_append, ← holds.onLine]
    rfl
  room := by
    rw [List.length_append]
    exact room
  line := by
    have line := holds.line
    rw [if_neg (List.concat_ne_nil digraph current)]
    unfold Listing.addEntry
    by_cases none : current = []
    · have first : ¬0 < listing.onLine := mt holds.onLine_pos_iff.mp (not_not.mpr none)
      rw [if_pos none] at line
      rw [none, line]
      simp only [if_neg first, Text.blanks, List.replicate_zero, String.ofList_nil, String.empty_append,
        List.nil_append]
      exact .last digraph
    · have isLast := List.getLast?_eq_getLast_of_ne_nil none
      rw [if_neg none] at line
      simp only [if_pos (holds.onLine_pos_iff.mpr none), holds.lastWidth _ isLast]
      exact line.concat isLast digraph
  lastWidth := by
    intro last isLast
    rw [List.getLast?_concat] at isLast
    cases isLast
    rfl
  precedes := holds.precedes

/-- A heading finishes the line before it, if there are entries on it, and is a finished line itself. -/
theorem put_header (holds : listing.Holds rows current) (text : String) :
    (listing.put (.header text)).Holds
      (rows ++ (if current = [] then [] else [.entries current]) ++ [.heading text]) [] where
  finished := by
    have heading : List.Forall₂ Shows [.heading text] [text] := .cons rfl .nil
    unfold Listing.put
    by_cases none : current = []
    · rw [if_pos none, if_neg (mt holds.onLine_pos_iff.mp (not_not.mpr none)), List.append_nil]
      exact List.rel_append holds.finished heading
    · rw [if_neg none, if_pos (holds.onLine_pos_iff.mpr none)]
      exact List.rel_append (holds.shows_current none) heading
  onLine := by
    unfold Listing.put
    by_cases some : 0 < listing.onLine
    · rw [if_pos some]
      rfl
    · rw [if_neg some]
      exact Nat.eq_zero_of_not_pos some
  room := Nat.zero_le 6
  line := by
    unfold Listing.put
    by_cases none : current = []
    · have line := holds.line
      rw [if_pos none] at line
      rw [if_pos rfl, if_neg (mt holds.onLine_pos_iff.mp (not_not.mpr none))]
      exact line
    · rw [if_pos rfl, if_pos (holds.onLine_pos_iff.mpr none)]
      rfl
  lastWidth := by
    intro last isLast
    cases isLast
  precedes more := by
    apply List.isChain_append.mpr
    refine ⟨List.isChain_append.mpr ⟨?_, List.isChain_singleton _, ?_⟩, List.isChain_singleton _, ?_⟩
    · by_cases none : current = []
      · rw [if_pos none, List.append_nil]
        exact (List.isChain_append.mp (holds.precedes [])).1
      · rw [if_neg none]
        exact holds.precedes current
    · intro row isLast next isNext
      cases isNext
      cases row <;> trivial
    · intro row isLast next isNext
      rw [List.getLast?_concat] at isLast
      cases isLast
      trivial

/-- One item more comes behind all that are held. -/
theorem put (holds : listing.Holds rows current) (item : DigraphItem) :
    ∃ (rows' : List ListingRow) (current' : List Digraph), (listing.put item).Holds rows' current' ∧
      rows'.flatMap ListingRow.items ++ current'.map .entry =
        rows.flatMap ListingRow.items ++ current.map .entry ++ [item] := by
  cases item with
  | header text =>
    refine ⟨_, _, holds.put_header text, ?_⟩
    by_cases none : current = []
    · simp [none, ListingRow.items]
    · simp [none, ListingRow.items]
  | entry digraph =>
    unfold Listing.put
    by_cases full : current.length = 6
    · have onLine : listing.onLine = entriesPerLine := holds.onLine.trans full
      rw [if_pos onLine]
      refine ⟨_, _, (holds.breakLine full).addEntry (by decide) digraph, ?_⟩
      simp [ListingRow.items]
    · have onLine : listing.onLine ≠ entriesPerLine := fun same => full (holds.onLine.symm.trans same)
      rw [if_neg onLine]
      refine ⟨_, _, holds.addEntry (Nat.lt_of_le_of_ne holds.room full) digraph, ?_⟩
      simp

end Listing.Holds

theorem exists_holds (listed : List DigraphItem) :
    ∃ (rows : List ListingRow) (current : List Digraph), Listing.Holds (listed.foldl Listing.put {}) rows current ∧
      rows.flatMap ListingRow.items ++ current.map .entry = listed := by
  induction listed using List.reverseRecOn with
  | nil => exact ⟨[], [], .empty, rfl⟩
  | append_singleton front item ih =>
    obtain ⟨rows, current, holds, held⟩ := ih
    obtain ⟨rows', current', next, more⟩ := holds.put item
    rw [List.foldl_append]
    exact ⟨rows', current', next, more.trans (congrArg (· ++ [item]) held)⟩

/-- The lines that items are written to. -/
theorem exists_rows (listed : List DigraphItem) :
    ∃ rows : List ListingRow, rows.flatMap ListingRow.items = listed ∧
      List.Forall₂ Shows rows (listed.foldl Listing.put {}).lines ∧ rows.IsChain Precedes := by
  obtain ⟨rows, current, holds, held⟩ := exists_holds listed
  unfold Listing.lines
  by_cases none : current = []
  · refine ⟨rows, ?_, ?_, (List.isChain_append.mp (holds.precedes [])).1⟩
    · rwa [none, List.map_nil, List.append_nil] at held
    · rw [if_neg (mt holds.onLine_pos_iff.mp (not_not.mpr none))]
      exact holds.finished
  · refine ⟨rows ++ [.entries current], ?_, ?_, holds.precedes current⟩
    · rw [List.flatMap_append, List.flatMap_singleton]
      exact held
    · rw [if_pos (holds.onLine_pos_iff.mpr none)]
      exact holds.shows_current none

/-! ### What the lines are made of -/

/-- A line without a line feed in it that ends with something else than a blank. -/
def Neat (line : String) : Prop :=
  '\n' ∉ line.toList ∧ line.toList.getLast?.any (fun c => c != ' ' && c != '\t') = true

instance (line : String) : Decidable (Neat line) :=
  inferInstanceAs (Decidable (_ ∧ _))

/-- What may be listed without a line feed of its own. -/
def Writable : DigraphItem → Prop
  | .header text => Neat text
  | .entry digraph => digraph.first ≠ '\n' ∧ digraph.second ≠ '\n'

theorem Neat.append {front : String} (free : '\n' ∉ front.toList) (neat : Neat line) : Neat (front ++ line) := by
  obtain ⟨noFeed, ends⟩ := neat
  have some : line.toList ≠ [] := by
    intro none
    rw [none] at ends
    cases ends
  constructor
  · rw [String.toList_append, List.mem_append]
    exact not_or.mpr ⟨free, noFeed⟩
  · rwa [String.toList_append, List.getLast?_append_of_ne_nil _ some]

theorem newline_notMem_blanks (count : Nat) : '\n' ∉ (Text.blanks count).toList := by
  unfold Text.blanks
  rw [String.toList_ofList]
  intro member
  exact absurd (List.eq_of_mem_replicate member) (by decide)

theorem hexDigit_ne_newline {value : Nat} (small : value < 16) : hexDigit value ≠ '\n' :=
  (by decide : ∀ value < 16, hexDigit value ≠ '\n') value small

/-- Nothing is drawn with a line feed: control characters are drawn with a caret. -/
theorem newline_notMem_drawn (c : Char) : '\n' ∉ (drawn c).1.toList := by
  unfold drawn
  dsimp only
  by_cases control : c.toNat < 32
  · rw [if_pos control]
    have shifted : ∀ code < 32, '\n' ≠ Char.ofNat (code + 64) := by decide
    simp [Char.toString, shifted c.toNat control]
  · rw [if_neg control]
    have other : '\n' ≠ c := by
      rintro rfl
      exact control (by decide)
    split
    · decide
    · split
      · rename_i coded
        have small : c.toNat / 16 < 16 := by omega
        have low := Nat.mod_lt c.toNat (by decide : 16 > 0)
        simp [(hexDigit_ne_newline small).symm, (hexDigit_ne_newline low).symm]
      · split
        · simp [Char.toString, other]
        · split
          · simp [Char.toString, other]
          · simp [Char.toString, other]

theorem neat_number (width n : Nat) : Neat (Text.padLeft width (toString n)) := by
  unfold Text.padLeft
  apply Neat.append (newline_notMem_blanks _)
  have digits : (toString n).toList = Nat.toDigits 10 n := by
    rw [Nat.toString_eq_repr, Nat.repr, String.toList_ofList]
  constructor
  · rw [digits]
    intro member
    exact absurd (Number.isDigit_of_mem_toDigits member) (by decide)
  · rw [digits]
    have some : Nat.toDigits 10 n ≠ [] := Nat.toDigits_ne_nil
    rw [List.getLast?_eq_getLast_of_ne_nil some, Option.any_some]
    have isDigit := Number.isDigit_of_mem_toDigits (List.getLast_mem some)
    rw [Bool.and_eq_true, bne_iff_ne, bne_iff_ne]
    constructor <;> intro blank <;> rw [blank] at isDigit <;> exact absurd isDigit (by decide)

theorem neat_showEntry (writable : Writable (.entry digraph)) : Neat (showEntry digraph).1 := by
  obtain ⟨first, second⟩ := writable
  unfold showEntry
  dsimp only
  apply Neat.append _ (neat_number 3 _)
  simp only [String.toList_append, List.mem_append, not_or]
  refine ⟨⟨⟨⟨⟨?_, ?_⟩, by decide⟩, newline_notMem_drawn _⟩, newline_notMem_blanks _⟩, by decide⟩
  · simp [Char.toString, first.symm]
  · simp [Char.toString, second.symm]

theorem SideBySide.neat (beside : SideBySide current line)
    (writable : ∀ digraph ∈ current, Writable (.entry digraph)) : Neat line := by
  induction beside with
  | last only => exact neat_showEntry (writable only (List.mem_singleton_self only))
  | @before digraph next rest line gap least behind ih =>
    have further := ih fun other member => writable other (List.mem_cons_of_mem _ member)
    have free := (neat_showEntry (writable digraph List.mem_cons_self)).1
    apply Neat.append _ further
    rw [String.toList_append, List.mem_append]
    exact not_or.mpr ⟨free, newline_notMem_blanks gap⟩

theorem ListingRow.neat {row : ListingRow} (shows : row.Shows line)
    (writable : ∀ item ∈ row.items, Writable item) : Neat line := by
  cases row with
  | heading _ =>
    cases shows
    exact writable (.header line) (List.mem_singleton_self _)
  | entries digraphs =>
    apply shows.2.neat
    intro digraph member
    exact writable _ (List.mem_map_of_mem member)

theorem neat_of_shows {lines : List String} (shows : List.Forall₂ Shows rows lines)
    (writable : ∀ item ∈ rows.flatMap ListingRow.items, Writable item) : ∀ line ∈ lines, Neat line := by
  induction shows with
  | nil =>
    intro line member
    cases member
  | @cons row line rows lines shows rest ih =>
    rw [List.flatMap_cons] at writable
    intro other member
    rcases List.mem_cons.mp member with rfl | later
    · exact row.neat shows fun item held => writable item (List.mem_append_left _ held)
    · exact ih (fun item held => writable item (List.mem_append_right _ held)) other later

/-! ### The items of a session -/

theorem writable_headings : ∀ group ∈ digraphSections, ∀ text ∈ group.header?, Neat text := by
  decide +kernel

theorem writable_defaults :
    ∀ group ∈ digraphSections, ∀ entry ∈ group.entries, entry.1 ≠ '\n' ∧ entry.2.1 ≠ '\n' := by
  decide +kernel

theorem writable_group {header? : Option String} {listed : List Digraph} (headers : Bool)
    (heading : ∀ text ∈ header?, Neat text)
    (pairs : ∀ digraph ∈ listed, digraph.first ≠ '\n' ∧ digraph.second ≠ '\n') :
    ∀ item ∈ (if headers then (header?.map DigraphItem.header).toList else []) ++ listed.map .entry,
      Writable item := by
  intro item member
  rcases List.mem_append.mp member with isHeading | isEntry
  · split at isHeading
    · obtain ⟨text, isText, rfl⟩ := Option.map_eq_some_iff.mp (Option.mem_toList.mp isHeading)
      exact heading text isText
    · cases isHeading
  · obtain ⟨digraph, inList, rfl⟩ := List.mem_map.mp isEntry
    exact pairs digraph inList

theorem writable_given {group : DigraphSection} (member : group ∈ digraphSections) :
    ∀ digraph ∈ group.digraphs, digraph.first ≠ '\n' ∧ digraph.second ≠ '\n' := by
  intro digraph listed
  obtain ⟨⟨first, second, code⟩, isEntry, isDigraph⟩ := List.mem_filterMap.mp listed
  obtain ⟨char, -, rfl⟩ := Option.map_eq_some_iff.mp isDigraph
  exact writable_defaults group member _ isEntry

/-- Only the digraphs of the session can have line feeds in their pairs. -/
theorem writable_items {digraphs : Digraphs} (unbroken : ∀ digraph ∈ digraphs.custom,
    digraph.first ≠ '\n' ∧ digraph.second ≠ '\n') (headers : Bool) :
    ∀ item ∈ digraphs.items headers, Writable item := by
  intro item member
  rcases List.mem_append.mp member with given | own
  · obtain ⟨group, isGroup, inGroup⟩ := List.mem_flatMap.mp given
    exact writable_group headers (writable_headings group isGroup) (writable_given isGroup) item inGroup
  · apply writable_group headers _ unbroken item own
    intro text isText
    split at isText
    · cases isText
    · cases isText
      decide +kernel

theorem items_ne_nil (digraphs : Digraphs) (headers : Bool) : digraphs.items headers ≠ [] := by
  intro none
  have given := (List.append_eq_nil_iff.mp none).1
  have first := List.flatMap_eq_nil_iff.mp given ⟨Option.none, basicDigraphs⟩ List.mem_cons_self
  have entries := List.map_eq_nil_iff.mp (List.append_eq_nil_iff.mp first).2
  exact absurd entries (by decide +kernel)

/-- The listing, cut at its line feeds. Its lines hold the items, each once and in order: a heading alone, or
entries side by side, at most six, and six on a line that entries follow on the next one. No line is empty, and
none ends with a blank. -/
theorem listing_holds_items (digraphs : Digraphs) (headers : Bool)
    (unbroken : ∀ digraph ∈ digraphs.custom, digraph.first ≠ '\n' ∧ digraph.second ≠ '\n') :
    let lines := (Document.lines (digraphs.listing headers).toList).map String.ofList
    ∃ rows : List ListingRow,
      rows.flatMap ListingRow.items = digraphs.items headers ∧
      List.Forall₂ ListingRow.Shows rows lines ∧
      rows.IsChain ListingRow.Precedes ∧
      ∀ line ∈ lines, ∃ last, line.toList.getLast? = some last ∧ last ≠ ' ' ∧ last ≠ '\t' := by
  intro lines
  obtain ⟨rows, held, shows, chain⟩ := exists_rows (digraphs.items headers)
  have writable := writable_items unbroken headers
  rw [← held] at writable
  have neat := neat_of_shows shows writable
  have some : ((digraphs.items headers).foldl Listing.put {}).lines ≠ [] := by
    intro none
    rw [none] at shows
    cases shows
    exact digraphs.items_ne_nil headers held.symm
  have cut : lines = ((digraphs.items headers).foldl Listing.put {}).lines := by
    have free : ∀ line ∈ ((digraphs.items headers).foldl Listing.put {}).lines.map String.toList,
        '\n' ∉ line := by
      intro chars member
      obtain ⟨line, isLine, rfl⟩ := List.mem_map.mp member
      exact (neat line isLine).1
    have pieces := List.splitOn_intercalate '\n' free (List.map_eq_nil_iff.not.mpr some)
    have text : (digraphs.listing headers).toList =
        ['\n'].intercalate (((digraphs.items headers).foldl Listing.put {}).lines.map String.toList) := by
      unfold listing
      exact String.toList_intercalate
    show (Document.lines (digraphs.listing headers).toList).map String.ofList = _
    rw [Document.lines, Text.splitOn_eq, text, pieces, List.map_map]
    exact (List.map_congr_left fun line _ => String.ofList_toList).trans (List.map_id _)
  rw [cut]
  refine ⟨rows, held, shows, chain, ?_⟩
  intro line member
  obtain ⟨last, isLast, other⟩ := (Option.any_eq_true _ _).mp (neat line member).2
  rw [Bool.and_eq_true, bne_iff_ne, bne_iff_ne] at other
  exact ⟨last, isLast, other⟩

/-- Digraphs of the session, one of them for a line break, which is drawn with a caret. -/
theorem listing_holds_items_session :
    let digraphs := (({} : Digraphs).define ⟨'(', '0', '⓪'⟩).define ⟨'x', 'y', '\n'⟩
    let lines := (Document.lines (digraphs.listing true).toList).map String.ofList
    (∀ digraph ∈ digraphs.custom, digraph.first ≠ '\n' ∧ digraph.second ≠ '\n') ∧
      ∃ rows : List ListingRow,
        rows.flatMap ListingRow.items = digraphs.items true ∧ List.Forall₂ ListingRow.Shows rows lines := by
  intro digraphs lines
  have unbroken : ∀ digraph ∈ digraphs.custom, digraph.first ≠ '\n' ∧ digraph.second ≠ '\n' := by decide
  obtain ⟨rows, held, shows, -⟩ := digraphs.listing_holds_items true unbroken
  exact ⟨unbroken, rows, held, shows⟩

end Digraphs

end ModalEdit

import ModalEdit.Options.GuiCursor

/-!
The look of the cursor in a mode. A bar in the text of an entry sets shape and thickness, `block` the shape
alone, and each is what the last argument says that sets it. Of the entries that count in a mode the last
decides shape and thickness, whether or not its text says anything of them. The highlights and the blinking
are those of the last entry that has any.
-/

set_option autoImplicit false

namespace ModalEdit

/-- What an argument of an entry says of the cursor's shape: that it is a block, or a bar of a percentage
of its cell. -/
inductive ShapeArgument where
  | block
  | vertical (percent : Nat)
  | horizontal (percent : Nat)
deriving DecidableEq, Inhabited

namespace ShapeArgument

def shape : ShapeArgument → CursorShape
  | block => .block
  | vertical _ => .vertical
  | horizontal _ => .horizontal

/-- The percentage of a bar. -/
def percent? : ShapeArgument → Option Nat
  | block => none
  | vertical percent | horizontal percent => some percent

/-- A percentage from 1 to 100. -/
def readPercent? (digits : List Char) : Option Nat :=
  (Number.parseInteger? digits).bind fun value =>
    if 1 ≤ value ∧ value ≤ 100 then some value.toNatClampNeg else none

/-- What an argument says of the shape, if anything. -/
def read? (argument : List Char) : Option ShapeArgument :=
  if argument = "block".toList then some block
  else
    match Text.strip? "ver".toList argument, Text.strip? "hor".toList argument with
    | some digits, _ => (readPercent? digits).map vertical
    | none, some digits => (readPercent? digits).map horizontal
    | none, none => none

theorem readPercent?_of_parseThickness {token : String} {digits : List Char} {percent : Nat}
    (read : CursorEntry.parseThickness token digits = .ok percent) :
    readPercent? digits = some percent := by
  unfold CursorEntry.parseThickness at read
  unfold readPercent?
  split at read
  · cases read
  · rename_i value isNumber
    rw [isNumber, Option.bind_some]
    split at read
    · rename_i inRange
      cases read
      exact if_pos inRange
    · cases read

theorem range_of_readPercent? {digits : List Char} {percent : Nat}
    (read : readPercent? digits = some percent) : 1 ≤ percent ∧ percent ≤ 100 := by
  obtain ⟨value, -, inRange⟩ := Option.bind_eq_some_iff.mp read
  split at inRange
  · rename_i bounds
    cases inRange
    have lower : (1 : Int64).toInt ≤ value.toInt := Int64.le_iff_toInt_le.mp bounds.1
    have upper : value.toInt ≤ (100 : Int64).toInt := Int64.le_iff_toInt_le.mp bounds.2
    have one : (1 : Int64).toInt = 1 := by decide
    have hundred : (100 : Int64).toInt = 100 := by decide
    show 1 ≤ value.toInt.toNat ∧ value.toInt.toNat ≤ 100
    omega
  · cases inRange

theorem range_of_read? {argument : List Char} {said : ShapeArgument} {percent : Nat}
    (read : read? argument = some said) (bar : said.percent? = some percent) :
    1 ≤ percent ∧ percent ≤ 100 := by
  unfold read? at read
  split at read
  · cases read
    cases bar
  · split at read
    · obtain ⟨_, isPercent, rfl⟩ := Option.map_eq_some_iff.mp read
      cases bar
      exact range_of_readPercent? isPercent
    · obtain ⟨_, isPercent, rfl⟩ := Option.map_eq_some_iff.mp read
      cases bar
      exact range_of_readPercent? isPercent
    · cases read

theorem percent?_eq_none_iff {said : ShapeArgument} : said.percent? = none ↔ said = block := by
  cases said <;> simp [percent?]

theorem shape_eq_block_iff {said : ShapeArgument} : said.shape = .block ↔ said = block := by
  cases said <;> simp [shape]

end ShapeArgument

namespace CursorEntry

/-- The arguments in the text of an entry: what stands behind its colon, cut at the dashes. -/
def arguments (text : List Char) : List (List Char) :=
  match Text.splitOn ':' text with
  | [_, arguments] => Text.splitOn '-' arguments
  | _ => []

/-- What the text of an entry says of the shape, in order. -/
def shapeArguments (entry : CursorEntry) : List ShapeArgument :=
  (arguments entry.token.toList).filterMap ShapeArgument.read?

/-- Whether the text of an entry names a bar, and `block` behind all its bars. -/
def BlockBehindBar (entry : CursorEntry) : Prop :=
  entry.shapeArguments.getLast? = some .block ∧
    ∃ argument ∈ entry.shapeArguments, argument ≠ .block

instance (entry : CursorEntry) : Decidable entry.BlockBehindBar :=
  inferInstanceAs (Decidable (_ ∧ _))

variable {entry : CursorEntry} {text : List Char}

/-- An entry keeps the text that it was read from, and its look is what the arguments lead to. -/
theorem of_parse (read : parse text = .ok entry) :
    entry.token = String.ofList text ∧
      (arguments text).foldlM (applyArgument entry.token) {} = .ok entry.look := by
  unfold parse at read
  unfold arguments
  dsimp only at read
  split at read
  · rename_i modeNames arguments parts
    rw [parts]
    cases modes : (Text.splitOn '-' modeNames).foldlM (applyModeName (String.ofList text)) {} with
    | error error =>
      rw [modes] at read
      cases read
    | ok modes' =>
      cases look : (Text.splitOn '-' arguments).foldlM (applyArgument (String.ofList text)) {} with
      | error error =>
        rw [modes, look] at read
        cases read
      | ok look' =>
        rw [modes, look] at read
        cases read
        exact ⟨rfl, look⟩
  · cases read
  · cases read
  · cases read

theorem token_of_parse (read : parse text = .ok entry) : entry.token = String.ofList text :=
  (of_parse read).1

/-- A bar has a percentage behind its name. -/
theorem exists_of_bar {token : String} {digits : List Char} {look after : CursorLook} {shape : CursorShape}
    (applied : (do return { look with shape, thickness := ← parseThickness token digits }) =
      Except.ok after) :
    ∃ percent, ShapeArgument.readPercent? digits = some percent ∧
      after = { look with shape, thickness := percent } := by
  cases thickness : parseThickness token digits with
  | error error =>
    rw [thickness] at applied
    cases applied
  | ok percent =>
    rw [thickness] at applied
    cases applied
    exact ⟨percent, ShapeArgument.readPercent?_of_parseThickness thickness, rfl⟩

/-- An argument that names a bar sets shape and thickness, `block` the shape alone, and any other neither. -/
theorem applyArgument_shape {token : String} {look after : CursorLook} {argument : List Char}
    (applied : applyArgument token look argument = .ok after) :
    after.shape = ((ShapeArgument.read? argument).map (·.shape)).getD look.shape ∧
      after.thickness = ((ShapeArgument.read? argument).bind (·.percent?)).getD look.thickness := by
  unfold applyArgument at applied
  unfold ShapeArgument.read?
  by_cases isBlock : argument = "block".toList
  · rw [if_pos isBlock] at applied ⊢
    cases applied
    exact ⟨rfl, rfl⟩
  · rw [if_neg isBlock] at applied ⊢
    cases vertical : Text.strip? "ver".toList argument with
    | some digits =>
      rw [vertical] at applied
      obtain ⟨percent, read, rfl⟩ := exists_of_bar applied
      dsimp only
      rw [read]
      exact ⟨rfl, rfl⟩
    | none =>
      cases horizontal : Text.strip? "hor".toList argument with
      | some digits =>
        rw [vertical, horizontal] at applied
        obtain ⟨percent, read, rfl⟩ := exists_of_bar applied
        dsimp only
        rw [read]
        exact ⟨rfl, rfl⟩
      | none =>
        rw [vertical, horizontal] at applied
        dsimp only at applied ⊢
        split at applied
        · cases applied
          exact ⟨rfl, rfl⟩
        · split at applied <;> cases applied <;> exact ⟨rfl, rfl⟩

/-- By induction on the arguments: the last that sets the shape decides it, and so for the thickness. -/
theorem foldlM_applyArgument_shape {token : String} {look after : CursorLook}
    {arguments : List (List Char)} (applied : arguments.foldlM (applyArgument token) look = .ok after) :
    let said := arguments.filterMap ShapeArgument.read?
    after.shape = (said.getLast?.map (·.shape)).getD look.shape ∧
      after.thickness = (said.filterMap (·.percent?)).getLast?.getD look.thickness := by
  induction arguments generalizing look with
  | nil =>
    cases applied
    exact ⟨rfl, rfl⟩
  | cons argument rest ih =>
    rw [List.foldlM_cons] at applied
    cases first : applyArgument token look argument with
    | error error =>
      rw [first] at applied
      cases applied
    | ok next =>
      rw [first] at applied
      obtain ⟨shape, thickness⟩ := ih applied
      obtain ⟨firstShape, firstThickness⟩ := applyArgument_shape first
      rw [firstShape] at shape
      rw [firstThickness] at thickness
      rw [List.filterMap_cons]
      cases said : ShapeArgument.read? argument with
      | none =>
        rw [said] at shape thickness
        exact ⟨shape, thickness⟩
      | some known =>
        rw [said] at shape thickness
        constructor
        · rw [shape, List.getLast?_cons]
          cases (rest.filterMap ShapeArgument.read?).getLast? <;> rfl
        · rw [thickness, List.filterMap_cons]
          cases isBar : known.percent? with
          | none => rw [Option.bind_some, isBar]; rfl
          | some percent =>
            rw [Option.bind_some, isBar, Option.getD_some]
            dsimp only
            rw [List.getLast?_cons, Option.getD_some]

/-- What the text of an accepted entry leads to. -/
theorem shape_of_parse (read : parse text = .ok entry) :
    entry.look.shape = (entry.shapeArguments.getLast?.map (·.shape)).getD .block ∧
      entry.look.thickness = (entry.shapeArguments.filterMap (·.percent?)).getLast?.getD 0 := by
  obtain ⟨token, applied⟩ := of_parse read
  unfold shapeArguments
  rw [token, String.toList_ofList]
  exact foldlM_applyArgument_shape applied

theorem range_of_mem_shapeArguments {argument : ShapeArgument} {percent : Nat}
    (member : argument ∈ entry.shapeArguments) (bar : argument.percent? = some percent) :
    1 ≤ percent ∧ percent ≤ 100 := by
  obtain ⟨_, -, read⟩ := List.mem_filterMap.mp member
  exact ShapeArgument.range_of_read? read bar

/-- A bar that nothing follows decides shape and thickness. -/
theorem look_of_bar {argument : ShapeArgument} {percent : Nat} (read : parse text = .ok entry)
    (last : entry.shapeArguments.getLast? = some argument) (bar : argument.percent? = some percent) :
    entry.look.shape = argument.shape ∧ entry.look.thickness = percent := by
  obtain ⟨shape, thickness⟩ := shape_of_parse read
  obtain ⟨before, whole⟩ := List.getLast?_eq_some_iff.mp last
  constructor
  · rw [shape, last]
    rfl
  · rw [thickness, whole, List.filterMap_append, List.filterMap_cons, bar]
    exact congrArg (Option.getD · 0) List.getLast?_concat

/-- Without bars there is no thickness. -/
theorem thickness_of_parse (read : parse text = .ok entry) : entry.look.thickness ≤ 100 ∧
    (entry.look.thickness = 0 ↔ ∀ argument ∈ entry.shapeArguments, argument = .block) := by
  have noBar : entry.shapeArguments.filterMap (·.percent?) = [] ↔
      ∀ argument ∈ entry.shapeArguments, argument = .block := by
    rw [List.filterMap_eq_nil_iff]
    exact forall₂_congr fun _ _ => ShapeArgument.percent?_eq_none_iff
  rw [(shape_of_parse read).2, ← noBar]
  cases last : (entry.shapeArguments.filterMap (·.percent?)).getLast? with
  | none => exact ⟨Nat.zero_le _, iff_of_true rfl (List.getLast?_eq_none_iff.mp last)⟩
  | some percent =>
    have member := List.mem_of_getLast? last
    obtain ⟨argument, among, bar⟩ := List.mem_filterMap.mp member
    obtain ⟨lower, upper⟩ := range_of_mem_shapeArguments among bar
    refine ⟨upper, iff_of_false ?_ (List.ne_nil_of_mem member)⟩
    exact Nat.ne_of_gt lower

end CursorEntry

/-- Whether the thickness suits the shape: none for a block, and a percentage for a bar. -/
def CursorLook.Fits (look : CursorLook) : Prop :=
  (look.shape = .block → look.thickness = 0) ∧
    (look.shape ≠ .block → 1 ≤ look.thickness ∧ look.thickness ≤ 100)

instance (look : CursorLook) : Decidable look.Fits :=
  inferInstanceAs (Decidable (_ ∧ _))

/-- The thickness of a bar stays with a block behind it, and nothing else goes wrong. -/
theorem CursorEntry.fits_iff_of_parse {entry : CursorEntry} {text : List Char}
    (read : parse text = .ok entry) : entry.look.Fits ↔ ¬ entry.BlockBehindBar := by
  have shape := (shape_of_parse read).1
  have noBar := (thickness_of_parse read).2
  cases last : entry.shapeArguments.getLast? with
  | none =>
    have isBlock : entry.look.shape = .block := by
      rw [shape, last]
      rfl
    have zero : entry.look.thickness = 0 := by
      rw [noBar, List.getLast?_eq_none_iff.mp last]
      exact nofun
    refine iff_of_true ⟨fun _ => zero, fun other => absurd isBlock other⟩ ?_
    rintro ⟨behind, -⟩
    rw [last] at behind
    cases behind
  | some argument =>
    cases bar : argument.percent? with
    | none =>
      obtain rfl : argument = .block := ShapeArgument.percent?_eq_none_iff.mp bar
      have isBlock : entry.look.shape = .block := by
        rw [shape, last]
        rfl
      have flat : ¬ entry.BlockBehindBar ↔ ∀ argument ∈ entry.shapeArguments, argument = .block := by
        unfold BlockBehindBar
        simp only [last, true_and, not_exists, not_and, ne_eq, Decidable.not_not]
      rw [flat, ← noBar]
      exact ⟨fun fits => fits.1 isBlock, fun zero => ⟨fun _ => zero, fun other => absurd isBlock other⟩⟩
    | some percent =>
      obtain ⟨isShape, isThickness⟩ := look_of_bar read last bar
      have notBlock : argument ≠ .block := by
        rintro rfl
        cases bar
      have range := range_of_mem_shapeArguments (List.mem_of_getLast? last) bar
      rw [← isThickness] at range
      refine iff_of_true ⟨fun isBlock => ?_, fun _ => range⟩ ?_
      · rw [isShape] at isBlock
        exact absurd (ShapeArgument.shape_eq_block_iff.mp isBlock) notBlock
      · rintro ⟨behind, -⟩
        rw [last] at behind
        exact notBlock (Option.some.inj behind)

namespace CursorLook

/-- Where each entry that has something of its own to say decides a field, the last such entry does. -/
theorem foldl_overlay {α : Type} {field : CursorLook → α} {decides : CursorEntry → Bool}
    (step : ∀ look entry,
      field (overlay look entry) = if decides entry then field entry.look else field look)
    (entries : List CursorEntry) (look : CursorLook) :
    field (entries.foldl overlay look) =
      ((entries.filter decides).getLast?.map fun entry => field entry.look).getD (field look) := by
  induction entries generalizing look with
  | nil => rfl
  | cons entry rest ih =>
    rw [List.foldl_cons, ih, step, List.filter_cons]
    cases decides entry with
    | false => rfl
    | true =>
      simp only [if_true, List.getLast?_cons, Option.map_some, Option.getD_some]
      cases (rest.filter decides).getLast? <;> rfl

variable {entries : List CursorEntry} {mode : CursorMode}

/-- The last entry that counts decides shape and thickness. -/
theorem shape_ofEntries (entries : List CursorEntry) (mode : CursorMode) :
    let last? := (entries.filter (·.modes.applyTo mode)).getLast?
    (ofEntries entries mode).shape = (last?.map (·.look.shape)).getD .block ∧
      (ofEntries entries mode).thickness = (last?.map (·.look.thickness)).getD 0 := by
  have all (entries : List CursorEntry) : entries.filter (fun _ => true) = entries :=
    List.filter_eq_self.mpr fun _ _ => rfl
  have shape := @foldl_overlay _ (·.shape) (fun _ => true) fun _ _ => rfl
  have thickness := @foldl_overlay _ (·.thickness) (fun _ => true) fun _ _ => rfl
  simp only [all] at shape thickness
  exact ⟨shape _ {}, thickness _ {}⟩

/-- The highlights and the blinking are those of the last entry that has any. -/
theorem highlights_ofEntries (entries : List CursorEntry) (mode : CursorMode) :
    let counting := entries.filter (·.modes.applyTo mode)
    let look := ofEntries entries mode
    look.highlight =
        ((counting.filter (·.look.highlight ≠ "")).getLast?.map (·.look.highlight)).getD "" ∧
      look.languageHighlight = ((counting.filter (·.look.languageHighlight ≠ "")).getLast?.map
        (·.look.languageHighlight)).getD "" ∧
      look.blink = ((counting.filter (·.look.blink ≠ [])).getLast?.map (·.look.blink)).getD [] := by
  intro counting look
  refine ⟨foldl_overlay ?_ counting {}, foldl_overlay ?_ counting {}, foldl_overlay ?_ counting {}⟩
  · intro look entry
    by_cases empty : entry.look.highlight = "" <;> simp [overlay, empty]
  · intro look entry
    by_cases empty : entry.look.languageHighlight = "" <;> simp [overlay, empty]
  · intro look entry
    by_cases empty : entry.look.blink = [] <;> simp [overlay, empty]

/-- The look in a mode, by the accepted entries that count in it. The last of them decides shape and
thickness: the shape is what its last argument on the shape says, and the thickness too if that is a bar. With
no bar in its text, and also with nothing on the shape at all, it makes a block without thickness, and so do no
entries. The highlights and the blinking are each those of the last entry that has any. -/
theorem last_entry_decides (accepted : ∀ entry ∈ entries, ∃ text, CursorEntry.parse text = .ok entry)
    (mode : CursorMode) :
    let counting := entries.filter (·.modes.applyTo mode)
    let look := ofEntries entries mode
    (∀ last, counting.getLast? = some last →
      (∀ argument, last.shapeArguments.getLast? = some argument → look.shape = argument.shape ∧
        ∀ percent, argument.percent? = some percent → look.thickness = percent) ∧
      ((∀ argument ∈ last.shapeArguments, argument = .block) →
        look.shape = .block ∧ look.thickness = 0)) ∧
    (counting = [] → look.shape = .block ∧ look.thickness = 0) ∧
    look.highlight =
      ((counting.filter (·.look.highlight ≠ "")).getLast?.map (·.look.highlight)).getD "" ∧
    look.languageHighlight = ((counting.filter (·.look.languageHighlight ≠ "")).getLast?.map
      (·.look.languageHighlight)).getD "" ∧
    look.blink = ((counting.filter (·.look.blink ≠ [])).getLast?.map (·.look.blink)).getD [] := by
  intro counting look
  obtain ⟨shape, thickness⟩ := shape_ofEntries entries mode
  refine ⟨fun last isLast => ?_, fun none => ?_, highlights_ofEntries entries mode⟩
  · rw [isLast] at shape thickness
    obtain ⟨text, read⟩ := accepted last (List.mem_filter.mp (List.mem_of_getLast? isLast)).1
    have isShape := (CursorEntry.shape_of_parse read).1
    constructor
    · intro argument isArgument
      rw [isArgument] at isShape
      refine ⟨shape.trans isShape, fun percent bar => thickness.trans ?_⟩
      exact (CursorEntry.look_of_bar read isArgument bar).2
    · intro noBar
      refine ⟨shape.trans ?_, thickness.trans ((CursorEntry.thickness_of_parse read).2.mpr noBar)⟩
      cases isArgument : last.shapeArguments.getLast? with
      | none =>
        rw [isArgument] at isShape
        exact isShape
      | some argument =>
        rw [isArgument, noBar argument (List.mem_of_getLast? isArgument)] at isShape
        exact isShape
  · have noLast : counting.getLast? = Option.none := List.getLast?_eq_none_iff.mpr none
    rw [noLast] at shape thickness
    exact ⟨shape, thickness⟩

/-- A highlight of an earlier entry stays with the shape of a later one. -/
theorem last_entry_decides_bar :
    let first : CursorEntry :=
      ⟨"n-v:hor10-Cursor/lCursor", { modes := [.normal, .visual] },
        { shape := .horizontal, thickness := 10, highlight := "Cursor", languageHighlight := "lCursor" }⟩
    let second : CursorEntry :=
      ⟨"a:block-ver30-blinkon5", { all := true },
        { shape := .vertical, thickness := 30, blink := ["blinkon5"] }⟩
    (∀ entry ∈ [first, second], ∃ text, CursorEntry.parse text = .ok entry) ∧
      ofEntries [first, second] .normal =
        { shape := .vertical, thickness := 30, highlight := "Cursor", languageHighlight := "lCursor",
          blink := ["blinkon5"] } := by
  intro first second
  have readFirst : CursorEntry.parse "n-v:hor10-Cursor/lCursor".toList = .ok first := rfl
  have readSecond : CursorEntry.parse "a:block-ver30-blinkon5".toList = .ok second := rfl
  have accepted : ∀ entry ∈ [first, second], ∃ text, CursorEntry.parse text = .ok entry :=
    List.forall_mem_cons.mpr ⟨⟨_, readFirst⟩, List.forall_mem_singleton.mpr ⟨_, readSecond⟩⟩
  obtain ⟨decides, -, highlight, language, blink⟩ := last_entry_decides accepted .normal
  have said : second.shapeArguments.getLast? = some (.vertical 30) := by decide +kernel
  obtain ⟨shape, thickness⟩ := (decides second rfl).1 (.vertical 30) said
  refine ⟨accepted, ?_⟩
  generalize ofEntries [first, second] .normal = look at *
  obtain ⟨_, _, _, _, _⟩ := look
  simp only [CursorLook.mk.injEq]
  exact ⟨shape, thickness 30 rfl, highlight, language, blink⟩

/-- An entry without a word on the shape takes the bar of an earlier entry away. -/
theorem bar_lost_behind_highlight :
    let bar : CursorEntry := ⟨"a:ver25", { all := true }, { shape := .vertical, thickness := 25 }⟩
    let named : CursorEntry := ⟨"a:Cursor", { all := true }, { highlight := "Cursor" }⟩
    CursorEntry.parse "a:ver25".toList = .ok bar ∧ CursorEntry.parse "a:Cursor".toList = .ok named ∧
      bar.shapeArguments = [.vertical 25] ∧ named.shapeArguments = [] ∧
      ¬((ofEntries [bar, named] .normal).shape = .vertical ∧
        (ofEntries [bar, named] .normal).thickness = 25) ∧
      ofEntries [bar, named] .normal ≠ { ofEntries [bar] .normal with highlight := "Cursor" } := by
  refine ⟨rfl, rfl, ?_, ?_, ?_, ?_⟩ <;> decide +kernel

theorem fits_ofEntries (accepted : ∀ entry ∈ entries, ∃ text, CursorEntry.parse text = .ok entry) :
    (ofEntries entries mode).thickness ≤ 100 ∧ ((ofEntries entries mode).Fits ↔
      ∀ last, (entries.filter (·.modes.applyTo mode)).getLast? = some last → ¬ last.BlockBehindBar) := by
  obtain ⟨shape, thickness⟩ := shape_ofEntries entries mode
  cases isLast : (entries.filter (·.modes.applyTo mode)).getLast? with
  | none =>
    rw [isLast] at shape thickness
    rw [thickness]
    refine ⟨Nat.zero_le _, iff_of_true ⟨fun _ => thickness, fun other => absurd shape other⟩ nofun⟩
  | some last =>
    rw [isLast] at shape thickness
    have member := (List.mem_filter.mp (List.mem_of_getLast? isLast)).1
    obtain ⟨text, read⟩ := accepted last member
    have same : (ofEntries entries mode).Fits ↔ last.look.Fits := by
      unfold Fits
      rw [shape, thickness]
      rfl
    rw [thickness, same, CursorEntry.fits_iff_of_parse read]
    refine ⟨(CursorEntry.thickness_of_parse read).1, ?_⟩
    simp only [Option.some.injEq, forall_eq']

/-- The thickness of the cursor is at most 100 in every accepted entry and in every mode. It suits the shape,
none for a block and at least 1 for a bar, just if the text that decides does not name `block` behind a bar:
the text of the entry itself, and in a mode that of the last entry that counts. -/
theorem thickness_fits_iff (accepted : ∀ entry ∈ entries, ∃ text, CursorEntry.parse text = .ok entry)
    (mode : CursorMode) :
    (∀ entry ∈ entries, entry.look.thickness ≤ 100 ∧ (entry.look.Fits ↔ ¬ entry.BlockBehindBar)) ∧
    (ofEntries entries mode).thickness ≤ 100 ∧ ((ofEntries entries mode).Fits ↔
      ∀ last, (entries.filter (·.modes.applyTo mode)).getLast? = some last → ¬ last.BlockBehindBar) := by
  refine ⟨fun entry member => ?_, fits_ofEntries accepted⟩
  obtain ⟨text, read⟩ := accepted entry member
  exact ⟨(CursorEntry.thickness_of_parse read).1, CursorEntry.fits_iff_of_parse read⟩

/-- `ver25-block` gives a block the thickness of the bar, and `block-ver25` is a bar. -/
theorem thickness_fits_iff_block :
    let flat : CursorEntry := ⟨"i:ver25-block", { modes := [.insert] }, { thickness := 25 }⟩
    let bar : CursorEntry :=
      ⟨"n:block-ver25", { modes := [.normal] }, { shape := .vertical, thickness := 25 }⟩
    (∀ entry ∈ [bar, flat], ∃ text, CursorEntry.parse text = .ok entry) ∧
      bar.look.Fits ∧ ¬ flat.look.Fits ∧ (ofEntries [bar, flat] .normal).Fits ∧
      ¬ (ofEntries [bar, flat] .insert).Fits := by
  intro flat bar
  have readFlat : CursorEntry.parse "i:ver25-block".toList = .ok flat := rfl
  have readBar : CursorEntry.parse "n:block-ver25".toList = .ok bar := rfl
  have accepted : ∀ entry ∈ [bar, flat], ∃ text, CursorEntry.parse text = .ok entry :=
    List.forall_mem_cons.mpr ⟨⟨_, readBar⟩, List.forall_mem_singleton.mpr ⟨_, readFlat⟩⟩
  have isFlat : flat.BlockBehindBar := by decide +kernel
  have notFlat : ¬ bar.BlockBehindBar := by decide +kernel
  obtain ⟨entries, -, normal⟩ := thickness_fits_iff accepted .normal
  obtain ⟨-, -, insert⟩ := thickness_fits_iff accepted .insert
  refine ⟨accepted, ?_, ?_, ?_, ?_⟩
  · exact (entries bar List.mem_cons_self).2.mpr notFlat
  · exact fun fits => (entries flat (by simp)).2.mp fits isFlat
  · refine normal.mpr fun last isLast => ?_
    cases isLast
    exact notFlat
  · exact fun fits => insert.mp fits flat rfl isFlat

end CursorLook

end ModalEdit

import ModalEdit.Caret

/-!
The carets of a window. One of them is the primary one, so there is always at least one.
-/

set_option autoImplicit false

namespace ModalEdit

/-- Carets in their order, with the primary one between those before and after it. -/
structure CaretSet where
  before : List Caret := []
  primary : Caret
  after : List Caret := []
deriving DecidableEq, Inhabited

namespace CaretSet

/-- One caret. -/
def single (caret : Caret) : CaretSet where
  primary := caret

def toList (carets : CaretSet) : List Caret :=
  carets.before ++ carets.primary :: carets.after

def size (carets : CaretSet) : Nat :=
  carets.toList.length

/-- The place of the primary caret in the list. -/
def primaryIndex (carets : CaretSet) : Nat :=
  carets.before.length

def get? (carets : CaretSet) (index : Nat) : Option Caret :=
  carets.toList[index]?

/-- The offset of a caret; zero when there is no such caret. -/
def offsetAt (carets : CaretSet) (index : Nat) : Nat :=
  ((carets.get? index).map Caret.offset).getD 0

/-- The carets with every one of them changed. -/
def map (f : Caret → Caret) (carets : CaretSet) : CaretSet :=
  ⟨carets.before.map f, f carets.primary, carets.after.map f⟩

/-- The carets with one of them changed. -/
def modify (carets : CaretSet) (index : Nat) (f : Caret → Caret) : CaretSet :=
  let first := carets.before.length
  if index < first then { carets with before := carets.before.modify index f }
  else if index = first then { carets with primary := f carets.primary }
  else { carets with after := carets.after.modify (index - first - 1) f }

/-- The carets with the primary one changed. -/
def modifyPrimary (carets : CaretSet) (f : Caret → Caret) : CaretSet :=
  { carets with primary := f carets.primary }

/-- The carets with one more at the end. -/
def add (carets : CaretSet) (caret : Caret) : CaretSet :=
  { carets with after := carets.after ++ [caret] }

/-- The primary caret alone. -/
def retainPrimary (carets : CaretSet) : CaretSet :=
  single carets.primary

/-- Puts a caret into a list in order of offset. It takes the place of one with its offset. -/
def insertByOffset (caret : Caret) : List Caret → List Caret
  | [] => [caret]
  | other :: rest =>
    if caret.offset < other.offset then caret :: other :: rest
    else if caret.offset = other.offset then caret :: rest
    else other :: insertByOffset caret rest

/-- One caret for each offset, in order of offset: the first of those that share one. -/
def distinctByOffset (carets : List Caret) : List Caret :=
  carets.foldr insertByOffset []

/-- The carets in order of offset, one for each. The caret at the offset of the primary one is the
new primary one. -/
def merge (carets : CaretSet) : CaretSet :=
  let sorted := distinctByOffset carets.toList
  let isBefore := fun caret : Caret => caret.offset != carets.primary.offset
  match sorted.dropWhile isBefore with
  | primary :: after => ⟨sorted.takeWhile isBefore, primary, after⟩
  | [] => carets

/-- Puts the number of a caret into a list in order of falling offset, in front of those that
share its offset. -/
def insertDescending (entry : Nat × Nat) : List (Nat × Nat) → List (Nat × Nat)
  | [] => [entry]
  | other :: rest =>
    if entry.2 < other.2 then other :: insertDescending entry rest else entry :: other :: rest

/-- Numbers of the carets in order of falling offset. An edit at one of them leaves the carets
that follow in this order where they are. -/
def descending (carets : CaretSet) : List Nat :=
  let entries := carets.toList.zipIdx.map fun (caret, index) => (index, caret.offset)
  (entries.foldr insertDescending []).map Prod.fst

theorem toList_ne_nil (carets : CaretSet) : carets.toList ≠ [] := by
  simp [toList]

theorem toList_map (f : Caret → Caret) (carets : CaretSet) :
    (carets.map f).toList = carets.toList.map f := by
  simp [toList, map]

theorem toList_add (carets : CaretSet) (caret : Caret) :
    (carets.add caret).toList = carets.toList ++ [caret] := by
  simp [toList, add]

theorem toList_retainPrimary (carets : CaretSet) :
    carets.retainPrimary.toList = [carets.primary] := rfl

theorem modify_append_left {before : List Caret} {index : Nat} (h : index < before.length)
    (rest : List Caret) (f : Caret → Caret) :
    (before ++ rest).modify index f = before.modify index f ++ rest := by
  induction before generalizing index with
  | nil => simp at h
  | cons caret before ih =>
    cases index with
    | zero => simp
    | succ index => simpa using ih (by simpa using h)

theorem modify_append_right (before rest : List Caret) (index : Nat) (f : Caret → Caret) :
    (before ++ rest).modify (before.length + index) f = before ++ rest.modify index f := by
  induction before with
  | nil => simp
  | cons caret before ih => simpa [Nat.add_right_comm] using ih

theorem toList_modify (carets : CaretSet) (index : Nat) (f : Caret → Caret) :
    (carets.modify index f).toList = carets.toList.modify index f := by
  simp only [modify, toList]
  split
  · exact (modify_append_left (by assumption) _ f).symm
  · split
    · subst index
      exact (modify_append_right carets.before (carets.primary :: carets.after) 0 f).symm
    · obtain ⟨rest, rfl⟩ : ∃ rest, index = carets.before.length + (rest + 1) :=
        ⟨index - carets.before.length - 1, by omega⟩
      have place : carets.before.length + (rest + 1) - carets.before.length - 1 = rest := by omega
      simp only [modify_append_right, place, List.modify_succ_cons]

end CaretSet

end ModalEdit

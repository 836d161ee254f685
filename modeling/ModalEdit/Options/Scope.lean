/-!
Which of an option's two values a reading or a write means.
-/

set_option autoImplicit false

namespace ModalEdit

/-- The global value, the local value, or both: reading both means the local one if there is
one. -/
inductive Scope where
  | global
  | «local»
  | both
deriving DecidableEq, Inhabited

/-- The scope written in front of an option name, and the name. -/
def Scope.splitName : List Char → Scope × List Char
  | 'l' :: ':' :: name => (.local, name)
  | 'g' :: ':' :: name => (.global, name)
  | name => (.both, name)

theorem Scope.length_splitName (text : List Char) :
    (splitName text).2.length ≤ text.length := by
  unfold splitName
  split <;> simp <;> omega

end ModalEdit

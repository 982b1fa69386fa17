import LintMend.Text.Basic

/-! # JSON values

The values that a JSON text describes. Numbers are kept as they are written. -/

namespace LintMend

/-- A JSON value. -/
inductive Json
  | null
  | bool (value : Bool)
  /-- A number, as it is written. -/
  | number (literal : Text)
  | text (value : Text)
  | list (items : List Json)
  /-- The members of a record, in order; a name may occur more than once. -/
  | record (members : List (Text × Json))

namespace Json

/-- The member of that name: the last one that there is. -/
def member? (name : Text) : List (Text × Json) → Option Json
  | [] => none
  | (found, value) :: others =>
      match member? name others with
      | some last => some last
      | none => if found = name then some value else none

@[simp] theorem member?_nil (name : Text) : member? name [] = none := rfl

end Json

end LintMend

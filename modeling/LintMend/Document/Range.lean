import LintMend.Field

/-! # Ranges

A stretch of a text, from one offset up to but not including another (§2).
* `TextRange`: the two offsets, in order.
* `TextRange.of`: the range between two whole numbers, if they make one. -/

namespace LintMend

/-- A stretch of a text (`TextRange`). -/
structure TextRange where
  /-- The offset of its first character. -/
  start : Nat
  /-- The offset right after its last character. -/
  stop : Nat
  /-- It does not end before it starts. -/
  start_le_stop : start ≤ stop
  deriving DecidableEq, Repr

namespace TextRange

/-- The number of characters in a range. -/
def length (r : TextRange) : Nat := r.stop - r.start

/-- The range between two offsets. Each must not be negative; only when both are in order is it
asked whether they are ordered. -/
def of (start stop : Int) : Except (List FieldFault) TextRange :=
  match FieldFault.natural "start".toList start, FieldFault.natural "end".toList stop with
  | .ok s, .ok e => if h : s ≤ e then .ok ⟨s, e, h⟩ else .error [.reversed s e]
  | .error f, .ok _ => .error [f]
  | .ok _, .error f => .error [f]
  | .error f, .error g => .error [f, g]

/-- Two offsets make a range exactly if they are its ends. -/
theorem of_eq_ok_iff {start stop : Int} {r : TextRange} :
    of start stop = .ok r ↔ start = r.start ∧ stop = r.stop := by
  obtain ⟨s, e, h⟩ := r
  unfold of FieldFault.natural
  by_cases hs : 0 ≤ start <;> by_cases he : 0 ≤ stop <;> simp [hs, he]
  · split <;> simp <;> omega
  all_goals omega

end TextRange

end LintMend

import LintMend.Document.Basic
import LintMend.Text.Blank

/-! # Placement

Which line and which stretch of a document a reported line number means (§3.2). Checkers count lines
from 1, use 0 for the file as a whole, and sometimes report one line past the end.
* `Document.lineIndex?`: the line that is meant; none only in the empty document.
* `Document.lineRange?`: the stretch to show, from the line's first character that is not blank. -/

namespace LintMend.Document

open Text

/-- The line, counted from 0, that a line number means: the nearest one that there is
(`resolve_line_index`). -/
def lineIndex? (d : Document) (number : Int) : Option Nat :=
  if d.lineCount = 0 then none
  else if (d.lineCount : Int) ≤ number then some (d.lineCount - 1)
  else some (number - 1).toNat

/-- A line without the blanks before its first other character, as a range. -/
def rangeOfLine (d : Document) (line : Nat) : TextRange :=
  let stop := d.buffer.lineEnd line
  ⟨stop - (trimStart (d.buffer.lineText line)).length, stop, Nat.sub_le _ _⟩

/-- The stretch that a line number means (`resolve_range`). -/
def lineRange? (d : Document) (number : Int) : Option TextRange :=
  (d.lineIndex? number).map d.rangeOfLine

/-- The range of a line begins at its first character that is not blank. -/
theorem start_rangeOfLine (d : Document) (line : Nat) : (d.rangeOfLine line).start
    = Text.lineEnd d.text line - (trimStart (Text.lineText d.text line)).length := by
  rw [← d.buffer.lineEnd_eq, ← d.buffer.lineText_eq]
  rfl

/-- It ends where the line does. -/
theorem stop_rangeOfLine (d : Document) (line : Nat) :
    (d.rangeOfLine line).stop = Text.lineEnd d.text line :=
  congrFun d.buffer.lineEnd_eq line

/-- A finding has a place in every document but the empty one. -/
theorem lineIndex?_eq_none_iff {d : Document} {number : Int} :
    d.lineIndex? number = none ↔ d.text = [] := by
  rw [← lineCount_eq_zero_iff, lineIndex?]
  split
  · simp_all
  · split <;> simp_all

end LintMend.Document

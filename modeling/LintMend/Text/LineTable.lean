import LintMend.Text.Lines

/-! # Line tables

Where the lines of a text start and end, as offsets.
* `lineStarts`: the offset of the first character of every line; the empty text has no lines.
* `lineStart`, `lineEnd`, `lineText`: one line, without the characters that end it.
* `lineTable`: all lines, each with its start and its end.
* `placeBetween`: where a number belongs among ascending ones, found by halving.
* `lineAt`: the line that an offset lies on.
* `splice`: a text with a stretch of it replaced.

Lines are counted from 0. -/

namespace LintMend.Text

/-- The offsets right after each line feed, when the text begins at `offset`. -/
def startsAfterFeeds (offset : Nat) : Text → List Nat
  | [] => []
  | c :: rest =>
      if c = '\n' then (offset + 1) :: startsAfterFeeds (offset + 1) rest
      else startsAfterFeeds (offset + 1) rest

/-- The offsets at which the lines of a text start (`Document._compute_line_starts`). -/
def lineStarts (t : Text) : List Nat := if t = [] then [] else 0 :: startsAfterFeeds 0 t

/-- The number of lines. -/
def lineCount (t : Text) : Nat := (lineStarts t).length

/-- The offset at which a line starts; that of the end of the text if there is no such line. -/
def lineStart (t : Text) (line : Nat) : Nat := (lineStarts t).getD line t.length

/-- The offset right after the last character of a line, its line end not counted, in a text whose
lines start at the offsets in a table. -/
def lineEndIn (starts : List Nat) (t : Text) (line : Nat) : Nat :=
  if starts.length ≤ line + 1 then t.length
  else
    let feed := starts.getD (line + 1) t.length - 1
    if starts.getD line t.length < feed ∧ t[feed - 1]? = some '\r' then feed - 1 else feed

/-- The offset right after the last character of a line, its line end not counted. -/
def lineEnd (t : Text) (line : Nat) : Nat := lineEndIn (lineStarts t) t line

/-- The stretch of a text from one offset to another; offsets beyond the end count as the end. -/
def slice (t : Text) (start stop : Nat) : Text := (t.drop start).take (stop - start)

/-- The text of a line, without the characters that end it. -/
def lineText (t : Text) (line : Nat) : Text := slice t (lineStart t line) (lineEnd t line)

/-- The lines of a text: where each of them starts and ends, and its text. -/
def lineTable (t : Text) : List (Nat × Nat × Text) :=
  List.zipWith (fun start line => (start, start + line.length, line)) (lineStarts t) (lineTexts t)

/-- Where a number belongs among ascending ones, behind those that are not greater. It is looked for
from `low` to `high`, and what lies between them is halved at every step. -/
def placeBetween (ns : List Nat) (x : Int) (low high : Nat) : Nat :=
  if low < high then
    let middle := (low + high) / 2
    if x < ns.getD middle 0 then placeBetween ns x low middle
    else placeBetween ns x (middle + 1) high
  else low
termination_by high - low

/-- The line that an offset lies on: the last one that starts at or before it, or the first one. -/
def lineAt (t : Text) (offset : Int) : Nat :=
  placeBetween (lineStarts t) offset 0 (lineCount t) - 1

/-- The text with the stretch from `start` to `stop` replaced. -/
def splice (t : Text) (start stop : Nat) (new : Text) : Text := t.take start ++ new ++ t.drop stop

/-- The text with the text of a line replaced, its line end kept. -/
def replaceLine (t : Text) (line : Nat) (new : Text) : Text :=
  splice t (lineStart t line) (lineEnd t line) new

/-- A line ends where the text does if it is the last one, and before its line end otherwise. -/
theorem lineEnd_eq_ite (t : Text) (line : Nat) :
    lineEnd t line = if lineCount t ≤ line + 1 then t.length
      else
        let feed := lineStart t (line + 1) - 1
        if lineStart t line < feed ∧ t[feed - 1]? = some '\r' then feed - 1 else feed := rfl

@[simp] theorem startsAfterFeeds_nil (offset : Nat) : startsAfterFeeds offset [] = [] := rfl

@[simp] theorem lineStarts_nil : lineStarts [] = [] := rfl

@[simp] theorem lineCount_nil : lineCount [] = 0 := rfl

/-- A text that is not empty has one line more than it has line feeds. -/
theorem length_startsAfterFeeds (offset : Nat) (t : Text) :
    (startsAfterFeeds offset t).length = t.count '\n' := by
  induction t generalizing offset with
  | nil => rfl
  | cons c rest ih =>
      by_cases h : c = '\n' <;> simp [startsAfterFeeds, h, ih]

/-- Only the empty text has no lines. -/
@[simp] theorem lineCount_eq_zero_iff {t : Text} : lineCount t = 0 ↔ t = [] := by
  unfold lineCount lineStarts
  split <;> simp_all

/-- Replacing a stretch by itself changes nothing. -/
theorem splice_slice {t : Text} {start stop : Nat} (h : start ≤ stop) :
    splice t start stop (slice t start stop) = t := by
  have hdrop : t.drop stop = (t.drop start).drop (stop - start) := by
    rw [List.drop_drop]; congr 1; omega
  rw [splice, slice, hdrop, List.append_assoc, List.take_append_drop, List.take_append_drop]

end LintMend.Text

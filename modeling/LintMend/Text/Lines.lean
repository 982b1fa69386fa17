import LintMend.Text.Basic

/-! # Lines

A text seen as lines.
* `unifyNewlines`: carriage returns, alone or before a line feed, turned into line feeds; the result
  holds no carriage return (`not_mem_unifyNewlines`).
* `lines`: what the line feeds end, and what is left after the last of them.
* `lineTexts`: the lines of a document, in which a line feed also begins a new, possibly empty last
  line, and a carriage return before a line feed belongs to the line end. -/

namespace LintMend.Text

/-- Carriage returns, alone or with a line feed after them, turned into line feeds. -/
def unifyNewlines : Text → Text
  | [] => []
  | [c] => if c = '\r' then ['\n'] else [c]
  | c :: d :: rest =>
      if c = '\r' then
        if d = '\n' then '\n' :: unifyNewlines rest else '\n' :: unifyNewlines (d :: rest)
      else c :: unifyNewlines (d :: rest)

/-- No carriage return is left when newlines have been unified. -/
theorem not_mem_unifyNewlines (t : Text) : '\r' ∉ unifyNewlines t := by
  fun_induction unifyNewlines t <;> simp_all [eq_comm]

/-- The pieces of a text between its line feeds. -/
def feedPieces (t : Text) : List Text := pieces (· == '\n') t

/-- What the line feeds of a text end, and what is left after the last of them unless that is
nothing. -/
def lines (t : Text) : List Text :=
  let all := feedPieces t
  if all.getLast? = some [] then all.dropLast else all

/-- A piece without the carriage return that belongs to the line end after it. -/
def dropReturn (piece : Text) : Text :=
  if piece.getLast? = some '\r' then piece.dropLast else piece

/-- A carriage return dropped from every piece but the last, which no line feed ends. -/
def dropReturns : List Text → List Text
  | [] => []
  | [last] => [last]
  | piece :: next :: others => dropReturn piece :: dropReturns (next :: others)

/-- The texts of the lines of a document. The empty document has none. -/
def lineTexts (t : Text) : List Text :=
  if t = [] then [] else dropReturns (feedPieces t)

@[simp] theorem lineTexts_nil : lineTexts [] = [] := rfl

end LintMend.Text

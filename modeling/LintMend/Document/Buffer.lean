import LintMend.Text.LineTable

/-! # Buffers

A text that is kept together with the table of its lines (§1, `TextBuffer`). The lines are looked up
in the table, and whoever changes the text computes the table anew.
* `Buffer`: a text, and the offsets at which its lines start.
* `Buffer.ofText`: a text with its table; `Buffer.ofText_text` says that there is no other.
* `Buffer.lineCount`, `Buffer.lineStart`, …: what the table says about lines, which is what
  `Text.lineCount`, `Text.lineStart`, … say about those of the text. -/

namespace LintMend

/-- A text with the table of its lines. -/
structure Buffer where
  /-- The text. -/
  text : Text
  /-- The offsets at which its lines start. -/
  starts : List Nat
  /-- They are those of the lines of this text. -/
  starts_eq : starts = Text.lineStarts text
  deriving DecidableEq, Repr

namespace Buffer

/-- A text with its table. -/
abbrev ofText (t : Text) : Buffer := ⟨t, Text.lineStarts t, rfl⟩

instance : Coe Text Buffer := ⟨ofText⟩

/-- The number of lines. -/
def lineCount (b : Buffer) : Nat := b.starts.length

/-- The offset at which a line starts; that of the end of the text if there is no such line. -/
def lineStart (b : Buffer) (line : Nat) : Nat := b.starts.getD line b.text.length

/-- The offset at which a line ends, its line end not counted. -/
def lineEnd (b : Buffer) (line : Nat) : Nat := Text.lineEndIn b.starts b.text line

/-- The text of a line. -/
def lineText (b : Buffer) (line : Nat) : Text :=
  Text.slice b.text (b.lineStart line) (b.lineEnd line)

/-- The line that an offset lies on. -/
def lineAt (b : Buffer) (offset : Int) : Nat :=
  Text.placeBetween b.starts offset 0 b.starts.length - 1

/-- A text has one table. -/
@[simp] theorem ofText_text (b : Buffer) : ofText b.text = b := by
  obtain ⟨t, starts, rfl⟩ := b
  rfl

/-- The lines in the table are as many as the text has. -/
theorem lineCount_eq (b : Buffer) : b.lineCount = Text.lineCount b.text := by
  rw [← b.ofText_text]
  rfl

/-- Only the empty text has an empty table. -/
theorem starts_eq_nil_iff {b : Buffer} : b.starts = [] ↔ b.text = [] := by
  rw [← Text.lineCount_eq_zero_iff, ← lineCount_eq, lineCount, List.length_eq_zero_iff]

/-- They start where those of the text do. -/
theorem lineStart_eq (b : Buffer) : b.lineStart = Text.lineStart b.text := by
  rw [← b.ofText_text]
  rfl

/-- They end where those of the text do. -/
theorem lineEnd_eq (b : Buffer) : b.lineEnd = Text.lineEnd b.text := by
  rw [← b.ofText_text]
  rfl

/-- They have the texts of those of the text. -/
theorem lineText_eq (b : Buffer) : b.lineText = Text.lineText b.text := by
  rw [← b.ofText_text]
  rfl

/-- Offsets lie on the lines on which they lie in the text. -/
theorem lineAt_eq (b : Buffer) : b.lineAt = Text.lineAt b.text := by
  rw [← b.ofText_text]
  rfl

end Buffer

end LintMend

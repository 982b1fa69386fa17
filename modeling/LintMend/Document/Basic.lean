import LintMend.Document.Buffer
import LintMend.Document.Range
import LintMend.Files.Tree

/-! # Documents

A text under edit, together with the file that it belongs to (§1, `Document`).
* `Document`: the text, and where it belongs.
* `Document.checkLine`, `Document.lineStart`, …: its lines, with an error for a line that it does
  not have.
* `Document.replace`, `Document.insert`: edits, with an error for a stretch that it does not have.
* `Document.load`, `Document.save`: its file. -/

namespace LintMend

open Text

/-- A text under edit (`Document`). -/
structure Document where
  /-- The text, with the table of its lines. -/
  buffer : Buffer
  /-- The file that it belongs to, if any. -/
  path : Option Path
  /-- The root of the project, if any. -/
  root : Option Path
  /-- The place that relative paths start from. -/
  base : Place
  deriving DecidableEq, Repr

/-- Why a document refuses an operation. -/
inductive DocumentFault
  /-- It has no such line; how many lines it has. -/
  | noLine (line : Int) (count : Nat)
  /-- It has no lines at all. -/
  | noLines
  /-- It has no such stretch; how long it is. -/
  | noStretch (start stop : Int) (length : Nat)
  deriving DecidableEq, Repr

/-- How a refusal reads. -/
def DocumentFault.message : DocumentFault → Text
  | noLine line count =>
      "line ".toList ++ Numeral.writeInt line ++ " out of range (0..".toList
        ++ Numeral.writeInt (count - 1 : Int) ++ ")".toList
  | noLines => "empty document has no lines".toList
  | noStretch start stop length =>
      "invalid edit range ".toList ++ Numeral.writeInt start ++ "..".toList
        ++ Numeral.writeInt stop ++ " for length ".toList ++ Numeral.write length

namespace Document

/-- The text of a document. -/
abbrev text (d : Document) : Text := d.buffer.text

/-- The number of lines of a document. -/
def lineCount (d : Document) : Nat := d.buffer.lineCount

/-- The document with another text, for which the table of its lines is computed. -/
def withText (d : Document) (t : Text) : Document := { d with buffer := .ofText t }

/-- The line of that number, if the document has it (`_check_line`). -/
def checkLine (d : Document) (line : Int) : Except DocumentFault Nat :=
  if 0 ≤ line ∧ line < d.lineCount then .ok line.toNat else .error (.noLine line d.lineCount)

/-- The offset at which a line starts (`line_start_offset`). -/
def lineStart (d : Document) (line : Int) : Except DocumentFault Nat :=
  (d.checkLine line).map d.buffer.lineStart

/-- The offset at which a line ends, its line end not counted (`line_end_offset`). -/
def lineEnd (d : Document) (line : Int) : Except DocumentFault Nat :=
  (d.checkLine line).map d.buffer.lineEnd

/-- The text of a line (`line_text`). -/
def lineText (d : Document) (line : Int) : Except DocumentFault Text :=
  (d.checkLine line).map d.buffer.lineText

/-- The line that an offset lies on (`line_of_offset`). -/
def lineAt (d : Document) (offset : Int) : Except DocumentFault Nat :=
  if d.buffer.starts = [] then .error .noLines else .ok (d.buffer.lineAt offset)

/-- The text in a range, as far as the document has it (`text_in_range`). -/
def textIn (d : Document) (r : TextRange) : Text := slice d.text r.start r.stop

/-- The document with a stretch replaced (`Document.replace`). -/
def replace (d : Document) (start stop : Int) (new : Text) : Except DocumentFault Document :=
  if 0 ≤ start ∧ start ≤ stop ∧ stop ≤ d.text.length then
    .ok (d.withText (splice d.text start.toNat stop.toNat new))
  else .error (.noStretch start stop d.text.length)

/-- The document with a text put in at an offset (`Document.insert`). -/
def insert (d : Document) (offset : Int) (new : Text) : Except DocumentFault Document :=
  d.replace offset offset new

@[simp] theorem text_withText (d : Document) (t : Text) : (d.withText t).text = t := rfl

@[simp] theorem withText_text (d : Document) : d.withText d.text = d := by
  rw [withText, Buffer.ofText_text]

/-- A document has as many lines as its text. -/
theorem lineCount_eq (d : Document) : d.lineCount = Text.lineCount d.text := d.buffer.lineCount_eq

/-- Only the empty document has no lines. -/
theorem lineCount_eq_zero_iff {d : Document} : d.lineCount = 0 ↔ d.text = [] := by
  rw [lineCount_eq, Text.lineCount_eq_zero_iff]

/-- Only the empty document has no line for an offset. -/
theorem lineAt_eq_ite (d : Document) (offset : Int) : d.lineAt offset
    = if d.text = [] then .error .noLines else .ok (Text.lineAt d.text offset) := by
  simp only [lineAt, Buffer.lineAt_eq, Buffer.starts_eq_nil_iff]

/-- A line is there exactly if its number is that of one. -/
theorem checkLine_eq_ok_iff {d : Document} {line : Int} {n : Nat} :
    d.checkLine line = .ok n ↔ line = n ∧ n < d.lineCount := by
  unfold checkLine
  split <;> simp <;> omega

/-! ## Files -/

/-- The text of a file's octets: malformed stretches are replaced, and line ends are unified. -/
def decodeFile (content : Octets) : Text := unifyNewlines (decodeLossy content)

/-- The document in a file (`Document.from_file`). -/
def load (fs : Files) (path : Path) (root : Option Path) : Except FileFault Document :=
  (fs.read path.text).map fun content => ⟨decodeFile content, some path, root, fs.here⟩

/-- Why a document cannot be saved. -/
inductive SaveFault
  /-- It belongs to no file. -/
  | noFile
  /-- Its file cannot be written. -/
  | file (fault : FileFault)
  deriving DecidableEq, Repr

/-- How the refusal to save reads. -/
def SaveFault.message : SaveFault → Text
  | noFile => "document has no backing path".toList
  | file fault => fault.message

/-- The file tree after the document's text has been written to its file (`Document.save`). -/
def save (d : Document) (fs : Files) : Except SaveFault Files :=
  match d.path with
  | none => .error .noFile
  | some path =>
      match fs.write path.text (encode d.text) with
      | .ok written => .ok written
      | .error fault => .error (.file fault)

end Document

end LintMend

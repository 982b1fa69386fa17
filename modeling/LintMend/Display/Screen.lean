import LintMend.Text.Basic

/-! # Styled lines

What is written to a terminal (§4.2): characters, each perhaps in a style. The program hands such
lines to the library `rich`, whose printing rules these are.
* `Style`: colours and weights, with their codes.
* `Cell`: a character in its style.
* `Screen.write`: the characters of a text as they are sent out, with or without style codes.

Some control characters are left out, and a tab becomes blanks up to the next stop; how many columns
the characters before it take up is given. The codes stand around pieces of one style; a piece ends
with its line, and also with the blanks for a tab. -/

namespace LintMend

/-- A style. -/
inductive Style
  | cyan
  | green
  | yellow
  | boldRed
  | dim
  deriving DecidableEq, Repr

/-- The code of a style. -/
def Style.code : Style → Text
  | cyan => "36".toList
  | green => "32".toList
  | yellow => "33".toList
  | boldRed => "1;31".toList
  | dim => "2".toList

/-- A character in its style. -/
structure Cell where
  /-- The character. -/
  char : Char
  /-- The style, if it has one. -/
  style : Option Style
  /-- Whether a piece ends with it. -/
  closes : Bool
  deriving DecidableEq, Repr

namespace Screen

/-- The cells of a text that is all in one style. -/
def cells (style : Option Style) (t : Text) : List Cell := t.map fun c => ⟨c, style, false⟩

@[simp] theorem cells_nil (style : Option Style) : cells style [] = [] := rfl

@[simp] theorem cells_append (style : Option Style) (t u : Text) :
    cells style (t ++ u) = cells style t ++ cells style u :=
  List.map_append

/-- The cells of a text hold its characters. -/
@[simp] theorem map_char_cells (style : Option Style) (t : Text) :
    (cells style t).map Cell.char = t := by
  induction t with
  | nil => rfl
  | cons c t ih =>
      change c :: (cells style t).map Cell.char = c :: t
      rw [ih]

/-- The control characters that are never sent out: bell, backspace, vertical tab, form feed and
carriage return. -/
def isDropped (c : Char) : Bool := ['\x07', '\x08', '\x0b', '\x0c', '\x0d'].contains c

/-- The distance between tab stops. -/
def tabWidth : Nat := 8

/-- Whether a character is a control character. -/
def isControl (c : Char) : Bool := c.toNat < 0x20 || (0x7f ≤ c.toNat && c.toNat < 0xa0)

/-- The number of columns that a character takes up, for the characters that status lines begin with
and plain text. Control characters take up none. The marks for success and failure are two columns
wide, and so is a character with the selector for its picture form, which counts as one. Other wide
characters, and those that combine with the one before them, are counted like plain text here. -/
def plainColumns (c : Char) : Nat :=
  if isControl c then 0 else if c = '✅' ∨ c = '❌' then 2 else 1

/-- The blanks for a tab in a column: at least one, and up to the next stop. -/
def tabCells (column : Nat) (style : Option Style) : List Cell :=
  List.replicate (tabWidth - 1 - column % tabWidth) ⟨' ', style, false⟩ ++ [⟨' ', style, true⟩]

/-- Cells that begin in a column, with blanks for tabs, when characters take up so many columns. -/
def expandTabs (columns : Char → Nat) (column : Nat) : List Cell → List Cell
  | [] => []
  | cell :: rest =>
      if cell.char = '\n' then cell :: expandTabs columns 0 rest
      else if cell.char = '\t' then
        let blanks := tabCells column cell.style
        blanks ++ expandTabs columns (column + blanks.length) rest
      else cell :: expandTabs columns (column + columns cell.char) rest

/-- The cells that are sent out for some cells, followed by the end of the line. -/
def sent (columns : Char → Nat) (line : List Cell) : List Cell :=
  expandTabs columns 0 (line.filter fun cell => !isDropped cell.char) ++ [⟨'\n', none, false⟩]

/-- The character that begins a style code. -/
def escape : Char := '\x1b'

/-- The style code that turns a style on. -/
def styleOn (style : Style) : Text := escape :: '[' :: style.code ++ ['m']

/-- The style code that turns every style off. -/
def styleOff : Text := [escape, '[', '0', 'm']

/-- The style in which a cell is sent out: line feeds have none. -/
def shownStyle (cell : Cell) : Option Style := if cell.char = '\n' then none else cell.style

/-- The codes between a cell in one style and a cell in another. -/
def change (before after : Option Style) : Text :=
  if before = after then []
  else (if before.isSome then styleOff else []) ++ (after.map styleOn).getD []

/-- Cells with style codes, when `current` is turned on. -/
def withCodes (current : Option Style) : List Cell → Text
  | [] => change current none
  | cell :: rest =>
      let shown := shownStyle cell
      change current shown ++ cell.char ::
        (if cell.closes then change shown none ++ withCodes none rest else withCodes shown rest)

/-- The characters that are sent out for a line. -/
def write (columns : Char → Nat) (color : Bool) (line : List Cell) : Text :=
  if color then withCodes none (sent columns line) else (sent columns line).map Cell.char

end Screen

end LintMend

import LintMend.Text.Basic
import LintMend.Text.Ranges

/-! # Blanks

The characters that stand for nothing but distance: spaces of every width, tabs, and whatever ends
a line or a page.
* `isBlank`: whether a character is one of them.
* `trimStart`, `trim`: a text without the blanks around it.
* `words`: the stretches between blanks, none of them empty. -/

namespace LintMend.Text

/-- The blank characters. Characters that merely have no width are not among them. -/
def blanks : Ranges :=
  [(0x9, 0xd), (0x1c, 0x20), (0x85, 0x85), (0xa0, 0xa0), (0x1680, 0x1680), (0x2000, 0x200a),
  (0x2028, 0x2029), (0x202f, 0x202f), (0x205f, 0x205f), (0x3000, 0x3000)]

/-- Whether a character is blank. -/
def isBlank (c : Char) : Bool := blanks.contains c

/-- The text from its first character that is not blank. -/
def trimStart (t : Text) : Text := t.dropWhile isBlank

/-- The text without the blanks at its end. -/
def trimEnd (t : Text) : Text := trimEndOf isBlank t

/-- The text without the blanks at either end. -/
def trim (t : Text) : Text := trimEnd (trimStart t)

/-- Whether a text is empty or all blank. -/
def isAllBlank (t : Text) : Bool := t.all isBlank

/-- The stretches of a text between its blanks, in order. -/
def words (t : Text) : List Text := (pieces isBlank t).filter fun piece => !piece.isEmpty

@[simp] theorem trimStart_nil : trimStart [] = [] := rfl

@[simp] theorem words_nil : words [] = [] := rfl

end LintMend.Text

import LintMend.Text.Blank
import LintMend.Text.Word

/-! # Preprocessor directives

What a line of C or C++ tells the preprocessor, as far as header guards are concerned (§3.5). Blanks
may stand before and after the number sign.
* `Directive.rest?`: what follows the keyword of a directive.
* `Directive.operand?`: the word after the keyword, as of `#ifndef WORD`.
* `Directive.isEndif`: whether a line is an `#endif`. -/

namespace LintMend.Directive

open Text

/-- What follows the keyword in a line that has the number sign and the keyword first. -/
def rest? (keyword line : Text) : Option Text :=
  match trimStart line with
  | [] => none
  | c :: rest => if c = '#' then after? keyword (trimStart rest) else none

/-- The word after the keyword of a directive, with blanks between them. -/
def operand? (keyword line : Text) : Option Text :=
  match rest? keyword line with
  | none => none
  | some rest =>
      let word := leadingWord (trimStart rest)
      if rest.head?.any isBlank ∧ word ≠ [] then some word else none

/-- The word that a line asks not to be defined. -/
def ifndef? (line : Text) : Option Text := operand? "ifndef".toList line

/-- The word that a line defines. -/
def define? (line : Text) : Option Text := operand? "define".toList line

/-- Whether a line is an `#endif`: the keyword must be a whole word. -/
def isEndif (line : Text) : Bool :=
  match rest? "endif".toList line with
  | none => false
  | some rest => !rest.head?.any isWord

end LintMend.Directive

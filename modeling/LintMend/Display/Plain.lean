import LintMend.Display.Screen

/-! # Plain text

Text that goes elsewhere than to a terminal has no use for style codes.
* `Screen.codeLength?`: how long the style code at the front of a text is, if there is one.
* `Screen.withoutCodes`: a text without its style codes. -/

namespace LintMend.Screen

/-- Whether a character can stand between the bracket and the letter of a code. -/
def isParameter (c : Char) : Bool := c.isDigit || c == ';' || c == '?'

/-- How many characters after the escape character belong to the code that it begins: a bracket,
parameters and a letter. -/
def codeLength? (t : Text) : Option Nat :=
  match t with
  | [] => none
  | c :: rest =>
      let parameters := rest.takeWhile isParameter
      match rest.dropWhile isParameter with
      | [] => none
      | letter :: _ => if c = '[' ∧ letter.isAlpha then some (parameters.length + 2) else none

/-- A text without its codes, the first `skip` characters of which belong to one. -/
def withoutCodesFrom : Nat → Text → Text
  | _, [] => []
  | skip + 1, _ :: rest => withoutCodesFrom skip rest
  | 0, c :: rest =>
      match codeLength? rest with
      | some length =>
          if c = escape then withoutCodesFrom length rest else c :: withoutCodesFrom 0 rest
      | none => c :: withoutCodesFrom 0 rest

/-- A text without its codes. -/
def withoutCodes (t : Text) : Text := withoutCodesFrom 0 t

@[simp] theorem withoutCodes_nil : withoutCodes [] = [] := rfl

end LintMend.Screen

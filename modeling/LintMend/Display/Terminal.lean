import LintMend.Environment

/-! # Terminals

Whether style codes can be sent to an output, as the library `rich` has been seen to make it out; no
code of the program does. Whether it is a terminal is known from the system, but the environment may
say otherwise.
* `Terminal.isSupposed`: whether the output counts as a terminal.
* `Terminal.isDumb`: whether the terminal is of a kind that has no codes.
* `Terminal.takesCodes`: whether codes can be sent. -/

namespace LintMend.Terminal

/-- Whether an output counts as a terminal: as the environment says, else if it is one. -/
def isSupposed (env : Environment) (attached : Bool) : Bool :=
  match env.get? "TTY_COMPATIBLE".toList with
  | some ['0'] => false
  | some ['1'] => true
  | _ =>
      match env.get? "FORCE_COLOR".toList with
      | some value => !value.isEmpty
      | none => attached

/-- A letter in lower case. The sign for the unit of temperature is a letter k. -/
def lowered (c : Char) : Char := if c = '\u212a' then 'k' else c.toLower

/-- The kinds of terminal that have no codes. -/
def dumbKinds : List Text := ["dumb".toList, "unknown".toList]

/-- Whether the terminal is of a kind that has no codes. -/
def isDumb (env : Environment) : Bool :=
  dumbKinds.contains (((env.get? "TERM".toList).getD []).map lowered)

/-- Whether codes can be sent to an output. -/
def takesCodes (env : Environment) (attached : Bool) : Bool :=
  isSupposed env attached && !isDumb env

end LintMend.Terminal

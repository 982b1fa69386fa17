import LintMend.Display.Terminal
import LintMend.Text.Integer

/-! # Sizes

How wide a console is, as the library `rich` makes it out. The environment may give its columns and
its lines; a variable that is not all digits gives nothing. No code of the program reads these
variables, and what is proved of `lint` holds however wide consoles are made.
* `Terminal.extent?`: the number of columns or of lines that a variable gives.
* `Terminal.width`: the width that counts.
* `Terminal.boxed`: the same for an output on which boxes as wide as itself are drawn.
* `SizeFault`: why there is none. Some digits belong to no decimal system, and spell no number. -/

namespace LintMend

/-- Why the size of an output is of no use. -/
inductive SizeFault
  /-- The digits of a variable are not read as a number. -/
  | numeral (fault : NumeralFault)
  /-- No text can be as wide as the output. -/
  | unbounded
  /-- There is no room for a text as wide as the output. -/
  | exhausted
  deriving DecidableEq, Repr

/-- How it reads that a size is of no use. That there is no room is said without words. -/
def SizeFault.message : SizeFault → Text
  | numeral fault => fault.message
  | unbounded => "cannot fit 'int' into an index-sized integer".toList
  | exhausted => []

namespace Terminal

/-- The number that digits spell. -/
def extentOf (digits : Text) : Except SizeFault Nat :=
  match Integer.read digits with
  | .error fault => .error (.numeral fault)
  | .ok n => .ok n.toNat

/-- The number that a variable gives, if it gives one. -/
def extent? (env : Environment) (name : Text) : Except SizeFault (Option Nat) :=
  match (env.get? name).filter Text.isDigits with
  | none => .ok none
  | some digits => (extentOf digits).map some

/-- The variable for the number of columns. -/
def columnsVariable : Text := "COLUMNS".toList

/-- The variable for the number of lines. -/
def linesVariable : Text := "LINES".toList

/-- The variables that say something about an output. -/
def variableNames : List Text :=
  ["TERM", "TTY_COMPATIBLE", "FORCE_COLOR"].map String.toList ++ [columnsVariable, linesVariable]

/-- The width of an output about which nothing is said. -/
def usualWidth : Nat := 80

/-- The width of an output. A terminal without codes has the usual one, unless both its columns and
its lines are given. -/
def width (env : Environment) (attached : Bool) : Except SizeFault Nat :=
  match extent? env columnsVariable, extent? env linesVariable with
  | .error fault, _ => .error fault
  | .ok _, .error fault => .error fault
  | .ok none, .ok _ => .ok usualWidth
  | .ok (some columns), .ok (some _) => .ok columns
  | .ok (some columns), .ok none =>
      .ok (if isSupposed env attached && isDumb env then usualWidth else columns)

/-- The columns of a box that are not for what stands in it. -/
def boxMargin : Nat := 4

/-- The greatest length of a text, on a machine with words of eight octets. -/
def maxLength : Nat := 0x7fffffffffffffff

/-- A length from which on there is no room for a text. This is a bound for machines of today, with
up to 64 gigabytes of room, and no number of the program. -/
def noRoom : Nat := 0x1000000000

/-- The width of an output with so many columns on which boxes as wide as itself are drawn. -/
def boxed (columns : Nat) : Except SizeFault Nat :=
  if maxLength < columns - boxMargin then .error .unbounded
  else if noRoom ≤ columns then .error .exhausted
  else .ok columns

end Terminal

end LintMend

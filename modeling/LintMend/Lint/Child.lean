import LintMend.Document.Basic
import LintMend.Text.Lines

/-! # The checker as a child process

What comes of launching the checker, as far as it matters here (§3.7): it writes its report on one
stream, and reading that stream may fail half way. A launch has three outcomes, the two failures
that the program provides for and success; an argument with a null character, which no system can
pass on, has none of the three.
* `Launch`: the launch failed, or there is a child.
* `Child.read`: the lines of the report, and why reading stopped early if it did. -/

namespace LintMend

open Text

/-- A failure to read on. -/
structure ReadFailure where
  /-- How many lines are read before it. -/
  after : Nat
  /-- The reason given. -/
  reason : Text
  deriving DecidableEq, Repr

/-- A checker that has been launched. -/
structure Child where
  /-- What it writes as its report; none if there is no such stream. -/
  report : Option Octets
  /-- The failure that reading meets, if the report is long enough. -/
  failure : Option ReadFailure
  deriving DecidableEq, Repr

/-- What comes of a launch (`CpplintRunner._spawn`). -/
inductive Launch
  /-- The program is not there. -/
  | notFound (reason : Text)
  /-- The system refuses. -/
  | refused (reason : Text)
  /-- The checker runs. -/
  | started (child : Child)
  deriving DecidableEq, Repr

/-- The lines of a report that are read, and the failure that ends the reading, if one does. -/
def readReport (lines : List Text) (failure : Option ReadFailure) : List Text × Option Text :=
  match failure with
  | none => (lines, none)
  | some f => if f.after ≤ lines.length then (lines.take f.after, some f.reason) else (lines, none)

/-- The lines of a child's report that are read, and the failure that ends the reading, if one
does. -/
def Child.read (child : Child) : List Text × Option Text :=
  match child.report with
  | none => ([], none)
  | some content => readReport (lines (Document.decodeFile content)) child.failure

end LintMend

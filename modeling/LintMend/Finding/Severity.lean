import LintMend.Text.Basic

/-! # Severity

How strongly a finding is shown, judged by the checker's confidence in it (§3.3).
* `Severity.ofConfidence`: 5 is high, 3 and 4 are medium, all else is low.
* `Severity.name`, `Severity.label`: its name, and the name of its highlight in an editor. -/

namespace LintMend

/-- How strongly a finding is shown. -/
inductive Severity
  | high
  | medium
  | low
  deriving DecidableEq, Repr

namespace Severity

/-- The severity of a finding of the given confidence, which is meant to be 1 to 5
(`severity_from_confidence`). -/
def ofConfidence (confidence : Int) : Severity :=
  if confidence = 5 then high
  else if confidence = 3 ∨ confidence = 4 then medium
  else low

/-- The name of a severity. -/
def name : Severity → Text
  | high => "high".toList
  | medium => "medium".toList
  | low => "low".toList

/-- The name of the highlight that an editor gives to findings of this severity
(`Severity.label`). -/
def label : Severity → Text
  | high => "error".toList
  | medium => "warning".toList
  | low => "weak warning".toList

end Severity

end LintMend

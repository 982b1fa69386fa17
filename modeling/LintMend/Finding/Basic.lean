import LintMend.Field

/-! # Findings

What a style checker has to say about one line of a file (§2).
* `Finding`: line, message, category and confidence.
* `Finding.of`: the finding with a line number that may turn out negative. -/

namespace LintMend

/-- One diagnostic of a style checker (§2, `Finding`). -/
structure Finding where
  /-- The line it is reported on, counted from 1; 0 stands for the file as a whole. -/
  line : Nat
  /-- What is wrong. -/
  message : Text
  /-- The category of the rule that is broken. -/
  category : Text
  /-- How sure the checker is, meant to be 1 to 5. -/
  confidence : Int
  deriving DecidableEq, Repr

namespace Finding

/-- The confidence of a finding that does not say how sure it is. -/
def defaultConfidence : Int := 1

/-- The finding on a line that is given as a whole number. -/
def of (line : Int) (message category : Text) (confidence : Int) : Except FieldFault Finding :=
  (FieldFault.natural "line_number".toList line).map fun n => ⟨n, message, category, confidence⟩

end Finding

end LintMend

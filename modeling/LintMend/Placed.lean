import LintMend.Document.Placement
import LintMend.Finding.Basic
import LintMend.Finding.Severity
import LintMend.Mend.Fix

/-! # Placed findings

Findings in the document that they are about (§2, `LintFinding`).
* `PlacedFinding`: a finding with its line and its range.
* `PlacedFinding.place?`: the place of a finding, if the document is not empty.
* `PlacedFinding.mend`: a document after the specific fix of every finding, each distinct fix once,
  from the last finding of the document to the first. -/

namespace LintMend

/-- A finding in a document (`LintFinding`). -/
structure PlacedFinding where
  /-- The finding. -/
  finding : Finding
  /-- The line that it is about, counted from 0. -/
  line : Nat
  /-- The stretch that it is about. -/
  range : TextRange
  deriving DecidableEq, Repr

namespace PlacedFinding

/-- How strongly the finding is shown. -/
def severity (p : PlacedFinding) : Severity := Severity.ofConfidence p.finding.confidence

/-- The fix made for the finding's category (`LintFinding.specific_fix`). -/
def specificFix? (p : PlacedFinding) : Option Fix :=
  Fix.specific? p.finding.category p.finding.message

/-- The fixes offered, the most specific first. -/
def fixes (p : PlacedFinding) : List Fix := Fix.offered p.finding.category p.finding.message

/-- The fix that is applied when one is asked for: the specific one, else to pass over it. -/
def bestFix (p : PlacedFinding) : Fix := p.specificFix?.getD (.suppression p.finding.category)

/-- The finding as it is shown (`LintFinding.display_message`). -/
def display (p : PlacedFinding) : Text := "cpplint: ".toList ++ p.finding.message

/-- A finding put in its place (§3.7, `enrich_finding`). -/
def place? (d : Document) (f : Finding) : Option PlacedFinding :=
  (d.lineIndex? f.line).map fun line => ⟨f, line, d.rangeOfLine line⟩

/-- A document after some fixes. -/
structure Mending where
  /-- What is left. -/
  document : Document
  /-- How many fixes were applied. -/
  count : Nat
  /-- Why a fix failed; no other was tried after it. -/
  fault : Option FixFault
  deriving DecidableEq, Repr

/-- The document after the specific fixes of findings, in order, the fixes that are done already
left out. -/
def mendFrom (done : List Fix) (d : Document) : List PlacedFinding → Mending
  | [] => ⟨d, done.length, none⟩
  | p :: others =>
      match p.specificFix? with
      | none => mendFrom done d others
      | some fix =>
          if fix ∈ done then mendFrom done d others
          else
            match fix.apply d p.line with
            | ⟨mended, none⟩ => mendFrom (fix :: done) mended others
            | ⟨left, some fault⟩ => ⟨left, done.length, some fault⟩

/-- Findings from the last line to the first; those on one line keep their order. -/
def fromLastLine (ps : List PlacedFinding) : List PlacedFinding :=
  ps.mergeSort fun p q => q.line ≤ p.line

/-- The order of findings changes, and none is lost. -/
theorem fromLastLine_perm (ps : List PlacedFinding) : (fromLastLine ps).Perm ps :=
  List.mergeSort_perm ps _

/-- The document after the specific fix of every finding, each distinct fix once, from the last line
to the first (§4.4, `_apply_specific_fixes`). -/
def mend (d : Document) (ps : List PlacedFinding) : Mending := mendFrom [] d (fromLastLine ps)

end PlacedFinding

end LintMend

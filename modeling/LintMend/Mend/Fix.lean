import LintMend.Document.Basic
import LintMend.Mend.Guard
import LintMend.Mend.GuardName
import LintMend.Mend.Suppression

/-! # Fixes

Edits that a finding offers (§3.4), and what they do (§3.5).
* `Fix`: pass over the finding, name or rename the header guard, end the file with a line feed.
* `Fix.apply`: what a fix makes of a document. The document that is left is given even if the fix
  fails half way.
* `Fix.offered`: the fixes that are offered for a category, the most specific first. -/

namespace LintMend

open Text

/-- An edit that a finding offers (§2, `Fix`). -/
inductive Fix
  /-- Ask the checker to pass over the category on the line. -/
  | suppression (category : Text)
  /-- Name the header guard so, or as it should be by default. -/
  | headerGuard (name : Option Text)
  /-- End the file with a line feed. -/
  | trailingNewline
  deriving DecidableEq, Repr

/-- Why a fix fails. -/
inductive FixFault
  /-- The document has no such line. -/
  | document (fault : DocumentFault)
  /-- The name of the guard is no good as a replacement. -/
  | template (fault : Template.Fault)
  deriving DecidableEq, Repr

/-- How the failure of a fix reads. -/
def FixFault.message : FixFault → Text
  | document fault => fault.message
  | template fault => fault.message

/-- What a fix leaves: a document, and why it failed if it did. -/
structure Mended where
  /-- The document that is left. -/
  document : Document
  /-- Why the fix failed. -/
  fault : Option FixFault
  deriving DecidableEq, Repr

namespace Fix

/-- The family that all fixes belong to. -/
def family : Text := "Cpplint".toList

/-- The name under which a fix is offered (`Fix.name`). An empty guard name is no name. -/
def name : Fix → Text
  | suppression category => "Add NOLINT for '".toList ++ category ++ "'".toList
  | headerGuard none => "Fix header guard".toList
  | headerGuard (some []) => "Fix header guard".toList
  | headerGuard (some word) => "Use header guard '".toList ++ word ++ "'".toList
  | trailingNewline => "Add newline at end of file".toList

/-! ## Applying -/

/-- The name that the guard of a document is to have: the one asked for, else the one that it has,
else the one that its path gives (`HeaderGuardFix.resolve_guard`). -/
def guardName (asked : Option Text) (d : Document) : Text :=
  match asked with
  | some (c :: word) => c :: word
  | _ =>
      match Guard.find? (lineTexts d.text) with
      | some guard => guard.name
      | none => GuardName.ofPath d.base d.path d.root

/-- The document in which a line asks the checker to pass over a category (`SuppressionFix.apply`).
The empty document has no line to ask on and stays as it is. -/
def applySuppression (category : Text) (d : Document) (line : Int) : Mended :=
  if d.text = [] then ⟨d, none⟩
  else
    match d.checkLine line with
    | .error fault => ⟨d, some (.document fault)⟩
    | .ok n =>
        ⟨d.withText (replaceLine d.text n (suppress category (Text.lineText d.text n))), none⟩

/-- The document with its guard named, or put around it (`HeaderGuardFix.apply`). -/
def applyHeaderGuard (asked : Option Text) (d : Document) : Mended :=
  let name := guardName asked d
  match Guard.find? (lineTexts d.text) with
  | none => ⟨d.withText (Guard.wrap name d.text), none⟩
  | some guard =>
      let (t, fault) := guard.rename name d.text
      ⟨d.withText t, fault.map .template⟩

/-- The document with a line feed at its end (`TrailingNewlineFix.apply`). -/
def applyTrailingNewline (d : Document) : Mended :=
  if d.text.getLast? = some '\n' then ⟨d, none⟩ else ⟨d.withText (d.text ++ ['\n']), none⟩

/-- What a fix makes of a document, for a finding on a line counted from 0. -/
def apply (fix : Fix) (d : Document) (line : Int) : Mended :=
  match fix with
  | suppression category => applySuppression category d line
  | headerGuard asked => applyHeaderGuard asked d
  | trailingNewline => applyTrailingNewline d

/-! ## Offers -/

/-- The category of findings on header guards. -/
def guardCategory : Text := "build/header_guard".toList

/-- The category of findings on files that no line feed ends. -/
def newlineCategory : Text := "whitespace/ending_newline".toList

/-- The fix that is made for a category, if there is one. -/
def specific? (category message : Text) : Option Fix :=
  if category = guardCategory then some (headerGuard (GuardName.suggested? message))
  else if category = newlineCategory then some trailingNewline
  else none

/-- The fixes offered for a finding, the most specific first (`resolve_fixes`). To pass over it is
always offered. -/
def offered (category message : Text) : List Fix :=
  (specific? category message).toList ++ [suppression category]

/-- To pass over the finding is the last fix that is offered. -/
@[simp] theorem getLast?_offered (category message : Text) :
    (offered category message).getLast? = some (suppression category) := by
  simp [offered]

end Fix

end LintMend

import LintMend.Text.Blank
import LintMend.Text.Word

/-! # Suppression

A checker passes over what a line asks it to pass over (§3.5). The line asks with the word `NOLINT`,
either bare or with a list of categories in parentheses; only the first such word of a line counts.
* `Marker.find?`: the first marker of a line, with what stands around it.
* `Marker.categories`: the categories that a marker lists.
* `suppress`: the line that also asks for one more category. -/

namespace LintMend

open Text

/-- The word that asks a checker to pass over a line. -/
def nolint : Text := "NOLINT".toList

/-- The first marker of a line, with what stands around it. -/
structure Marker where
  /-- The text before the marker. -/
  before : Text
  /-- What stands between its parentheses; none if it has no closed pair of them. -/
  listing : Option Text
  /-- The text after the marker. -/
  after : Text
  deriving DecidableEq, Repr

namespace Marker

/-- The marker before `after`, which may begin with a listing in parentheses. -/
def ofRest (before after : Text) : Marker :=
  match after with
  | [] => ⟨before, none, []⟩
  | c :: inner =>
      if c = '(' ∧ ')' ∈ inner then
        ⟨before, some (inner.takeWhile (· != ')')), (inner.dropWhile (· != ')')).tail⟩
      else ⟨before, none, after⟩

/-- The first marker of a line. -/
def find? (line : Text) : Option Marker :=
  (cutAtWord? nolint line).map fun (before, after) => ofRest before after

/-- The categories that a listing names, separated by commas, without the blanks around them. -/
def categories (listing : Text) : List Text :=
  ((pieces (· == ',') listing).map trim).filter fun category => !category.isEmpty

end Marker

/-- The listing of categories in a marker. -/
def listed (categories : List Text) : Text :=
  nolint ++ '(' :: join ", ".toList categories ++ [')']

/-- The comment that asks for one category (`SuppressionFix.marker`). -/
def suppressionComment (category : Text) : Text := "// ".toList ++ listed [category]

/-- The category that stands for all categories. -/
def anyCategory : Text := ['*']

/-- The line that asks the checker to pass over one more category (`SuppressionFix.apply`). A marker
that already covers the category, and a bare marker, which covers all, are left as they are. -/
def suppress (category line : Text) : Text :=
  match Marker.find? line with
  | none => line ++ "  ".toList ++ suppressionComment category
  | some marker =>
      match marker.listing with
      | none => line
      | some listing =>
          let present := Marker.categories listing
          if anyCategory ∈ present ∨ category ∈ present then line
          else marker.before ++ listed (present ++ [category]) ++ marker.after

end LintMend

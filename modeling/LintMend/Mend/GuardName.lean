import LintMend.Files.Path
import LintMend.Text.Blank
import LintMend.Text.Word

/-! # Names of header guards

The word that guards a header against being read twice (§3.5).
* `GuardName.ofPath`: the name that a file's place under the project root gives; without a path a
  name for files that have none yet.
* `GuardName.suggested?`: the name that a checker's message asks for. -/

namespace LintMend.GuardName

open Text

/-- One character of a guard name: letters and digits of the plain set in upper case, and a low
line for every other character. -/
def sanitizeChar (c : Char) : Char := if c.isAlphanum then c.toUpper else '_'

/-- The guard name that a text gives: its characters made fit for a name, and a low line. -/
def ofText (t : Text) : Text := t.map sanitizeChar ++ ['_']

/-- The name from which the guard of a file without a path is made. -/
def untitled : Text := "UNTITLED_H".toList

/-- The names that lead from the root of the project down to a file, if it is at or under it and
neither path holds a null character. -/
def below? (base : Place) (path : Path) (root : Option Path) : Option (List Text) :=
  match root with
  | none => none
  | some root =>
      match path.resolve? base, root.resolve? base with
      | some place, some top => Place.below? top place
      | _, _ => none

/-- The guard name of a file: from its path under the root of the project, or from its own name if
it is not under it (`default_guard_name`). Relative paths start from `base`. -/
def ofPath (base : Place) (path root : Option Path) : Text :=
  match path with
  | none => untitled ++ ['_']
  | some path =>
      match below? base path root with
      | some names => ofText (Path.text ⟨.here, names⟩)
      | none => ofText path.name

/-! ## Suggestions -/

/-- The phrase before a suggested name. -/
def phrase : Text := "please use:".toList

/-- Whether `c` is the letter `p`, in either case. The long s is a form of the letter s. -/
def sameLetter (p c : Char) : Bool := c.toLower == p || p == 's' && c == 'ſ'

/-- What follows `beginning`, if the text begins so in letters of either case. -/
def afterAnyCase? (beginning t : Text) : Option Text :=
  match beginning, t with
  | [], t => some t
  | _ :: _, [] => none
  | p :: beginning, c :: t => if sameLetter p c then afterAnyCase? beginning t else none

/-- The word at the front of a text, after at least one blank. -/
def spacedWord? (t : Text) : Option Text :=
  let word := leadingWord (trimStart t)
  if t.head?.any isBlank ∧ word ≠ [] then some word else none

/-- The name that a message suggests: the word after the first occurrence of the phrase that has one
(§3.4, `extract_guard_name`). -/
def suggested? : Text → Option Text
  | [] => none
  | c :: rest =>
      match (afterAnyCase? phrase (c :: rest)).bind spacedWord? with
      | some name => some name
      | none => suggested? rest

end LintMend.GuardName

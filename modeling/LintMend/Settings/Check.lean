import LintMend.Files.Tree
import LintMend.Settings.Basic

/-! # Checking settings

Before the checker is run, it is checked that the script and the interpreter are set and are there
(§3.6).
* `SettingsProblem`: what can be wrong.
* `Settings.problem?`: the first thing that is wrong, if anything is. -/

namespace LintMend

/-- What is wrong with the settings (`ConfigInvalid`). -/
inductive SettingsProblem
  | scriptUnset
  | scriptMissing (path : Text)
  | interpreterUnset
  | interpreterMissing (path : Text)
  deriving DecidableEq, Repr

namespace SettingsProblem

/-- How a problem reads. -/
def message : SettingsProblem → Text
  | scriptUnset => "Cpplint path is not configured.".toList
  | scriptMissing path => "Cpplint not found at: ".toList ++ path
  | interpreterUnset => "Python path is not configured.".toList
  | interpreterMissing path =>
      "Python not found at: ".toList ++ path
        ++ "\n\nPython may have been uninstalled or moved.".toList

/-- Whether a problem is about the interpreter. -/
def isInterpreter : SettingsProblem → Bool
  | scriptUnset | scriptMissing _ => false
  | interpreterUnset | interpreterMissing _ => true

end SettingsProblem

namespace Settings

/-- Whether something stands at the path that a setting names. -/
def isThere (fs : Files) (value : Text) : Except FileFault Bool :=
  fs.pathExists (Path.ofText value).text

/-- The first problem with the interpreter. -/
def interpreterProblem? (fs : Files) (value : Option Text) :
    Except FileFault (Option SettingsProblem) :=
  match value.getD [] with
  | [] => .ok (some .interpreterUnset)
  | path =>
      (isThere fs path).map fun there =>
        if there then none else some (.interpreterMissing path)

/-- The first problem with the settings whose values are given: the script is looked at before the
interpreter (`validate_configuration`). -/
def problem? (fs : Files) (value : SettingKey → Option Text) :
    Except FileFault (Option SettingsProblem) :=
  match (value .script).getD [] with
  | [] => .ok (some .scriptUnset)
  | path =>
      match isThere fs path with
      | .error fault => .error fault
      | .ok false => .ok (some (.scriptMissing path))
      | .ok true => interpreterProblem? fs (value .interpreter)

end Settings

end LintMend

import LintMend.Text.Basic

/-! # Drive paths

A path that begins with a drive letter (§3.9), such as `C:\src\a.h`, and the form in which a POSIX
layer on such a system writes it.
* `DrivePath.toPosix`: the drive as a directory, and slashes for backslashes. -/

namespace LintMend.DrivePath

/-- The directory under which the drives are. -/
def drives : Text := "/cygdrive/".toList

/-- The path after a drive letter, without its first slash of either kind. One line feed at the end
is dropped; there is none such path with any other line feed. -/
def afterDrive? (t : Text) : Option Text :=
  let path := match t with
    | [] => []
    | c :: rest => if c = '\\' ∨ c = '/' then rest else c :: rest
  let body := if path.getLast? = some '\n' then path.dropLast else path
  if '\n' ∈ body then none else some body

/-- The drive letter of a path, and the path on the drive. -/
def ofText? (t : Text) : Option (Char × Text) :=
  match t with
  | letter :: colon :: rest =>
      if letter.isAlpha ∧ colon = ':' then (afterDrive? rest).map fun path => (letter, path)
      else none
  | _ => none

/-- The POSIX form of a path (§3.9, `to_cygwin_path`). A path without a drive only has its
backslashes exchanged. -/
def toPosix (t : Text) : Text :=
  match ofText? t with
  | none => Text.exchange '\\' '/' t
  | some (letter, path) => drives ++ letter.toLower :: '/' :: Text.exchange '\\' '/' path

end LintMend.DrivePath

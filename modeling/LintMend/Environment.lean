import LintMend.Files.Path

/-! # Environment

The variables that a program finds when it starts (§4.1), and the home directories that it knows.
* `Environment.get?`: the value of a variable.
* `Environment.expandHome`: a path whose first name stands for a home directory. -/

namespace LintMend

/-- What a program finds when it starts. -/
structure Environment where
  /-- Variables and their values; the first entry of a variable counts. -/
  bindings : List (Text × Text)
  /-- The home directories of the users that are known by name. -/
  homes : List (Text × Text)
  deriving DecidableEq, Repr

namespace Environment

/-- The value of a variable. -/
def get? (env : Environment) (name : Text) : Option Text := env.bindings.lookup name

/-- The value of a variable, if it has one that is not empty. -/
def nonempty? (env : Environment) (name : Text) : Option Text :=
  (env.get? name).filter fun value => !value.isEmpty

/-- The home directory that a name such as `~` or `~user` stands for. -/
def homeOf? (env : Environment) (name : Text) : Option Text :=
  match name with
  | [] => none
  | _ :: [] => env.get? "HOME".toList
  | _ :: user => env.homes.lookup user

/-- A home directory without the slashes at its end; the root is left. -/
def trimHome (home : Text) : Text :=
  let trimmed := Text.trimEndOf (· == '/') home
  if trimmed = [] then ['/'] else trimmed

/-- The path with the home directory for its first name, if that begins with a tilde; none if the
home directory is not known, or is itself such a name. -/
def expandHome (env : Environment) (p : Path) : Option Path :=
  match p.names with
  | [] => some p
  | first :: others =>
      if p.anchor = .here ∧ first.head? = some '~' then
        match (env.homeOf? first).map trimHome with
        | none => none
        | some home =>
            if home.head? = some '~' then none
            else some ((Path.ofText home).followedBy ⟨.here, others⟩)
      else some p

end Environment

end LintMend

import LintMend.Mend.Directive
import LintMend.Mend.Template
import LintMend.Text.LineTable

/-! # Header guards

A header is guarded by a block (§3.5) that begins with `#ifndef WORD` and, on the next line that is
not blank, `#define WORD`, and that ends with the last `#endif` of the file.
* `Guard.find?`: the guard of a header, by its lines.
* `Guard.lastEndif?`: the line of the last `#endif`.
* `Guard.wrap`: a text with a guard put around it.
* `Guard.rename`: a text with its guard renamed; the new name is a replacement template on the first
  two lines and is taken as it is on the last one. -/

namespace LintMend

open Text

/-- The guard of a header. -/
structure Guard where
  /-- The line of its `#ifndef`. -/
  ifndefLine : Nat
  /-- The line of its `#define`. -/
  defineLine : Nat
  /-- The word that both name. -/
  name : Text
  deriving DecidableEq, Repr

namespace Guard

/-- The guard of a header whose lines begin at number `line`. The first `#ifndef` decides: if the
next line that is not blank does not define its word, there is no guard. -/
def findFrom (line : Nat) : List Text → Option Guard
  | [] => none
  | text :: others =>
      match Directive.ifndef? text with
      | none => findFrom (line + 1) others
      | some name =>
          let blank := (others.takeWhile isAllBlank).length
          match others.drop blank with
          | [] => none
          | next :: _ =>
              if Directive.define? next = some name then some ⟨line, line + 1 + blank, name⟩
              else none

/-- The guard of a header with the given lines (`_find_guard`). -/
def find? (texts : List Text) : Option Guard := findFrom 0 texts

/-- The last `#endif` of lines that begin at number `line`. -/
def lastEndifFrom (line : Nat) : List Text → Option Nat
  | [] => none
  | text :: others =>
      match lastEndifFrom (line + 1) others with
      | some last => some last
      | none => if Directive.isEndif text then some line else none

/-- The line of the last `#endif` (`_find_last_endif`). -/
def lastEndif? (texts : List Text) : Option Nat := lastEndifFrom 0 texts

/-- The line that ends the guard with this name. -/
def endifLine (name : Text) : Text := "#endif  // ".toList ++ name

/-- The lines that begin the guard with this name. -/
def opening (name : Text) : Text :=
  "#ifndef ".toList ++ name ++ "\n#define ".toList ++ name ++ "\n\n".toList

/-- A text with a guard put around it (`_wrap_with_guard`). A last line that no line feed ends is
ended first. -/
def wrap (name t : Text) : Text :=
  let filler : Text := if t = [] ∨ t.getLast? = some '\n' then [] else ['\n']
  opening name ++ t ++ filler ++ '\n' :: endifLine name ++ ['\n']

/-- The text with the guard's closing line renewed, if a last `#endif` follows the `#define`. -/
def renewEndif (guard : Guard) (name t : Text) : Text :=
  match lastEndif? (lineTexts t) with
  | none => t
  | some last => if guard.defineLine < last then replaceLine t last (endifLine name) else t

/-- The text with the old word replaced on one line. -/
def renameOn (line : Nat) (old new t : Text) : Text :=
  replaceLine t line (replaceWord old new (lineText t line))

/-- The text with its guard renamed, and what is wrong with the new name as a template, if it is
wrong (`HeaderGuardFix.apply`). In that case the closing line has been renewed and the other two
have not. -/
def rename (guard : Guard) (name t : Text) : Text × Option Template.Fault :=
  let closed := renewEndif guard name t
  if guard.name = name then (closed, none)
  else
    match Template.expand guard.name name with
    | .error fault => (closed, some fault)
    | .ok new =>
        (renameOn guard.ifndefLine guard.name new (renameOn guard.defineLine guard.name new closed),
          none)

end Guard

end LintMend

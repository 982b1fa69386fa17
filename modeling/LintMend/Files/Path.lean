import LintMend.Text.Basic

/-! # Paths

Paths as they are written, and the places that they lead to.
* `Path.ofText`, `Path.text`: a path is written with slashes; empty names and names `.` are dropped
  when it is read, names `..` are kept.
* `Path.name`, `Path.parent`, `Path.child`: its last name, what is above it, what is below it.
* `Place`: where something is, as the names from the root down to it.
* `Path.resolve`: the place that a path leads to when each `..` takes back the name before it.
* `Place.below?`: the names that lead from one place down to another. -/

namespace LintMend

/-- Where a path starts: at the present directory, at the root, or at the root written with exactly
two slashes, which is kept apart. -/
inductive Anchor
  | here
  | root
  | doubleRoot
  deriving DecidableEq, Repr

/-- A path: where it starts, and the names on the way. -/
structure Path where
  /-- Where it starts. -/
  anchor : Anchor
  /-- The names on the way, none of them empty or `.`. -/
  names : List Text
  deriving DecidableEq, Repr

/-- A place in a file tree: the names from the root down to it. -/
abbrev Place := List Text

/-- The name that stands for the directory itself. -/
def selfName : Text := ['.']

/-- The name that stands for the directory above. -/
def parentName : Text := ['.', '.']

namespace Place

/-- The place reached from `place` by one more name. -/
def step (place : Place) (name : Text) : Place :=
  if name = parentName then place.dropLast else place ++ [name]

/-- The text of a place, as a path from the root. -/
def text (place : Place) : Text := '/' :: Text.join ['/'] place

/-- The names that lead from `root` down to `place`, if that is at or under `root`. -/
def below? (root place : Place) : Option (List Text) :=
  match root, place with
  | [], place => some place
  | _ :: _, [] => none
  | r :: root, p :: place => if r = p then below? root place else none

/-- What is at or under a root is the root and the names below it. -/
theorem below?_eq_some_iff {root place names : Place} :
    below? root place = some names ↔ place = root ++ names := by
  induction root generalizing place with
  | nil => cases place <;> simp [below?, eq_comm]
  | cons r root ih =>
      cases place with
      | nil => simp [below?]
      | cons p place =>
          by_cases h : r = p
          · simp [below?, h, ih]
          · simp [below?, h, eq_comm]

end Place

namespace Path

/-- Where a path with this text starts. -/
def anchorOf (t : Text) : Anchor :=
  match (t.takeWhile (· == '/')).length with
  | 0 => .here
  | 2 => .doubleRoot
  | _ => .root

/-- The names on the way of a path with this text. -/
def namesOf (t : Text) : List Text :=
  (Text.pieces (· == '/') t).filter fun name => name ≠ [] ∧ name ≠ selfName

/-- The path that a text writes. -/
def ofText (t : Text) : Path := ⟨anchorOf t, namesOf t⟩

/-- The text of a path. A path that starts here and goes nowhere is `.`. -/
def text (p : Path) : Text :=
  match p.anchor with
  | .here => if p.names = [] then selfName else Text.join ['/'] p.names
  | .root => '/' :: Text.join ['/'] p.names
  | .doubleRoot => '/' :: '/' :: Text.join ['/'] p.names

/-- The last name of a path, empty if it has none. -/
def name (p : Path) : Text := p.names.getLast?.getD []

/-- The path without its last name. -/
def parent (p : Path) : Path := ⟨p.anchor, p.names.dropLast⟩

/-- The path with one more name. -/
def child (p : Path) (name : Text) : Path := ⟨p.anchor, p.names ++ [name]⟩

/-- The path with all the names of another, or the other path if that starts at a root. -/
def followedBy (p q : Path) : Path :=
  if q.anchor = .here then ⟨p.anchor, p.names ++ q.names⟩ else q

/-- The path from the root to a place. -/
def ofPlace (place : Place) : Path := ⟨.root, place⟩

/-- Whether the null character stands in a path; no file has such a name. -/
def hasNull (p : Path) : Bool := p.names.any fun name => name.contains '\x00'

/-- The place that a path leads to from `here`, with each `..` taking back the name before it. At
the root there is nothing to take back. -/
def resolve (here : Place) (p : Path) : Place :=
  p.names.foldl Place.step (if p.anchor = .here then here else [])

/-- The resolved place, unless the path holds a null character. -/
def resolve? (here : Place) (p : Path) : Option Place :=
  if p.hasNull then none else some (p.resolve here)

end Path

end LintMend

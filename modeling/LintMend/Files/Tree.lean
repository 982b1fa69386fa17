import LintMend.Files.Trie
import LintMend.Text.Octets
import LintMend.Text.Quoted

/-! # File trees

A tree of directories and files, and a present directory in it. There are no permissions in it, so
whatever is there can be looked for, read and written, and no symbolic links, so a path without `..`
leads where its names say. What is said of loading, saving and checking rests on this.
* `Files`: what stands where. The root is always there, and is a directory.
* `Files.standsAt?`, `Files.put`: what stands at a place, and something else put there.
* `Files.find`: the place that a path leads to, or why it leads nowhere. Unlike `Path.resolve` this
  goes from directory to directory, so every directory on the way must exist, also one that a `..`
  takes back. `Files.walk_cons` says what a step is.
* `Files.entry`: what stands at a path, if anything.
* `Files.read`, `Files.write`, `Files.makeDirectories`: the operations on files.
* `Attempt`: what an operation of several steps leaves, which may fail between them. -/

namespace LintMend

/-- What stands at a place. -/
inductive Entry
  /-- A directory. -/
  | directory
  /-- A file with its content, and whether it may be executed. -/
  | file (content : Octets) (executable : Bool)
  deriving DecidableEq, Repr

/-- A file tree. -/
structure Files where
  /-- What stands at the places below the root. -/
  tree : Trie Entry
  /-- The present directory. -/
  here : Place
  deriving DecidableEq, Repr

/-- Why an operation on a file fails. -/
inductive Mishap
  | missing
  | present
  | notDirectory
  | isDirectory
  | nameTooLong
  deriving DecidableEq, Repr

namespace Mishap

/-- The number under which a mishap is known. -/
def number : Mishap → Nat
  | missing => 2
  | present => 17
  | notDirectory => 20
  | isDirectory => 21
  | nameTooLong => 36

/-- What a mishap is called. -/
def description : Mishap → Text
  | missing => "No such file or directory".toList
  | present => "File exists".toList
  | notDirectory => "Not a directory".toList
  | isDirectory => "Is a directory".toList
  | nameTooLong => "File name too long".toList

end Mishap

/-- The failure of an operation on a file. -/
inductive FileFault
  /-- A mishap with the path of that text. -/
  | mishap (why : Mishap) (path : Text)
  /-- The path holds a null character. -/
  | nullInPath
  /-- More directories are missing than are made at once (`maxMade`). -/
  | tooDeep
  deriving DecidableEq, Repr

/-- How a failure reads. -/
def FileFault.message : FileFault → Text
  | mishap why path =>
      "[Errno ".toList ++ Numeral.write why.number ++ "] ".toList ++ why.description
        ++ ": ".toList ++ Text.quoted path
  | nullInPath => "embedded null byte".toList
  | tooDeep => "maximum recursion depth exceeded while calling a Python object".toList

/-- What an attempt to change a file tree leaves. -/
structure Attempt where
  /-- The file tree that is left, with the changes made before the failure. -/
  files : Files
  /-- Why the attempt failed, if it did. -/
  fault : Option FileFault
  deriving DecidableEq, Repr

/-- The attempt of one step, which leaves the file tree alone if it fails. -/
def Attempt.ofStep (before : Files) : Except FileFault Files → Attempt
  | .ok after => ⟨after, none⟩
  | .error fault => ⟨before, some fault⟩

/-- What an attempt and one step after it leave. There is no step after a failure. -/
def Attempt.andThen (first : Attempt) (step : Files → Except FileFault Files) : Attempt :=
  match first.fault with
  | some _ => first
  | none => Attempt.ofStep first.files (step first.files)

namespace Files

/-- The most octets that one name may have. -/
def maxName : Nat := 255

/-- The number of octets at which a path is too long. -/
def maxPath : Nat := 4096

/-- The places below the root at which something stands, and what that is. -/
def entries (fs : Files) : List (Place × Entry) := fs.tree.toList

/-- The root, which is a directory. -/
def root (fs : Files) : Spot Entry := ⟨some .directory, fs.tree⟩

/-- What stands at a place. -/
def standsAt? (fs : Files) (place : Place) : Option Entry := (fs.root.descend place).value

/-- The root is a directory. -/
@[simp] theorem standsAt?_nil (fs : Files) : fs.standsAt? [] = some .directory := rfl

/-- The tree with something put at a place, in place of what stood there. The root stays what it
is. -/
def put (fs : Files) (place : Place) (entry : Entry) : Files :=
  { fs with tree := (fs.root.insert entry place).below }

/-- What has been put at a place other than the root stands there. -/
theorem standsAt?_put_self (fs : Files) {place : Place} (h : place ≠ []) (entry : Entry) :
    (fs.put place entry).standsAt? place = some entry := by
  have same : (fs.put place entry).root = fs.root.insert entry place := by
    cases place with
    | nil => exact absurd rfl h
    | cons name place => rfl
  rw [standsAt?, same, Spot.value_descend_insert, if_pos rfl]

/-- What stands at other places is left alone. -/
theorem standsAt?_put_of_ne (fs : Files) {place other : Place} (h : other ≠ place) (entry : Entry) :
    (fs.put place entry).standsAt? other = fs.standsAt? other := by
  cases place with
  | nil => rfl
  | cons name place =>
      have same : (fs.put (name :: place) entry).root = fs.root.insert entry (name :: place) := rfl
      rw [standsAt?, same, Spot.value_descend_insert, if_neg h]
      rfl

/-! ## Paths in a tree -/

/-- `walk` from the place with the names `above`, last first, where `spot` is what that holds. -/
def walkFrom (fs : Files) (above : List Text) (spot : Spot Entry) :
    List Text → Except Mishap Place
  | [] => .ok above.reverse
  | name :: others =>
      match spot.value with
      | none => .error .missing
      | some (.file _ _) => .error .notDirectory
      | some .directory =>
          if name = [] ∨ name = selfName then fs.walkFrom above spot others
          else if name = parentName then
            -- a spot does not know what is above it, so the walk goes down from the root again
            fs.walkFrom above.tail (fs.root.descend above.tail.reverse) others
          else if maxName < (Text.encode name).length then .error .nameTooLong
          else
            let next := spot.below.spot name
            if next.value.isNone then .error .missing
            else fs.walkFrom (name :: above) next others

/-- Where the names lead from a place. Every name but the last must be that of a directory; an empty
name or `.` stays where it is, which must be a directory too. -/
def walk (fs : Files) (place : Place) (names : List Text) : Except Mishap Place :=
  fs.walkFrom place.reverse (fs.root.descend place) names

/-- Without names a walk stays where it is. -/
@[simp] theorem walk_nil (fs : Files) (place : Place) : fs.walk place [] = .ok place := by
  simp [walk, walkFrom]

/-- A step of a walk looks only at what stands at the place and at the name below it. -/
theorem walk_cons (fs : Files) (place : Place) (name : Text) (others : List Text) :
    fs.walk place (name :: others)
      = match fs.standsAt? place with
        | none => .error .missing
        | some (.file _ _) => .error .notDirectory
        | some .directory =>
            if name = [] ∨ name = selfName then fs.walk place others
            else if name = parentName then fs.walk place.dropLast others
            else if maxName < (Text.encode name).length then .error .nameTooLong
            else if (fs.standsAt? (place ++ [name])).isNone then .error .missing
            else fs.walk (place ++ [name]) others := by
  simp [walk, walkFrom, standsAt?, Spot.descend_concat]

/-- Where a path begins to be walked. -/
def start (fs : Files) (path : Text) : Place := if path.head? = some '/' then [] else fs.here

/-- The place that the path with this text leads to. -/
def find (fs : Files) (path : Text) : Except Mishap Place :=
  if path = [] then .error .missing
  else if maxPath ≤ (Text.encode path).length then .error .nameTooLong
  else fs.walk (fs.start path) (Text.pieces (· == '/') path)

/-- The place at which the path with this text would make something new: its last name in the
directory that the others lead to. -/
def findNew (fs : Files) (path : Text) : Except Mishap Place :=
  let names := Text.pieces (· == '/') path
  (fs.walk (fs.start path) names.dropLast).map (· ++ [names.getLast?.getD []])

/-- What stands at a path, if anything, as it is asked of the programs in the settings (§3.6,
`validate_configuration`) and of the root of a project (§3.7, `CpplintRunner.run`). A name that is
too long is an error of its own, while no path with a null character leads anywhere. -/
def entry (fs : Files) (path : Text) : Except FileFault (Option Entry) :=
  if path.contains '\x00' then .ok none
  else
    match fs.find path with
    | .ok place => .ok (fs.standsAt? place)
    | .error .nameTooLong => .error (.mishap .nameTooLong path)
    | .error _ => .ok none

/-- Whether anything stands at a path. -/
def pathExists (fs : Files) (path : Text) : Except FileFault Bool :=
  (fs.entry path).map Option.isSome

/-- Whether a directory stands at a path. -/
def isDirectory (fs : Files) (path : Text) : Except FileFault Bool :=
  (fs.entry path).map (· == some .directory)

/-- Whether a file stands at a path. -/
def isFile (fs : Files) (path : Text) : Except FileFault Bool :=
  (fs.entry path).map fun
    | some (.file _ _) => true
    | _ => false

/-- The content of the file at a path. -/
def read (fs : Files) (path : Text) : Except FileFault Octets :=
  if path.contains '\x00' then .error .nullInPath
  else
    match fs.find path with
    | .error why => .error (.mishap why path)
    | .ok place =>
        match fs.standsAt? place with
        | some (.file content _) => .ok content
        | some .directory => .error (.mishap .isDirectory path)
        | none => .error (.mishap .missing path)

/-- The tree after some content has been written to the file at a path, which is made if the
directory is there and has no such name yet. -/
def write (fs : Files) (path : Text) (content : Octets) : Except FileFault Files :=
  if path.contains '\x00' then .error .nullInPath
  else
    match fs.find path with
    | .ok place =>
        match fs.standsAt? place with
        -- a file that is written over keeps its mode
        | some (.file _ executable) => .ok (fs.put place (.file content executable))
        | _ => .error (.mishap .isDirectory path)
    | .error .missing =>
        match fs.findNew path with
        | .ok place => .ok (fs.put place (.file content false))
        | .error why => .error (.mishap why path)
    | .error why => .error (.mishap why path)

/-- The tree with a new directory at a path. -/
def makeDirectory (fs : Files) (path : Text) : Except FileFault Files :=
  if path.contains '\x00' then .error .nullInPath
  else
    match fs.find path with
    | .ok _ => .error (.mishap .present path)
    | .error .missing =>
        match fs.findNew path with
        | .ok place => .ok (fs.put place .directory)
        | .error why => .error (.mishap why path)
    | .error why => .error (.mishap why path)

/-- The tree after a directory has been made, unless one stands there already. -/
def ensureDirectory (fs : Files) (path : Text) : Except FileFault Files :=
  match fs.makeDirectory path with
  | .ok made => .ok made
  | .error .nullInPath => .error .nullInPath
  | .error (.mishap .missing path) => .error (.mishap .missing path)
  | .error fault =>
      match fs.isDirectory path with
      | .error worse => .error worse
      | .ok true => .ok fs
      | .ok false => .error fault

/-- The most directories that are made at once. Each is made in a call of its own; that there is
room for so many calls has been seen of one interpreter, at the depth at which settings are saved,
and is no number of the program. -/
def maxMade : Nat := 980

/-- `makeDirectories` for a path that starts at `anchor` and whose last names, last first, are
given, if `more` directories can still be made besides the one at this path. -/
def makeDirectoriesFrom (fs : Files) (anchor : Anchor) (more : Nat) : List Text → Attempt
  | [] => Attempt.ofStep fs (fs.ensureDirectory (Path.text ⟨anchor, []⟩))
  | name :: above =>
      let path := Path.text ⟨anchor, (name :: above).reverse⟩
      match fs.ensureDirectory path, more with
      | .error (.mishap .missing _), 0 => ⟨fs, some .tooDeep⟩
      | .error (.mishap .missing _), more + 1 =>
          (fs.makeDirectoriesFrom anchor more above).andThen fun made => made.ensureDirectory path
      | done, _ => Attempt.ofStep fs done

/-- Make a directory together with the directories above it that are not there yet. Those that could
be made stay even if another one cannot. -/
def makeDirectories (fs : Files) (path : Path) : Attempt :=
  fs.makeDirectoriesFrom path.anchor (maxMade - 1) path.names.reverse

end Files

end LintMend

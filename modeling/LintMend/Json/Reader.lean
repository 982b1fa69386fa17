import LintMend.Json.Quoted
import LintMend.Json.Value

/-! # Reading JSON

The value that a JSON text describes (§4.1). Besides the standard, the numbers `NaN`, `Infinity` and
`-Infinity` are read.
* `Json.read`: the value of a text, or why it is not read.
* `Json.Fault`: the text is not JSON; a whole number in it is too long; lists and records are nested
  too deep. The first of these that is met counts.

Each reader takes what it reads off the front of a text and returns what is left. -/

namespace LintMend.Json

/-- What can hold other values. -/
inductive Container
  | list
  | record
  deriving DecidableEq, Repr

/-- Why a text is not read. -/
inductive Fault
  /-- It is not JSON. -/
  | malformed
  /-- A whole number has too many digits. -/
  | overlong (e : OverlongNumeral)
  /-- The values are nested too deep; what the innermost one is. -/
  | tooDeep (container : Container)
  deriving DecidableEq, Repr

/-- How deep lists and records may be nested. Each is read in a call of its own; that there is room
for so many calls has been seen of one interpreter, at the depth at which settings are loaded, and
is no number of the program. -/
def maxDepth : Nat := 990

/-- The blanks that may stand between the parts of a JSON text. -/
def isBlank (c : Char) : Bool := c == ' ' || c == '\t' || c == '\n' || c == '\r'

/-- A text without the blanks in front. -/
def skipBlanks (t : Text) : Text := t.dropWhile isBlank

/-- A reader: a value and what is left of the text. -/
abbrev Reader (α : Type) := Text → Except Fault (α × Text)

/-! ## Scalars -/

/-- The fraction at the front of a text, empty if there is none. -/
def fraction (t : Text) : Text :=
  match t with
  | [] => []
  | c :: rest =>
      let digits := rest.takeWhile Char.isDigit
      if c = '.' ∧ digits ≠ [] then c :: digits else []

/-- The exponent at the front of a text, empty if there is none. -/
def exponent (t : Text) : Text :=
  match t with
  | [] => []
  | c :: rest =>
      let sign := (rest.take 1).filter fun s => s == '+' || s == '-'
      let digits := (rest.drop sign.length).takeWhile Char.isDigit
      if (c = 'e' ∨ c = 'E') ∧ digits ≠ [] then c :: sign ++ digits else []

/-- The whole part of a number: a zero alone, or digits that do not begin with one. -/
def wholePart (t : Text) : Text :=
  match t with
  | [] => []
  | c :: rest => if c = '0' then [c] else (c :: rest).takeWhile Char.isDigit

/-- Read a number after its sign, if it has one. A number without fraction and exponent is whole and
must not be too long. -/
def readNumber (sign : Text) : Reader Json := fun t =>
  let whole := wholePart t
  let part := fraction (t.drop whole.length)
  let power := exponent (t.drop (whole.length + part.length))
  if whole = [] then .error .malformed
  else
    let value := (Json.number (sign ++ whole ++ part ++ power),
      t.drop (whole.length + part.length + power.length))
    -- only whole numbers are limited in length
    if part = [] ∧ power = [] then
      match Numeral.read whole with
      | .error e => .error (.overlong e)
      | .ok _ => .ok value
    else .ok value

/-- The words that stand for values. -/
def constants : List (Text × Json) :=
  [("null".toList, .null), ("true".toList, .bool true), ("false".toList, .bool false),
    ("NaN".toList, .number "NaN".toList), ("Infinity".toList, .number "Infinity".toList),
    ("-Infinity".toList, .number "-Infinity".toList)]

/-- Read a word that stands for a value. -/
def constant? (t : Text) : Option (Json × Text) :=
  constants.findSome? fun (word, value) => (Text.after? word t).map fun rest => (value, rest)

/-- Read a value that holds no others. -/
def readScalar : Reader Json := fun t =>
  match constant? t with
  | some found => .ok found
  | none =>
      match t with
      | [] => .error .malformed
      | c :: rest =>
          if c = '"' then
            match unquoteFrom 0 rest with
            | some (value, after) => .ok (.text value, after)
            | none => .error .malformed
          else if c = '-' then readNumber ['-'] rest
          else readNumber [] t

/-! ## Lists and records -/

/-- Read the items of a list that is not empty, and its closing bracket. The fuel bounds the number
of items. -/
def readItems (item : Reader Json) : Nat → Reader (List Json)
  | 0, _ => .error .malformed
  | fuel + 1, t =>
      match item t with
      | .error e => .error e
      | .ok (value, rest) =>
          match skipBlanks rest with
          | [] => .error .malformed
          | c :: after =>
              if c = ']' then .ok ([value], after)
              else if c = ',' then
                (readItems item fuel (skipBlanks after)).map fun (values, left) =>
                  (value :: values, left)
              else .error .malformed

/-- Read the name of a member, the colon and the blanks around it. -/
def readName : Reader Text := fun t =>
  match t with
  | [] => .error .malformed
  | c :: rest =>
      if c = '"' then
        match unquoteFrom 0 rest with
        | none => .error .malformed
        | some (name, after) =>
            match skipBlanks after with
            | [] => .error .malformed
            | d :: left => if d = ':' then .ok (name, skipBlanks left) else .error .malformed
      else .error .malformed

/-- Read the members of a record that is not empty, and its closing bracket. The fuel bounds the
number of members. -/
def readMembers (item : Reader Json) : Nat → Reader (List (Text × Json))
  | 0, _ => .error .malformed
  | fuel + 1, t =>
      match readName t with
      | .error e => .error e
      | .ok (name, start) =>
          match item start with
          | .error e => .error e
          | .ok (value, rest) =>
              match skipBlanks rest with
              | [] => .error .malformed
              | c :: after =>
                  if c = '\x7d' then .ok ([(name, value)], after)
                  else if c = ',' then
                    (readMembers item fuel (skipBlanks after)).map fun (members, left) =>
                      ((name, value) :: members, left)
                  else .error .malformed

/-- Read a list after its opening bracket. -/
def readList (item : Reader Json) : Reader Json := fun t =>
  match skipBlanks t with
  | [] => .error .malformed
  | c :: rest =>
      if c = ']' then .ok (.list [], rest)
      else
        (readItems item (rest.length + 1) (c :: rest)).map fun (items, left) =>
          (.list items, left)

/-- Read a record after its opening bracket. -/
def readRecord (item : Reader Json) : Reader Json := fun t =>
  match skipBlanks t with
  | [] => .error .malformed
  | c :: rest =>
      if c = '\x7d' then .ok (.record [], rest)
      else
        (readMembers item (rest.length + 1) (c :: rest)).map fun (members, left) =>
          (.record members, left)

/-- Read a value in which lists and records are nested at most so deep. -/
def readValue : Nat → Reader Json
  | 0, t =>
      match t with
      | [] => .error .malformed
      | c :: _ =>
          if c = '[' then .error (.tooDeep .list)
          else if c = '\x7b' then .error (.tooDeep .record)
          else readScalar t
  | depth + 1, t =>
      match t with
      | [] => .error .malformed
      | c :: rest =>
          if c = '[' then readList (readValue depth) rest
          else if c = '\x7b' then readRecord (readValue depth) rest
          else readScalar t

/-- The value that a text describes. Only blanks may stand around it. -/
def read (t : Text) : Except Fault Json :=
  match readValue maxDepth (skipBlanks t) with
  | .error e => .error e
  | .ok (value, rest) => if skipBlanks rest = [] then .ok value else .error .malformed

end LintMend.Json

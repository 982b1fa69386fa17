import LintMend.Finding.Basic
import LintMend.Text.Blank

/-! # Reading diagnostics

A checker writes one diagnostic on a line (§3.1), as `path:line: message [category] [confidence]`.
Paths and messages may themselves hold colons, brackets and blanks, so a line can have several
readings; the one with the longest path counts, then the longest gap before the message, then the
longest message.
* `Reading`: a line taken apart; `Reading.text` puts it together, and `Reading.WellFormed` is the
  grammar.
* `Reading.ofText?`: the reading of a line that counts, if it has any.
* `Finding.ofReading`: the finding that a reading states.
* `Finding.ofLines`: the findings among some lines, up to the first line number that is too long. -/

namespace LintMend

open Text

/-- The end of a diagnostic: blanks, the category in brackets, blanks, the confidence in
brackets. -/
structure Closing where
  /-- The blanks before the category. -/
  gap : Text
  /-- The category. -/
  category : Text
  /-- The blanks before the confidence. -/
  between : Text
  /-- The digits of the confidence. -/
  confidence : Text
  deriving DecidableEq, Repr

/-- A diagnostic line taken apart. -/
structure Reading where
  /-- The path of the file. -/
  path : Text
  /-- The digits of the line number. -/
  line : Text
  /-- The blanks before the message. -/
  gap : Text
  /-- The message. -/
  message : Text
  /-- Category and confidence. -/
  closing : Closing
  deriving DecidableEq, Repr

/-! ## The grammar -/

/-- A text of one or more characters of a kind. -/
def IsRun (kind : Char → Bool) (t : Text) : Prop := t ≠ [] ∧ ∀ c ∈ t, kind c = true

instance (kind : Char → Bool) (t : Text) : Decidable (IsRun kind t) :=
  decidable_of_decidable_of_iff (and_congr Iff.rfl List.all_eq_true)

/-- The text of the end of a diagnostic. -/
def Closing.text (r : Closing) : Text :=
  r.gap ++ '[' :: r.category ++ ']' :: r.between ++ '[' :: r.confidence ++ [']']

/-- What the parts of the end of a diagnostic may be. -/
structure Closing.WellFormed (r : Closing) : Prop where
  gap : IsRun isBlank r.gap
  category : IsRun (· != ']') r.category
  between : IsRun isBlank r.between
  confidence : IsRun Char.isDigit r.confidence

/-- The line that a reading takes apart. -/
def Reading.text (r : Reading) : Text :=
  r.path ++ ':' :: r.line ++ ':' :: r.gap ++ r.message ++ r.closing.text

/-- What the parts of a diagnostic may be: path and message lie on one line. -/
structure Reading.WellFormed (r : Reading) : Prop where
  path : IsRun (· != '\n') r.path
  line : IsRun Char.isDigit r.line
  gap : IsRun isBlank r.gap
  message : IsRun (· != '\n') r.message
  closing : r.closing.WellFormed

/-! ## The reading that counts -/

/-- The confidence in brackets, if the text is just that. -/
def confidence? (t : Text) : Option Text :=
  match t with
  | [] => none
  | c :: rest =>
      let digits := rest.takeWhile Char.isDigit
      if c = '[' ∧ digits ≠ [] ∧ rest.dropWhile Char.isDigit = [']'] then some digits else none

/-- The category in brackets, blanks, and the confidence, if the text is just that. -/
def tags? (gap t : Text) : Option Closing :=
  match t with
  | [] => none
  | c :: rest =>
      let category := rest.takeWhile (· != ']')
      let after := (rest.dropWhile (· != ']')).tail
      let between := after.takeWhile isBlank
      if c = '[' ∧ category ≠ [] ∧ between ≠ [] then
        (confidence? (after.dropWhile isBlank)).map fun digits => ⟨gap, category, between, digits⟩
      else none

/-- The end of a diagnostic, if the text is just that. -/
def closing? (t : Text) : Option Closing :=
  match t.takeWhile isBlank with
  | [] => none
  | gap => tags? gap (t.dropWhile isBlank)

/-- The longest message, and the end of a diagnostic after it. -/
def message? : Text → Option (Text × Closing)
  | [] => none
  | c :: rest =>
      if c = '\n' then none
      else
        match message? rest with
        | some (message, closing) => some (c :: message, closing)
        | none => (closing? rest).map fun closing => ([c], closing)

/-- The longest gap, then the longest message, and the end of a diagnostic. -/
def gap? : Text → Option (Text × Text × Closing)
  | [] => none
  | c :: rest =>
      if isBlank c then
        match gap? rest with
        | some (gap, found) => some (c :: gap, found)
        | none => (message? rest).map fun found => ([c], found)
      else none

/-- The line number between colons, and what comes after it. -/
def lineNumber? (t : Text) : Option (Text × Text × Text × Closing) :=
  match t with
  | [] => none
  | c :: rest =>
      let digits := rest.takeWhile Char.isDigit
      match rest.dropWhile Char.isDigit with
      | [] => none
      | d :: after =>
          if c = ':' ∧ digits ≠ [] ∧ d = ':' then (gap? after).map fun found => (digits, found)
          else none

/-- The reading of a line that counts: of all there are, the one with the longest path, then the
longest gap, then the longest message. -/
def Reading.ofText? : Text → Option Reading
  | [] => none
  | c :: rest =>
      if c = '\n' then none
      else
        match Reading.ofText? rest with
        | some r => some { r with path := c :: r.path }
        | none =>
            (lineNumber? rest).map fun (line, gap, message, closing) =>
              ⟨[c], line, gap, message, closing⟩

/-! ## Findings -/

namespace Finding

/-- The finding that a reading states (`_coerce_confidence`). A line number that is too long is
refused; a confidence that is too long gives way to the default. -/
def ofReading (r : Reading) : Except OverlongNumeral Finding :=
  match Numeral.read r.line with
  | .error e => .error e
  | .ok line =>
      .ok ⟨line, r.message, r.closing.category,
        match Numeral.read r.closing.confidence with
        | .ok n => n
        | .error _ => defaultConfidence⟩

/-- The finding on one line of a checker's output; none if the line is no diagnostic
(`parse_line`). -/
def ofText? (t : Text) : Except OverlongNumeral (Option Finding) :=
  match Reading.ofText? t with
  | none => .ok none
  | some r => (ofReading r).map some

/-- A line of output without the characters that end it. -/
def trimLineEnd (t : Text) : Text := trimEndOf (fun c => c == '\r' || c == '\n') t

/-- The findings among lines of output, in order, and what stopped the reading early, if anything
did (`parse_lines`). -/
def ofLines : List Text → List Finding × Option OverlongNumeral
  | [] => ([], none)
  | line :: others =>
      match ofText? (trimLineEnd line) with
      | .error e => ([], some e)
      | .ok none => ofLines others
      | .ok (some finding) =>
          let (findings, stopped) := ofLines others
          (finding :: findings, stopped)

end Finding

end LintMend

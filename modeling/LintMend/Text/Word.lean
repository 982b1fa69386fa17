import LintMend.Text.Basic
import LintMend.Text.Letter

/-! # Words

What counts as one word of source text, in any script.
* `isWord`: letters, numerals of every kind, and the low line.
* `runs`: a text cut wherever word characters and others meet, so that a whole word is exactly a
  run; `flatten_runs` says that nothing is lost.
* `cutAtWord?`: the text before and after the first occurrence of a whole word.
* `replaceWord`: every whole word of one spelling replaced by a text.
* `isIdentifier`: whether a text is a name in the sense of identifiers. -/

namespace LintMend.Text

/-- Whether a character can be part of a word: a letter, a numeral or the low line. -/
def isWord (c : Char) : Bool :=
  if c.toNat < 128 then c.isAlphanum || c == '_'
  else letters.contains c || decimals.contains c || otherNumerals.contains c

/-- The word at the front of a text, empty if it does not begin with a word character. -/
def leadingWord (t : Text) : Text := t.takeWhile isWord

/-- A text cut where word characters and others meet. -/
def runs : Text → List Text
  | [] => []
  | c :: rest =>
      match runs rest with
      | [] => [[c]]
      | run :: others =>
          if run.head?.all (isWord · == isWord c) then (c :: run) :: others
          else [c] :: run :: others

@[simp] theorem runs_nil : runs [] = [] := rfl

/-- The runs of a text together are the text. -/
@[simp] theorem flatten_runs (t : Text) : (runs t).flatten = t := by
  induction t with
  | nil => rfl
  | cons c rest ih =>
      simp only [runs]
      split
      · next h => simp [h] at ih; simp [ih]
      · next run others h =>
          rw [h] at ih
          split <;> simpa using ih

/-- The text before and after the first run that is `word`. -/
def cutAtRun? (word : Text) : List Text → Option (Text × Text)
  | [] => none
  | run :: others =>
      if run = word then some ([], others.flatten)
      else (cutAtRun? word others).map fun (before, after) => (run ++ before, after)

/-- The text before and after the first occurrence of `word` as a whole word. -/
def cutAtWord? (word t : Text) : Option (Text × Text) := cutAtRun? word (runs t)

/-- The text with every whole word `old` replaced by `new`. -/
def replaceWord (old new t : Text) : Text :=
  (runs t).flatMap fun run => if run = old then new else run

/-- Replacing a word by itself changes nothing. -/
@[simp] theorem replaceWord_self (word t : Text) : replaceWord word word t = t := by
  have h : ∀ run : Text, (if run = word then word else run) = run := fun run => by
    split <;> simp_all
  simp [replaceWord, h, List.flatMap_def]

/-! ## Identifiers -/

/-- Letters that cannot open an identifier, and some that cannot stand in one at all. -/
def barredOpenings : Ranges :=
  [(0x37a, 0x37a), (0xe33, 0xe33), (0xeb3, 0xeb3), (0x2e2f, 0x2e2f), (0xfc5e, 0xfc63),
  (0xfdfa, 0xfdfb), (0xfe70, 0xfe70), (0xfe72, 0xfe72), (0xfe74, 0xfe74), (0xfe76, 0xfe76),
  (0xfe78, 0xfe78), (0xfe7a, 0xfe7a), (0xfe7c, 0xfe7c), (0xfe7e, 0xfe7e), (0xff9e, 0xff9f)]

/-- Letters that cannot open an identifier but can stand inside one. -/
def innerLetters : Ranges := [(0xe33, 0xe33), (0xeb3, 0xeb3), (0xff9e, 0xff9f)]

/-- Characters that are no letters and open an identifier all the same. -/
def extraOpenings : Ranges :=
  [(0x1885, 0x1886), (0x2118, 0x2118), (0x212e, 0x212e)]

/-- Characters that are neither letters, marks, digits nor connectors and can stand inside an
identifier all the same. -/
def extraInner : Ranges :=
  [(0xb7, 0xb7), (0x387, 0x387), (0x1369, 0x1371), (0x19da, 0x19da)]

/-- Whether an identifier can begin with the character. -/
def opensIdentifier (c : Char) : Bool :=
  if c.toNat < 128 then c.isAlpha || c == '_'
  else letters.contains c && !barredOpenings.contains c || extraOpenings.contains c

/-- Whether the character can stand in an identifier after the first. -/
def continuesIdentifier (c : Char) : Bool :=
  if c.toNat < 128 then c.isAlphanum || c == '_'
  else opensIdentifier c || innerLetters.contains c || marks.contains c || decimals.contains c
    || connectors.contains c || extraInner.contains c

/-- Whether a text is an identifier. -/
def isIdentifier : Text → Bool
  | [] => false
  | c :: rest => opensIdentifier c && rest.all continuesIdentifier

end LintMend.Text

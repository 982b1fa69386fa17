import LintMend.Text.Basic

/-! # Shell words

How a command line for a POSIX shell is put together from words (§3.9), and taken apart again.
* `Shell.quote`: a word, quoted if it needs to be.
* `Shell.split?`: the words of a line that uses nothing of the shell but blanks, quotes and
  backslashes; none if a quote is not closed or a backslash is last.
* `Shell.words`: the words of a line that may break off anywhere.

Between single quotes every character stands for itself. Between double quotes a backslash takes
away the meaning of a double quote or a backslash after it, and stands for itself before anything
else. Outside quotes a backslash takes away the meaning of any character after it. -/

namespace LintMend.Shell

/-- The single quote. -/
def singleQuote : Char := '\''

/-- The double quote. -/
def doubleQuote : Char := '"'

/-- Whether a character can stand in a word without quotes. -/
def isSafe (c : Char) : Bool :=
  c.isAlphanum || ['_', '@', '%', '+', '=', ':', ',', '.', '/', '-'].contains c

/-- A character between single quotes. The single quote itself ends the quotes, stands between
double quotes, and opens new ones. -/
def quotedChar (c : Char) : Text :=
  if c = singleQuote then
    [singleQuote, doubleQuote, singleQuote, doubleQuote, singleQuote]
  else [c]

/-- A word, as it stands in a command line. -/
def quote (word : Text) : Text :=
  if word ≠ [] ∧ word.all isSafe then word
  else singleQuote :: (word.flatMap quotedChar ++ [singleQuote])

/-- The empty word is written as a pair of quotes. -/
@[simp] theorem quote_nil : quote [] = [singleQuote, singleQuote] := rfl

/-! ## Splitting -/

/-- The blanks between words. -/
def isBlank (c : Char) : Bool := c == ' ' || c == '\t' || c == '\n' || c == '\r'

/-- Where in a line the reader is. -/
inductive Mode
  /-- Between words, or in a word outside quotes. -/
  | open
  /-- Between single quotes. -/
  | single
  /-- Between double quotes. -/
  | double
  /-- After a backslash outside quotes. -/
  | escaped
  /-- After a backslash between double quotes. -/
  | doubleEscaped
  deriving DecidableEq, Repr

/-- The words of the rest of a line, and where the reader is at its end; `word` is what has been
read of a word that has begun. -/
def splitFrom (mode : Mode) (word : Option Text) : Text → List Text × Mode
  | [] => (word.toList, mode)
  | c :: rest =>
      let grown := some (word.getD [] ++ [c])
      match mode with
      | .open =>
          if isBlank c then
            let (others, last) := splitFrom .open none rest
            (word.toList ++ others, last)
          else if c = singleQuote then splitFrom .single (some (word.getD [])) rest
          else if c = doubleQuote then splitFrom .double (some (word.getD [])) rest
          else if c = '\\' then splitFrom .escaped (some (word.getD [])) rest
          else splitFrom .open grown rest
      | .single =>
          if c = singleQuote then splitFrom .open word rest else splitFrom .single grown rest
      | .double =>
          if c = doubleQuote then splitFrom .open word rest
          else if c = '\\' then splitFrom .doubleEscaped word rest
          else splitFrom .double grown rest
      | .escaped => splitFrom .open grown rest
      | .doubleEscaped =>
          -- between double quotes a backslash stays unless it stands before one of these
          if c = doubleQuote ∨ c = '\\' then splitFrom .double grown rest
          else splitFrom .double (some (word.getD [] ++ ['\\', c])) rest

/-- The words of a line, the last of them as far as it goes. -/
def words (line : Text) : List Text := (splitFrom .open none line).1

/-- The words of a line that ends outside quotes. -/
def split? (line : Text) : Option (List Text) :=
  if (splitFrom .open none line).2 = .open then some (words line) else none

end LintMend.Shell

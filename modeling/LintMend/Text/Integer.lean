import LintMend.Text.Blank
import LintMend.Text.Letter
import LintMend.Text.Quoted

/-! # Integers

Whole numbers as people write them: in the digits of any script, with low lines between digits to
group them, with a sign in front and blanks around.
* `digitValue?`: what a decimal digit of any script is worth.
* `isDigits`: whether a text is all digits, those of no decimal system included.
* `Integer.read`: the number that a text spells, or why it spells none; `Integer.read?` for short.
* `NumeralFault`: the reasons. -/

namespace LintMend

namespace Text

/-- What a decimal digit of any script is worth. The digits of a script stand together, from zero to
nine. -/
def digitValue? (c : Char) : Option Nat :=
  if c.isDigit then some (c.toNat - 48)
  else (decimals.startOf? c).map fun first => (c.toNat - first) % 10

/-- Whether a character is a digit, of a decimal system or of none. -/
def isAnyDigit (c : Char) : Bool := (digitValue? c).isSome || otherDigits.contains c

/-- Whether a text is all digits, and has one. -/
def isDigits (t : Text) : Bool := !t.isEmpty && t.all isAnyDigit

@[simp] theorem isDigits_nil : isDigits [] = false := rfl

end Text

/-- Why a text is not read as a number. -/
inductive NumeralFault
  /-- It begins with too many digits. -/
  | overlong (e : OverlongNumeral)
  /-- It spells no number. -/
  | unreadable (t : Text)
  deriving DecidableEq, Repr

namespace NumeralFault

/-- How many characters of a text a message shows, the quote before them included. -/
def shownLength : Nat := 200

/-- How it reads that a text is not read as a number. -/
def message : NumeralFault → Text
  | overlong e => e.message
  | unreadable t =>
      "invalid literal for int() with base 10: ".toList ++ (Text.quoted t).take shownLength

end NumeralFault

namespace Integer

open Text

/-- Whether a character may stand around a number: any blank but the separators of files, groups,
records and units. -/
def isPadding (c : Char) : Bool := isBlank c && !(0x1c ≤ c.toNat && c.toNat ≤ 0x1f)

/-- The plain digits of a run of digits, in which a low line may stand between two digits. -/
def digits? (t : Text) : Option Text :=
  if (pieces (· == '_') t).contains [] then none
  else (t.filter (· != '_')).mapM fun c => (digitValue? c).map Nat.digitChar

/-- Whether a character may stand in a run of digits. -/
def isRunning (c : Char) : Bool := c == '_' || (digitValue? c).isSome

/-- The sign of a number, negative or not, and what follows it. -/
def signed : Text → Bool × Text
  | '-' :: rest => (true, rest)
  | '+' :: rest => (false, rest)
  | t => (false, t)

/-- The number that a text spells. That a run of digits is too long is found before what follows
it. -/
def read (t : Text) : Except NumeralFault Int :=
  let (negative, unsigned) := signed (t.dropWhile isPadding)
  match digits? (unsigned.takeWhile isRunning) with
  | none => .error (.unreadable t)
  | some digits =>
      match Numeral.read digits with
      | .error e => .error (.overlong e)
      | .ok n =>
          if (unsigned.dropWhile isRunning).all isPadding then
            .ok (if negative then -(n : Int) else n)
          else .error (.unreadable t)

/-- The empty text spells no number. -/
@[simp] theorem read_nil : read [] = .error (.unreadable []) := rfl

/-- The number that a text spells, if it spells one. -/
def read? (t : Text) : Option Int := (read t).toOption

@[simp] theorem read?_nil : read? [] = none := rfl

end Integer

end LintMend

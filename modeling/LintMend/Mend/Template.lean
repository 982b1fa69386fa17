import LintMend.Text.Integer
import LintMend.Text.Quoted
import LintMend.Text.Word

/-! # Replacement templates

The text that replaces a word may be written as a template, as the new name of a header guard is
(§3.5, `HeaderGuardFix.apply`). In a template a backslash begins an escape: the usual control
characters, characters by their octal number, and references to what was matched. Only the whole
match can be referred to, as group 0.
* `Template.Token`: a character, or a backslash with the character after it.
* `Template.expand`: the text that a template stands for, or what is wrong with it.

A template is read one token ahead. So a lone backslash at the end is found when the token before it
is taken, ahead of anything that is wrong with that token. -/

namespace LintMend.Template

open Text

/-- One token of a template. -/
inductive Token
  /-- A character that stands for itself. -/
  | plain (c : Char)
  /-- A backslash and the character after it. -/
  | escape (c : Char)
  /-- A backslash with nothing after it. -/
  | dangling
  deriving DecidableEq, Repr

/-- The tokens of a template. -/
def tokens : Text → List Token
  | [] => []
  | [c] => if c = '\\' then [.dangling] else [.plain c]
  | c :: d :: rest =>
      if c = '\\' then .escape d :: tokens rest else .plain c :: tokens (d :: rest)

namespace Token

/-- The characters of a token. -/
def text : Token → Text
  | plain c => [c]
  | escape c => ['\\', c]
  | dangling => ['\\']

/-- The number of characters of a token. -/
def width (t : Token) : Nat := t.text.length

/-- The octal digit that a token is. -/
def octal? : Token → Option Char
  | plain c => if '0' ≤ c ∧ c ≤ '7' then some c else none
  | _ => none

/-- The decimal digit that a token is. -/
def digit? : Token → Option Char
  | plain c => if c.isDigit then some c else none
  | _ => none

end Token

/-- The tokens of a template together are the template. -/
@[simp] theorem flatMap_text_tokens (t : Text) : (tokens t).flatMap Token.text = t := by
  fun_induction tokens t <;> simp_all [Token.text]

/-- What can be wrong with a template. -/
inductive Problem
  /-- A backslash at the end. -/
  | danglingEscape
  /-- An escape that means nothing. -/
  | badEscape (c : Char)
  /-- A group reference without its opening bracket. -/
  | missingOpening
  /-- A group reference without a name. -/
  | missingName
  /-- A group reference without its closing bracket. -/
  | unterminatedName
  /-- A group name that is no name. -/
  | badName (name : Text)
  /-- A group name that no group has. -/
  | unknownName (name : Text)
  /-- A group number that no group has. -/
  | noGroup (number : Nat)
  /-- An octal number that is too large. -/
  | octalTooLarge (digits : Text)
  deriving DecidableEq, Repr

/-- What is wrong with a template, and where. -/
structure Fault where
  /-- What is wrong. -/
  problem : Problem
  /-- The offset at which it is. -/
  position : Nat
  /-- The template. -/
  template : Text
  deriving DecidableEq, Repr

namespace Problem

/-- What a problem is called. -/
def description : Problem → Text
  | danglingEscape => "bad escape (end of pattern)".toList
  | badEscape c => "bad escape ".toList ++ ['\\', c]
  | missingOpening => "missing <".toList
  | missingName => "missing group name".toList
  | unterminatedName => "missing >, unterminated name".toList
  | badName name => "bad character in group name ".toList ++ quoted name
  | unknownName name => "unknown group name ".toList ++ quoted name
  | noGroup number => "invalid group reference ".toList ++ Numeral.write number
  | octalTooLarge digits =>
      "octal escape value ".toList ++ digits ++ " outside of range 0-0o377".toList

/-- Whether a problem is reported without its place. -/
def isUnplaced : Problem → Bool
  | unknownName _ => true
  | _ => false

end Problem

/-- How a fault reads: with its offset, and in a template of several lines also with line and
column, counted from 1. -/
def Fault.message (e : Fault) : Text :=
  if e.problem.isUnplaced then e.problem.description
  else
    let before := e.template.take e.position
    let place := e.problem.description ++ " at position ".toList ++ Numeral.write e.position
    if '\n' ∈ e.template then
      place ++ " (line ".toList ++ Numeral.write (before.count '\n' + 1) ++ ", column ".toList
        ++ Numeral.write ((before.reverse.takeWhile (· != '\n')).length + 1) ++ ")".toList
    else place

/-! ## Expansion -/

/-- The character of a simple escape. -/
def simpleEscape? (c : Char) : Option Char :=
  if c = 'a' then some '\x07'
  else if c = 'b' then some '\x08'
  else if c = 'f' then some '\x0c'
  else if c = 'n' then some '\n'
  else if c = 'r' then some '\r'
  else if c = 't' then some '\t'
  else if c = 'v' then some '\x0b'
  else if c = '\\' then some '\\'
  else none

/-- The number that octal digits spell. -/
def octalValue (digits : Text) : Nat := digits.foldl (fun n d => 8 * n + (d.toNat - 48)) 0

/-- The octal digits at the front of some tokens, at most `most`. -/
def octalDigits (most : Nat) (ts : List Token) : Text :=
  ((ts.take most).map Token.octal?).takeWhile Option.isSome |>.filterMap id

/-- What one escape stands for. -/
inductive Meaning
  /-- A text, spelled with `more` tokens after the escape. -/
  | text (t : Text) (more : Nat)
  /-- A problem, found when `more` tokens after the escape have been taken, at an offset that is
  `back` before the one then reached. -/
  | problem (p : Problem) (more back : Nat)
  deriving DecidableEq, Repr

/-- What a reference to the group called `name` stands for, when `more` tokens spell it. A name that
is no identifier is a number. -/
def groupMeaning (whole name : Text) (more : Nat) : Meaning :=
  if isIdentifier name then .problem (.unknownName name) more 0
  else
    match Integer.read? name with
    | some (.ofNat 0) => .text whole more
    | some (.ofNat number) => .problem (.noGroup number) more (name.length + 1)
    | _ => .problem (.badName name) more (name.length + 1)

/-- What an escape for a group stands for, by the tokens after it. -/
def namedMeaning (whole : Text) (rest : List Token) : Meaning :=
  if rest.head? ≠ some (.plain '<') then .problem .missingOpening 0 0
  else
    let nameTokens := rest.tail.takeWhile (· != .plain '>')
    let name := nameTokens.flatMap Token.text
    if nameTokens.length = rest.tail.length then
      if name = [] then .problem .missingName (rest.length) 0
      else .problem .unterminatedName (rest.length) name.length
    else if name = [] then .problem .missingName 2 1
    else groupMeaning whole name (nameTokens.length + 2)

/-- What an escape with a digit from 1 to 9 stands for, by the tokens after it: a character if it is
three octal digits, else a group. -/
def numberedMeaning (first : Char) (rest : List Token) : Meaning :=
  let octal := octalDigits 2 rest
  if '1' ≤ first ∧ first ≤ '7' ∧ octal.length = 2 then
    let digits := first :: octal
    if 0o377 < octalValue digits then .problem (.octalTooLarge ('\\' :: digits)) 2 4
    else .text [Char.ofNat (octalValue digits)] 2
  else
    match rest.head?.bind Token.digit? with
    | some second => .problem (.noGroup (Numeral.value [first, second])) 1 2
    | none => .problem (.noGroup (Numeral.value [first])) 0 1

/-- What a backslash followed by `c` stands for, by the tokens after it. -/
def escapeMeaning (whole : Text) (c : Char) (rest : List Token) : Meaning :=
  if c = 'g' then namedMeaning whole rest
  else if c = '0' then
    let digits := octalDigits 2 rest
    .text [Char.ofNat (octalValue digits)] digits.length
  else if c.isDigit then numberedMeaning c rest
  else
    match simpleEscape? c with
    | some d => .text [d] 0
    | none => if c.isAlpha then .problem (.badEscape c) 0 2 else .text ['\\', c] 0

/-- The number of characters of some tokens. -/
def widthOf (ts : List Token) : Nat := (ts.flatMap Token.text).length

/-- Whether a lone backslash is met when `taken` of these tokens are taken, the next one being
looked at. -/
def meetsDangling (taken : Nat) (ts : List Token) : Bool :=
  (ts.take (taken + 1)).contains .dangling

/-- The text that tokens at an offset stand for, the first `skip` of them already accounted for. A
fault is a problem and its offset. -/
def expandFrom (whole : Text) : Nat → Nat → List Token → Except (Problem × Nat) Text
  | _, _, [] => .ok []
  | skip + 1, offset, t :: rest => expandFrom whole skip (offset + t.width) rest
  | 0, offset, .dangling :: _ => .error (.danglingEscape, offset)
  | 0, offset, .plain c :: rest =>
      if meetsDangling 0 rest then .error (.danglingEscape, offset + 1)
      else (expandFrom whole 0 (offset + 1) rest).map (c :: ·)
  | 0, offset, .escape c :: rest =>
      let reached (more : Nat) := offset + 2 + widthOf (rest.take more)
      match escapeMeaning whole c rest with
      | .text t more =>
          if meetsDangling more rest then .error (.danglingEscape, offset + 1 + widthOf rest)
          else (expandFrom whole more (offset + 2) rest).map (t ++ ·)
      | .problem p more back =>
          -- the reader is one token ahead, so it meets a dangling escape before it complains
          if meetsDangling more rest then .error (.danglingEscape, offset + 1 + widthOf rest)
          else .error (p, reached more - back)

/-- The text that a template stands for where `whole` has been matched. -/
def expand (whole template : Text) : Except Fault Text :=
  match expandFrom whole 0 0 (tokens template) with
  | .ok t => .ok t
  | .error (problem, position) => .error ⟨problem, position, template⟩

end LintMend.Template

import LintMend.Text.Numeral

/-! # Quoted JSON texts

A text in a JSON file (§4.1) stands between double quotes and is written in printable plain
characters.
* `Json.quote`: the written form of a text.
* `Json.unquoteFrom`: the text that a written form stands for, read up to the closing quote.

An escaped number may be half of a pair that together number a character beyond the first 65536. The
texts here hold whole characters only, so a half without its other half, which the program keeps as
it is, is stood in for by the replacement character (`Json.loneHalf`). -/

namespace LintMend.Json

/-- The escape of a number below 65536. -/
def escapeNumber (n : Nat) : Text := '\\' :: 'u' :: Numeral.writeHex 4 n

/-- One character, as it is written between quotes. -/
def quoteChar (c : Char) : Text :=
  if c = '"' then ['\\', '"']
  else if c = '\\' then ['\\', '\\']
  else if c = '\n' then ['\\', 'n']
  else if c = '\r' then ['\\', 'r']
  else if c = '\t' then ['\\', 't']
  else if c = '\x08' then ['\\', 'b']
  else if c = '\x0c' then ['\\', 'f']
  else if ' ' ≤ c ∧ c ≤ '~' then [c]
  else if c.toNat < 0x10000 then escapeNumber c.toNat
  else
    -- beyond the first plane a character is written as two halves
    let n := c.toNat - 0x10000
    escapeNumber (0xD800 + n / 0x400) ++ escapeNumber (0xDC00 + n % 0x400)

/-- A text, as it is written. -/
def quote (t : Text) : Text := '"' :: (t.flatMap quoteChar ++ ['"'])

/-! ## Reading -/

/-- The value of a hexadecimal digit. -/
def hexDigit? (c : Char) : Option Nat :=
  if '0' ≤ c ∧ c ≤ '9' then some (c.toNat - 48)
  else if 'a' ≤ c ∧ c ≤ 'f' then some (c.toNat - 87)
  else if 'A' ≤ c ∧ c ≤ 'F' then some (c.toNat - 55)
  else none

/-- The number that the first four characters spell, each of which must be a hexadecimal digit. -/
def hexNumber? : Text → Option Nat
  | a :: b :: c :: d :: _ => do
      return ((((← hexDigit? a) * 16 + (← hexDigit? b)) * 16 + (← hexDigit? c)) * 16
        + (← hexDigit? d))
  | _ => none

/-- The character that stands in for half of a pair. The program keeps the half, which is no
character and so is in no text here, so a file with such an escape is not read as it is by the
program. -/
def loneHalf : Char := Char.ofNat 0xFFFD

/-- Whether a number is the first half of a pair. -/
def isFirstHalf (n : Nat) : Bool := 0xD800 ≤ n && n ≤ 0xDBFF

/-- Whether a number is the second half of a pair. -/
def isSecondHalf (n : Nat) : Bool := 0xDC00 ≤ n && n ≤ 0xDFFF

/-- The character of an escape, by what follows the backslash and the letter `u`, and how many
characters spell it. The escape right after a first half must be well formed even if it turns out
not to be the second half. -/
def numbered? (t : Text) : Option (Char × Nat) :=
  match hexNumber? t with
  | none => none
  | some n =>
      if isFirstHalf n then
        -- a first half counts only together with a second one right behind it
        match Text.after? ['\\', 'u'] (t.drop 4) with
        | none => some (loneHalf, 4)
        | some next =>
            match hexNumber? next with
            | none => none
            | some m =>
                if isSecondHalf m then
                  some (Char.ofNat (0x10000 + (n - 0xD800) * 0x400 + (m - 0xDC00)), 10)
                else some (loneHalf, 4)
      else if isSecondHalf n then some (loneHalf, 4)
      else some (Char.ofNat n, 4)

/-- The character of an escape, by what follows the backslash, and how many characters spell it. -/
def escaped? : Text → Option (Char × Nat)
  | [] => none
  | c :: rest =>
      if c = '"' ∨ c = '\\' ∨ c = '/' then some (c, 1)
      else if c = 'n' then some ('\n', 1)
      else if c = 'r' then some ('\r', 1)
      else if c = 't' then some ('\t', 1)
      else if c = 'b' then some ('\x08', 1)
      else if c = 'f' then some ('\x0c', 1)
      else if c = 'u' then (numbered? rest).map fun (d, more) => (d, more + 1)
      else none

/-- The text up to the closing quote, and what follows the quote; the first `skip` characters are
already accounted for. Control characters must be escaped. -/
def unquoteFrom : Nat → Text → Option (Text × Text)
  | _, [] => none
  | skip + 1, _ :: rest => unquoteFrom skip rest
  | 0, c :: rest =>
      if c = '"' then some ([], rest)
      else if c = '\\' then
        match escaped? rest with
        | none => none
        | some (d, more) => (unquoteFrom more rest).map fun (t, after) => (d :: t, after)
      else if c.toNat < 0x20 then none
      else (unquoteFrom 0 rest).map fun (t, after) => (c :: t, after)

end LintMend.Json

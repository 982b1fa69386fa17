import LintMend.Text.Numeral
import LintMend.Text.Printable

/-! # Quoted texts

How a message shows a text: between quotes, with everything that cannot be seen written out.
* `quoted`: single quotes, or double quotes around a text that has single quotes and no double
  ones; the quote, the backslash and unprintable characters are escaped. -/

namespace LintMend.Text

/-- One character between quotes of the kind `quote`. -/
def quotedChar (quote c : Char) : Text :=
  if c = quote ∨ c = '\\' then ['\\', c]
  else if c = '\n' then ['\\', 'n']
  else if c = '\r' then ['\\', 'r']
  else if c = '\t' then ['\\', 't']
  else if isPrintable c then [c]
  else if c.toNat < 0x100 then '\\' :: 'x' :: Numeral.writeHex 2 c.toNat
  else if c.toNat < 0x10000 then '\\' :: 'u' :: Numeral.writeHex 4 c.toNat
  else '\\' :: 'U' :: Numeral.writeHex 8 c.toNat

/-- A text between quotes, as messages show it. -/
def quoted (t : Text) : Text :=
  let quote := if '\'' ∈ t ∧ '"' ∉ t then '"' else '\''
  quote :: (t.flatMap (quotedChar quote) ++ [quote])

end LintMend.Text

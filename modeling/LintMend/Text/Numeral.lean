import LintMend.Text.Basic

/-! # Numerals

Whole numbers in decimal digits, as they are read and written here.
* `Numeral.value`: the number that a run of digits spells.
* `Numeral.read`: the same for numerals up to `maxDigits` digits; a longer one is refused, leading
  zeros counting as digits.
* `Numeral.write`, `Numeral.writeInt`: the digits of a number. -/

namespace LintMend

/-- The refusal of a numeral with more digits than are read. -/
structure OverlongNumeral where
  /-- How many digits it has. -/
  digits : Nat
  deriving DecidableEq, Repr

namespace Numeral

/-- The most digits that a numeral may have, unless the interpreter is told otherwise. -/
def maxDigits : Nat := 4300

/-- The number that decimal digits spell. -/
def value (digits : Text) : Nat :=
  digits.foldl (fun n d => 10 * n + (d.toNat - 48)) 0

/-- The number that decimal digits spell, unless there are more of them than are read. -/
def read (digits : Text) : Except OverlongNumeral Nat :=
  if digits.length ≤ maxDigits then .ok (value digits) else .error ⟨digits.length⟩

/-- The decimal digits of a number. -/
def write (n : Nat) : Text := Nat.toDigits 10 n

/-- The decimal digits of a whole number, after a minus sign if it is negative. -/
def writeInt : Int → Text
  | .ofNat n => write n
  | .negSucc n => '-' :: write (n + 1)

/-- The number as hexadecimal digits, at least `width` of them. -/
def writeHex (width n : Nat) : Text :=
  let digits := Nat.toDigits 16 n
  List.replicate (width - digits.length) '0' ++ digits

/-- Reading fails exactly on numerals that are too long. -/
theorem read_eq_error_iff {digits : Text} {e : OverlongNumeral} :
    read digits = .error e ↔ maxDigits < digits.length ∧ e = ⟨digits.length⟩ := by
  unfold read
  split
  · exact ⟨nofun, fun h => by omega⟩
  · rename_i h
    constructor
    · rintro ⟨⟩
      exact ⟨Nat.lt_of_not_le h, rfl⟩
    · rintro ⟨-, rfl⟩
      rfl

end Numeral

/-- The words in which an overlong numeral is refused. -/
def OverlongNumeral.message (e : OverlongNumeral) : Text :=
  "Exceeds the limit (".toList ++ Numeral.write Numeral.maxDigits
    ++ " digits) for integer string conversion: value has ".toList ++ Numeral.write e.digits
    ++ " digits; use sys.set_int_max_str_digits() to increase the limit".toList

end LintMend

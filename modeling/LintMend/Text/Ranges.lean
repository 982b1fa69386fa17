/-! # Ranges of code points

A property of characters beyond the first 128 is given as a table of ranges of code points. A table
lists its ranges in increasing order, each by its first and its last code point.
* `Ranges.contains`: whether a character lies in one of the ranges.
* `Ranges.startOf?`: the first code point of the range that a character lies in. -/

namespace LintMend.Text

/-- A set of code points, as closed ranges in increasing order. -/
abbrev Ranges := List (Nat × Nat)

/-- Whether the code point of `c` lies in one of the ranges. -/
def Ranges.contains (ranges : Ranges) (c : Char) : Bool :=
  ranges.any fun range => range.1 ≤ c.toNat && c.toNat ≤ range.2

@[simp] theorem Ranges.contains_nil (c : Char) : Ranges.contains [] c = false := rfl

/-- The first code point of the range that `c` lies in. -/
def Ranges.startOf? (ranges : Ranges) (c : Char) : Option Nat :=
  (ranges.find? fun range => range.1 ≤ c.toNat && c.toNat ≤ range.2).map Prod.fst

end LintMend.Text

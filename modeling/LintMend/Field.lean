import LintMend.Text.Numeral

/-! # Refused fields

A record refuses values that break its rules (§2, §4.1). A refusal names each field at fault, in the
order of the fields, in the words of the library `pydantic`.
* `FieldFault`: one thing that is wrong.
* `FieldFault.messages`: how a refusal reads. -/

namespace LintMend

/-- One thing that is wrong with the values for a record. -/
inductive FieldFault
  /-- A number that must not be negative is. -/
  | negative (field : Text)
  /-- A range ends before it starts. -/
  | reversed (start stop : Nat)
  /-- A value that must be a text is something else. -/
  | notText (field : Text)
  deriving DecidableEq, Repr

namespace FieldFault

/-- How one fault reads: the field, the kind of fault, and what is expected. -/
def message : FieldFault → Text
  | negative field =>
      field ++ ": greater_than_equal: Input should be greater than or equal to 0".toList
  | reversed start stop =>
      ": value_error: Value error, range end ".toList ++ Numeral.write stop
        ++ " precedes start ".toList ++ Numeral.write start
  | notText field => field ++ ": string_type: Input should be a valid string".toList

/-- How the faults of one record read. -/
def messages (faults : List FieldFault) : Text := Text.join "; ".toList (faults.map message)

/-- The natural number that `n` is, or the fault of the field that it was meant for. -/
def natural (field : Text) (n : Int) : Except FieldFault Nat :=
  if 0 ≤ n then .ok n.toNat else .error (.negative field)

end FieldFault

end LintMend

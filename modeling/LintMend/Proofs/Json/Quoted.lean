import LintMend.Json.Quoted
import LintMend.Proofs.Text.Octets

/-! # Quoted texts are read back

A text that is quoted for a JSON file is read back, whatever its characters, and its written form is
plain.
* `Numeral.writeHex_four`: the four digits of a number below 65536.
* `Json.hexNumber?_writeHex`: these digits are read as the number.
* `Json.Writes`: a character is written as itself or as an escape that stands for it.
* `Json.unquoteFrom_quoted`: so a quoted text is read up to its closing quote.
* `Json.isPrintable_of_mem_quote`: all that is written can be printed. -/

namespace LintMend

/-! ## Hexadecimal digits -/

namespace Numeral

/-- The last digit of a number that is written with at least two digits. -/
theorem writeHex_succ {width : Nat} (hwidth : 0 < width) (n : Nat) :
    writeHex (width + 1) n = writeHex width (n / 16) ++ [Nat.digitChar (n % 16)] := by
  rcases Nat.lt_or_ge n 16 with hn | hn
  · have hzero : n / 16 = 0 := Nat.div_eq_of_lt hn
    have hsucc : List.replicate width '0' = List.replicate (width - 1) '0' ++ ['0'] := by
      rw [← List.replicate_succ', Nat.sub_add_cancel hwidth]
    rw [writeHex, writeHex, Nat.toDigits_of_lt_base hn, hzero, Nat.mod_eq_of_lt hn]
    exact congrArg (· ++ [Nat.digitChar n]) hsucc
  · have hcount : width + 1 - (Nat.toDigits 16 (n / 16) ++ [Nat.digitChar (n % 16)]).length
        = width - (Nat.toDigits 16 (n / 16)).length := by
      rw [List.length_append, List.length_singleton]
      omega
    rw [writeHex, writeHex, Nat.toDigits_of_base_le (by decide) hn, hcount, List.append_assoc]

/-- The four digits of a number below 65536. -/
theorem writeHex_four {n : Nat} (h : n < 0x10000) :
    writeHex 4 n = [Nat.digitChar (n / 0x1000), Nat.digitChar (n / 0x100 % 16),
      Nat.digitChar (n / 0x10 % 16), Nat.digitChar (n % 16)] := by
  have hone : writeHex 1 (n / 16 / 16 / 16) = [Nat.digitChar (n / 16 / 16 / 16)] := by
    rw [writeHex, Nat.toDigits_of_lt_base (by omega)]
    rfl
  have htop : n / 16 / 16 / 16 = n / 0x1000 := by omega
  have hnext : n / 16 / 16 % 16 = n / 0x100 % 16 := by omega
  rw [writeHex_succ (by decide), writeHex_succ (by decide), writeHex_succ (by decide), hone, htop,
    hnext]
  rfl

end Numeral

namespace Json

/-! ## Escapes -/

/-- Whether a character is one of the 95 that can be printed everywhere. -/
def IsPrintable (c : Char) : Prop := 0x20 ≤ c.toNat ∧ c.toNat ≤ 0x7e

instance (c : Char) : Decidable (IsPrintable c) :=
  inferInstanceAs (Decidable (0x20 ≤ c.toNat ∧ c.toNat ≤ 0x7e))

/-- The characters of a text all of which can be printed. -/
theorem isPrintable_of_all {t : Text} (h : (t.all fun c => decide (IsPrintable c)) = true)
    {c : Char} (hc : c ∈ t) : IsPrintable c := of_decide_eq_true (List.all_eq_true.1 h c hc)

/-- A hexadecimal digit has the value that it was written for. -/
theorem hexDigit?_digitChar {d : Nat} (h : d < 16) : hexDigit? (Nat.digitChar d) = some d := by
  have hall : ∀ d < 16, hexDigit? (Nat.digitChar d) = some d := by decide
  exact hall d h

/-- The digits of a number are read as that number. -/
theorem hexNumber?_writeHex {n : Nat} (h : n < 0x10000) (rest : Text) :
    hexNumber? (Numeral.writeHex 4 n ++ rest) = some n := by
  have hvalue : ((n / 0x1000 * 16 + n / 0x100 % 16) * 16 + n / 0x10 % 16) * 16 + n % 16 = n := by
    omega
  rw [Numeral.writeHex_four h]
  simp only [List.cons_append, List.nil_append, hexNumber?]
  rw [hexDigit?_digitChar (by omega), hexDigit?_digitChar (by omega),
    hexDigit?_digitChar (by omega), hexDigit?_digitChar (by omega)]
  exact congrArg some hvalue

/-- The digits of a number are four. -/
theorem length_writeHex {n : Nat} (h : n < 0x10000) : (Numeral.writeHex 4 n).length = 4 := by
  rw [Numeral.writeHex_four h]
  rfl

/-- The digits of a number can be printed. -/
theorem isPrintable_of_mem_writeHex {n : Nat} (h : n < 0x10000) {d : Char}
    (hd : d ∈ Numeral.writeHex 4 n) : IsPrintable d := by
  have hall : ∀ k < 16, IsPrintable (Nat.digitChar k) := by decide
  rw [Numeral.writeHex_four h] at hd
  simp only [List.mem_cons, List.not_mem_nil, or_false] at hd
  rcases hd with rfl | rfl | rfl | rfl <;> exact hall _ (by omega)

/-- The number of a character that is no surrogate is read as that character. -/
theorem numbered?_writeHex {c : Char} (h : c.toNat < 0x10000) (rest : Text) :
    numbered? (Numeral.writeHex 4 c.toNat ++ rest) = some (c, 4) := by
  have hchar := Text.toNat_bounds c
  have hfirst : isFirstHalf c.toNat = false := by
    rw [isFirstHalf, Bool.and_eq_false_iff, decide_eq_false_iff_not, decide_eq_false_iff_not]
    omega
  have hsecond : isSecondHalf c.toNat = false := by
    rw [isSecondHalf, Bool.and_eq_false_iff, decide_eq_false_iff_not, decide_eq_false_iff_not]
    omega
  rw [numbered?, hexNumber?_writeHex h]
  simp [hfirst, hsecond]

/-- The two halves of the number of a character beyond the first plane are read as that
character. -/
theorem numbered?_halves {c : Char} {n : Nat} (hc : c.toNat = 0x10000 + n) (rest : Text) :
    numbered? (Numeral.writeHex 4 (0xD800 + n / 0x400)
        ++ (escapeNumber (0xDC00 + n % 0x400) ++ rest)) = some (c, 10) := by
  have hchar := Text.toNat_bounds c
  have hfirst : isFirstHalf (0xD800 + n / 0x400) = true := by
    rw [isFirstHalf, Bool.and_eq_true, decide_eq_true_iff, decide_eq_true_iff]
    omega
  have hsecond : isSecondHalf (0xDC00 + n % 0x400) = true := by
    rw [isSecondHalf, Bool.and_eq_true, decide_eq_true_iff, decide_eq_true_iff]
    omega
  have hvalue : 0x10000 + (0xD800 + n / 0x400 - 0xD800) * 0x400 + (0xDC00 + n % 0x400 - 0xDC00)
      = c.toNat := by
    omega
  have hbehind : (Numeral.writeHex 4 (0xD800 + n / 0x400)
      ++ (escapeNumber (0xDC00 + n % 0x400) ++ rest)).drop 4
      = ['\\', 'u'] ++ (Numeral.writeHex 4 (0xDC00 + n % 0x400) ++ rest) :=
    List.drop_left' (length_writeHex (by omega))
  rw [numbered?, hexNumber?_writeHex (by omega)]
  simp only [hfirst, if_true, hbehind]
  rw [Text.after?_eq_some_iff.2 rfl]
  simp only [hexNumber?_writeHex (show 0xDC00 + n % 0x400 < 0x10000 by omega), hsecond, if_true,
    hvalue, Char.ofNat_toNat]

/-- The letter `u` behind a backslash is followed by a number. -/
theorem escaped?_number (t : Text) :
    escaped? ('u' :: t) = (numbered? t).map fun (d, more) => (d, more + 1) := rfl

/-- The written forms of a character: itself, or a backslash and what stands for it behind one. -/
inductive Writes (c : Char) : Text → Prop
  /-- A character that can be printed and means nothing in a quoted text. -/
  | itself (hquote : c ≠ '"') (hback : c ≠ '\\') (hplain : IsPrintable c) : Writes c [c]
  /-- What is spelled behind a backslash, whatever follows it. -/
  | escape {spelled : Text} (hplain : ∀ d ∈ spelled, IsPrintable d)
      (hread : ∀ rest, escaped? (spelled ++ rest) = some (c, spelled.length)) :
      Writes c ('\\' :: spelled)

/-- One letter stands for the character that is read for it. -/
theorem writes_letter {c letter : Char} (hplain : IsPrintable letter)
    (hread : ∀ rest, escaped? (letter :: rest) = some (c, 1)) : Writes c ['\\', letter] :=
  .escape (fun _ hd => List.mem_singleton.1 hd ▸ hplain) hread

/-- The number of a character stands for it. -/
theorem writes_number {c : Char} (h : c.toNat < 0x10000) : Writes c (escapeNumber c.toNat) := by
  rw [escapeNumber]
  refine .escape ?_ fun rest => ?_
  · exact List.forall_mem_cons.2 ⟨by decide, fun d => isPrintable_of_mem_writeHex h⟩
  · rw [List.cons_append, escaped?_number, numbered?_writeHex h, List.length_cons,
      length_writeHex h, Option.map_some]

/-- Two halves of its number stand for a character beyond the first plane. -/
theorem writes_halves {c : Char} {n : Nat} (hc : c.toNat = 0x10000 + n) :
    Writes c (escapeNumber (0xD800 + n / 0x400) ++ escapeNumber (0xDC00 + n % 0x400)) := by
  have hchar := Text.toNat_bounds c
  have hfirst : 0xD800 + n / 0x400 < 0x10000 := by omega
  have hsecond : 0xDC00 + n % 0x400 < 0x10000 := by omega
  rw [escapeNumber.eq_def (0xD800 + n / 0x400), List.cons_append, List.cons_append]
  refine .escape ?_ fun rest => ?_
  · rw [List.forall_mem_cons, List.forall_mem_append, escapeNumber, List.forall_mem_cons,
      List.forall_mem_cons]
    exact ⟨by decide, fun d => isPrintable_of_mem_writeHex hfirst, by decide, by decide,
      fun d => isPrintable_of_mem_writeHex hsecond⟩
  · have hcount : (Numeral.writeHex 4 (0xD800 + n / 0x400)
        ++ escapeNumber (0xDC00 + n % 0x400)).length = 10 := by
      rw [List.length_append, escapeNumber, List.length_cons, List.length_cons,
        length_writeHex hfirst, length_writeHex hsecond]
    rw [List.cons_append, escaped?_number, List.append_assoc, numbered?_halves hc,
      List.length_cons, hcount, Option.map_some]

/-- Every character is written in one of its forms. -/
theorem writes_quoteChar (c : Char) : Writes c (quoteChar c) := by
  unfold quoteChar
  split
  · next h => exact writes_letter (by decide) fun rest => by rw [h]; rfl
  split
  · next h => exact writes_letter (by decide) fun rest => by rw [h]; rfl
  split
  · next h => exact writes_letter (by decide) fun rest => by rw [h]; rfl
  split
  · next h => exact writes_letter (by decide) fun rest => by rw [h]; rfl
  split
  · next h => exact writes_letter (by decide) fun rest => by rw [h]; rfl
  split
  · next h => exact writes_letter (by decide) fun rest => by rw [h]; rfl
  split
  · next h => exact writes_letter (by decide) fun rest => by rw [h]; rfl
  split
  · next hquote hback _ _ _ _ _ h => exact .itself hquote hback h
  split
  · next h => exact writes_number h
  · next h =>
      obtain ⟨n, hc⟩ := Nat.exists_eq_add_of_le (Nat.le_of_not_lt h)
      rw [hc, Nat.add_sub_cancel_left]
      exact writes_halves hc

/-! ## Texts -/

/-- Characters that are accounted for are passed over. -/
theorem unquoteFrom_length_append (passed rest : Text) :
    unquoteFrom passed.length (passed ++ rest) = unquoteFrom 0 rest := by
  induction passed with
  | nil => rfl
  | cons c passed ih => rw [List.length_cons, List.cons_append, unquoteFrom, ih]

/-- A written character is read back, and the text goes on behind it. -/
theorem unquoteFrom_append_of_writes {c : Char} {written : Text} (h : Writes c written)
    (rest : Text) :
    unquoteFrom 0 (written ++ rest)
      = (unquoteFrom 0 rest).map fun (t, after) => (c :: t, after) := by
  cases h with
  | itself hquote hback hplain =>
      rw [List.singleton_append, unquoteFrom, if_neg hquote, if_neg hback,
        if_neg (Nat.not_lt.2 hplain.1)]
  | escape _ hread =>
      rw [List.cons_append, unquoteFrom, if_neg (by decide), if_pos rfl, hread]
      dsimp only
      rw [unquoteFrom_length_append]

/-- A written character can be printed. -/
theorem isPrintable_of_writes {c d : Char} {written : Text} (h : Writes c written)
    (hd : d ∈ written) : IsPrintable d := by
  cases h with
  | itself _ _ hplain => exact List.mem_singleton.1 hd ▸ hplain
  | escape hplain _ =>
      rcases List.mem_cons.1 hd with rfl | hd
      · decide
      · exact hplain d hd

/-- A quoted text is read up to its closing quote. -/
theorem unquoteFrom_quoted (t rest : Text) :
    unquoteFrom 0 (t.flatMap quoteChar ++ '"' :: rest) = some (t, rest) := by
  induction t with
  | nil => simp [unquoteFrom]
  | cons c t ih =>
      rw [List.flatMap_cons, List.append_assoc,
        unquoteFrom_append_of_writes (writes_quoteChar c), ih]
      rfl

/-- All that is written of a text can be printed. -/
theorem isPrintable_of_mem_quote {t : Text} {d : Char} (h : d ∈ quote t) : IsPrintable d := by
  rw [quote, List.mem_cons, List.mem_append, List.mem_singleton, List.mem_flatMap] at h
  rcases h with rfl | ⟨c, -, hd⟩ | rfl
  · decide
  · exact isPrintable_of_writes (writes_quoteChar c) hd
  · decide

end Json

end LintMend

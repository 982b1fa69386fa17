import LintMend.Text.Lines
import LintMend.Text.Octets

/-! # Stored texts

A text that is stored as octets is read back.
* `scan_encodeChar`: the octets of a character are read as that character, whatever follows them.
* `exists_of_scan`: octets that are read as a character are those of that character.
* `decode_encode`, `decode_eq_ok_iff`: so a stored text is read back, and nothing else is read.
* `unifyNewlines_of_not_mem`: a text without carriage returns is left alone when newlines are
  unified. -/

namespace LintMend.Text

/-! ## Characters -/

/-- The octet of a number below 256 is that number. -/
theorem toNat_toUInt8 {n : Nat} (h : n < 0x100) : n.toUInt8.toNat = n :=
  UInt8.toNat_ofNat_of_lt h

/-- The numbers of characters leave a gap for surrogates, and end. -/
theorem toNat_bounds (c : Char) :
    c.toNat < 0xD800 ∨ 0xDFFF < c.toNat ∧ c.toNat < 0x110000 := c.valid

/-- An octet that may stand where it does adds its six bits. -/
theorem scanTrailing_cons {bounds : Nat × Nat} {k : Nat} (hk : k < 0x40)
    (hbounds : bounds.1 ≤ 0x80 + k ∧ 0x80 + k ≤ bounds.2) (bits more left : Nat) (rest : Octets) :
    scanTrailing bounds bits more (left + 1) ((0x80 + k).toUInt8 :: rest)
      = scanTrailing (0x80, 0xBF) (bits * 0x40 + k) (more + 1) left rest := by
  have hoctet : trailingBits? bounds.1 bounds.2 (0x80 + k).toUInt8 = some k := by
    rw [trailingBits?, toNat_toUInt8 (by omega), if_pos hbounds, Nat.add_sub_cancel_left]
  rw [scanTrailing, hoctet]

/-- The second octet of three is within the bounds that the first one sets: the text would be
spelled overlong, or spell a surrogate, if it were not. -/
theorem secondBounds_three {n : Nat} (hlow : 0x800 ≤ n) (hhigh : n < 0x10000)
    (hchar : n < 0xD800 ∨ 0xDFFF < n) :
    (secondBounds (0xE0 + n / 0x1000)).1 ≤ 0x80 + n / 0x40 % 0x40
      ∧ 0x80 + n / 0x40 % 0x40 ≤ (secondBounds (0xE0 + n / 0x1000)).2 := by
  unfold secondBounds
  split
  · dsimp only
    omega
  split
  · dsimp only
    omega
  rw [if_neg (by omega), if_neg (by omega)]
  dsimp only
  omega

/-- The second octet of four is within the bounds that the first one sets: the text would be spelled
overlong, or spell a number beyond the last character, if it were not. -/
theorem secondBounds_four {n : Nat} (hlow : 0x10000 ≤ n) (hhigh : n < 0x110000) :
    (secondBounds (0xF0 + n / 0x40000)).1 ≤ 0x80 + n / 0x1000 % 0x40
      ∧ 0x80 + n / 0x1000 % 0x40 ≤ (secondBounds (0xF0 + n / 0x40000)).2 := by
  unfold secondBounds
  rw [if_neg (by omega), if_neg (by omega)]
  split
  · dsimp only
    omega
  split
  · dsimp only
    omega
  · dsimp only
    omega

/-- The octets of a character are read as that character, whatever follows them. -/
theorem scan_encodeChar (c : Char) (rest : Octets) :
    ∃ octet others, encodeChar c = octet :: others
      ∧ scan octet (others ++ rest) = .scalar c others.length := by
  have hc : Char.ofNat c.toNat = c := Char.ofNat_toNat c
  have hchar := toNat_bounds c
  generalize hn : c.toNat = n at hc hchar
  -- one case for each number of octets; the first octet says which it is
  rw [encodeChar, hn]
  split
  · next h1 =>
      refine ⟨_, _, rfl, ?_⟩
      rw [scan, toNat_toUInt8 (by omega), if_pos h1, hc]
      rfl
  split
  · next h1 h2 =>
      have hbounds : secondBounds (0xC0 + n / 0x40) = (0x80, 0xBF) := by
        unfold secondBounds
        rw [if_neg (by omega), if_neg (by omega), if_neg (by omega), if_neg (by omega)]
      have hvalue : (0xC0 + n / 0x40 - 0xC0) * 0x40 + n % 0x40 = n := by omega
      refine ⟨_, _, rfl, ?_⟩
      rw [scan, toNat_toUInt8 (by omega), if_neg (by omega), if_neg (by omega), if_pos (by omega),
        hbounds, List.cons_append, scanTrailing_cons (by omega) (by dsimp only; omega),
        scanTrailing, hvalue, hc]
      rfl
  split
  · next h1 h2 h3 =>
      have hbounds := secondBounds_three (Nat.le_of_not_lt h2) h3 (hchar.imp_right And.left)
      have hvalue : ((0xE0 + n / 0x1000 - 0xE0) * 0x40 + n / 0x40 % 0x40) * 0x40 + n % 0x40
          = n := by omega
      refine ⟨_, _, rfl, ?_⟩
      rw [scan, toNat_toUInt8 (by omega), if_neg (by omega), if_neg (by omega), if_neg (by omega),
        if_pos (by omega), List.cons_append, List.cons_append,
        scanTrailing_cons (by omega) hbounds, scanTrailing_cons (by omega) (by dsimp only; omega),
        scanTrailing, hvalue, hc]
      rfl
  · next h1 h2 h3 =>
      have hbounds := secondBounds_four (Nat.le_of_not_lt h3) (by omega)
      have hvalue : (((0xF0 + n / 0x40000 - 0xF0) * 0x40 + n / 0x1000 % 0x40) * 0x40
          + n / 0x40 % 0x40) * 0x40 + n % 0x40 = n := by omega
      refine ⟨_, _, rfl, ?_⟩
      rw [scan, toNat_toUInt8 (by omega), if_neg (by omega), if_neg (by omega), if_neg (by omega),
        if_neg (by omega), if_pos (by omega), List.cons_append, List.cons_append, List.cons_append,
        scanTrailing_cons (by omega) hbounds, scanTrailing_cons (by omega) (by dsimp only; omega),
        scanTrailing_cons (by omega) (by dsimp only; omega), scanTrailing, hvalue, hc]
      rfl

/-- A trailing octet that is read lies between 128 and 191, where its bounds allow it. -/
theorem exists_of_scanTrailing {bounds : Nat × Nat} (hlow : 0x80 ≤ bounds.1)
    (hhigh : bounds.2 ≤ 0xBF) {bits more left last : Nat} {octets : Octets} {c : Char}
    (h : scanTrailing bounds bits more (left + 1) octets = .scalar c last) :
    ∃ k rest, octets = (0x80 + k).toUInt8 :: rest ∧ k < 0x40
      ∧ (bounds.1 ≤ 0x80 + k ∧ 0x80 + k ≤ bounds.2)
      ∧ scanTrailing (0x80, 0xBF) (bits * 0x40 + k) (more + 1) left rest = .scalar c last := by
  cases octets with
  | nil => cases h
  | cons octet rest =>
      rw [scanTrailing, trailingBits?] at h
      by_cases hbounds : bounds.1 ≤ octet.toNat ∧ octet.toNat ≤ bounds.2
      · rw [if_pos hbounds] at h
        have hoctet : 0x80 + (octet.toNat - 0x80) = octet.toNat := by omega
        refine ⟨octet.toNat - 0x80, rest, ?_, by omega, ?_, h⟩
        · rw [hoctet]
          exact congrArg (· :: rest) UInt8.ofNat_toNat.symm
        · rw [hoctet]
          exact hbounds
      · rw [if_neg hbounds] at h
        cases h

/-- The bounds of the second octet are among those of any. -/
theorem secondBounds_range (first : Nat) :
    0x80 ≤ (secondBounds first).1 ∧ (secondBounds first).2 ≤ 0xBF := by
  unfold secondBounds
  repeat' split
  all_goals decide

/-- Where the second octet is bounded more closely than others. -/
theorem of_secondBounds {first k : Nat}
    (h : (secondBounds first).1 ≤ 0x80 + k ∧ 0x80 + k ≤ (secondBounds first).2) :
    (first = 0xE0 → 0x20 ≤ k) ∧ (first = 0xED → k < 0x20) ∧ (first = 0xF0 → 0x10 ≤ k)
      ∧ (first = 0xF4 → k < 0x10) := by
  refine ⟨?_, ?_, ?_, ?_⟩ <;> rintro rfl <;> simp [secondBounds] at h <;> omega

/-- The number of a character that is numbered. -/
theorem toNat_ofNat {n : Nat} (h : n < 0xD800 ∨ 0xDFFF < n ∧ n < 0x110000) :
    (Char.ofNat n).toNat = n := by
  have hvalid : n.isValidChar := h
  rw [Char.ofNat, dif_pos hvalid]
  rfl

/-- A character that is read is spelled by the octets that are read for it. -/
theorem exists_of_scan {octet : UInt8} {rest : Octets} {c : Char} {more : Nat}
    (h : scan octet rest = .scalar c more) :
    ∃ others behind, rest = others ++ behind ∧ others.length = more
      ∧ encodeChar c = octet :: others := by
  have hoctet : octet.toNat.toUInt8 = octet := UInt8.ofNat_toNat
  have hall : 0x80 ≤ ((0x80, 0xBF) : Nat × Nat).1 ∧ ((0x80, 0xBF) : Nat × Nat).2 ≤ 0xBF := by
    decide
  have hrange := secondBounds_range octet.toNat
  rw [scan] at h
  generalize hn : octet.toNat = first at h hoctet hrange
  -- the first octet says how many follow, and each of them gives six bits of the number
  split at h
  · next hfirst =>
      cases h
      refine ⟨[], rest, rfl, rfl, ?_⟩
      rw [encodeChar, toNat_ofNat (by omega), if_pos hfirst, hoctet]
  split at h
  · cases h
  split at h
  · next hstart hfirst =>
      obtain ⟨k, behind, rfl, hk, -, hscan⟩ := exists_of_scanTrailing hrange.1 hrange.2 h
      cases hscan
      have hlow : 0xC0 + ((first - 0xC0) * 0x40 + k) / 0x40 = first := by omega
      have hlast : ((first - 0xC0) * 0x40 + k) % 0x40 = k := by omega
      refine ⟨[_], behind, rfl, rfl, ?_⟩
      rw [encodeChar, toNat_ofNat (by omega), if_neg (by omega), if_pos (by omega), hlow, hlast,
        hoctet]
  split at h
  · next hstart _ hfirst =>
      obtain ⟨k, behind, rfl, hk, hbounds, hscan⟩ := exists_of_scanTrailing hrange.1 hrange.2 h
      obtain ⟨k', behind, rfl, hk', -, hscan⟩ := exists_of_scanTrailing hall.1 hall.2 hscan
      cases hscan
      obtain ⟨hoverlong, hsurrogate, -, -⟩ := of_secondBounds hbounds
      generalize hvalue : ((first - 0xE0) * 0x40 + k) * 0x40 + k' = n
      have hlow : 0xE0 + n / 0x1000 = first := by omega
      have hmiddle : n / 0x40 % 0x40 = k := by omega
      have hlast : n % 0x40 = k' := by omega
      refine ⟨[_, _], behind, rfl, rfl, ?_⟩
      rw [encodeChar, toNat_ofNat (by omega), if_neg (by omega), if_neg (by omega),
        if_pos (by omega), hlow, hmiddle, hlast, hoctet]
  split at h
  · next hstart _ _ hfirst =>
      obtain ⟨k, behind, rfl, hk, hbounds, hscan⟩ := exists_of_scanTrailing hrange.1 hrange.2 h
      obtain ⟨k', behind, rfl, hk', -, hscan⟩ := exists_of_scanTrailing hall.1 hall.2 hscan
      obtain ⟨k'', behind, rfl, hk'', -, hscan⟩ := exists_of_scanTrailing hall.1 hall.2 hscan
      cases hscan
      obtain ⟨-, -, hoverlong, hbeyond⟩ := of_secondBounds hbounds
      generalize hvalue : (((first - 0xF0) * 0x40 + k) * 0x40 + k') * 0x40 + k'' = n
      have hlow : 0xF0 + n / 0x40000 = first := by omega
      have hsecond : n / 0x1000 % 0x40 = k := by omega
      have hthird : n / 0x40 % 0x40 = k' := by omega
      have hlast : n % 0x40 = k'' := by omega
      refine ⟨[_, _, _], behind, rfl, rfl, ?_⟩
      rw [encodeChar, toNat_ofNat (by omega), if_neg (by omega), if_neg (by omega),
        if_neg (by omega), hlow, hsecond, hthird, hlast, hoctet]
  · cases h

/-! ## Texts -/

/-- Octets that are accounted for are passed over. -/
theorem decodeFrom_length_append (position : Nat) (passed rest : Octets) :
    decodeFrom position passed.length (passed ++ rest)
      = decodeFrom (position + passed.length) 0 rest := by
  induction passed generalizing position with
  | nil => rfl
  | cons octet passed ih =>
      rw [List.length_cons, List.cons_append, decodeFrom, ih, Nat.add_assoc,
        Nat.add_comm 1 passed.length]

/-- The octets of a character give that character, and the text goes on behind them. -/
theorem decodeFrom_encodeChar_append (position : Nat) (c : Char) (rest : Octets) :
    decodeFrom position 0 (encodeChar c ++ rest)
      = (decodeFrom (position + (encodeChar c).length) 0 rest).map (c :: ·) := by
  obtain ⟨octet, others, hoctets, hscan⟩ := scan_encodeChar c rest
  rw [hoctets, List.cons_append, decodeFrom, hscan]
  dsimp only
  rw [decodeFrom_length_append, List.length_cons, Nat.add_assoc, Nat.add_comm 1 others.length]

/-- A text that is stored is read back. -/
theorem decode_encode (t : Text) : decode (encode t) = .ok t := by
  have hfrom : ∀ position, decodeFrom position 0 (encode t) = .ok t := by
    induction t with
    | nil => exact fun _ => rfl
    | cons c t ih =>
        intro position
        rw [encode_cons, decodeFrom_encodeChar_append, ih]
        rfl
  exact hfrom 0

/-- Octets of which a first character is read are those of that character and of the text that is
read behind it. -/
theorem exists_of_decodeFrom_cons {position : Nat} {octets : Octets} {c : Char} {t : Text}
    (h : decodeFrom position 0 octets = .ok (c :: t)) :
    ∃ behind, octets = encodeChar c ++ behind
      ∧ decodeFrom (position + (encodeChar c).length) 0 behind = .ok t := by
  cases octets with
  | nil => cases h
  | cons octet rest =>
      rw [decodeFrom] at h
      split at h
      · next d more hscan =>
          obtain ⟨others, behind, rfl, rfl, hoctets⟩ := exists_of_scan hscan
          rw [decodeFrom_length_append] at h
          cases hbehind : decodeFrom (position + 1 + others.length) 0 behind with
          | error fault =>
              rw [hbehind] at h
              cases h
          | ok u =>
              rw [hbehind] at h
              cases h
              refine ⟨behind, by rw [hoctets, List.cons_append], ?_⟩
              rw [hoctets, List.length_cons, Nat.add_comm others.length, ← Nat.add_assoc]
              exact hbehind
      · cases h

/-- Octets are read as a text if they are those in which it is stored, and only then. -/
theorem decode_eq_ok_iff {octets : Octets} {t : Text} :
    decode octets = .ok t ↔ octets = encode t := by
  have hfrom : ∀ position octets, decodeFrom position 0 octets = .ok t → octets = encode t := by
    induction t with
    | nil =>
        intro position octets h
        cases octets with
        | nil => rfl
        | cons octet rest =>
            rw [decodeFrom] at h
            split at h
            · next c more hscan =>
                cases hrest : decodeFrom (position + 1) more rest <;> rw [hrest] at h <;> cases h
            · cases h
    | cons c t ih =>
        intro position octets h
        obtain ⟨behind, rfl, hbehind⟩ := exists_of_decodeFrom_cons h
        rw [encode_cons, ih _ _ hbehind]
  exact ⟨hfrom 0 octets, fun h => h ▸ decode_encode t⟩

/-- In reading any octets, too, those that are accounted for are passed over. -/
theorem decodeLossyFrom_length_append (passed rest : Octets) :
    decodeLossyFrom passed.length (passed ++ rest) = decodeLossyFrom 0 rest := by
  induction passed with
  | nil => rfl
  | cons octet passed ih =>
      rw [List.length_cons, List.cons_append, decodeLossyFrom, ih]

/-- Nothing is replaced in a text that is stored. -/
theorem decodeLossy_encode (t : Text) : decodeLossy (encode t) = t := by
  rw [decodeLossy]
  induction t with
  | nil => rfl
  | cons c t ih =>
      obtain ⟨octet, others, hoctets, hscan⟩ := scan_encodeChar c (encode t)
      rw [encode_cons, hoctets, List.cons_append, decodeLossyFrom, hscan]
      dsimp only
      rw [decodeLossyFrom_length_append, ih]

/-- Plain characters are stored as octets below 128. -/
theorem lt_of_mem_encode {t : Text} (h : ∀ c ∈ t, c.toNat < 0x80) :
    ∀ octet ∈ encode t, octet.toNat < 0x80 := by
  intro octet hoctet
  obtain ⟨c, hc, hmem⟩ := List.mem_flatMap.1 hoctet
  have hlt := h c hc
  rw [encodeChar, if_pos hlt, List.mem_singleton] at hmem
  rw [hmem, toNat_toUInt8 (by omega)]
  exact hlt

/-! ## Newlines -/

/-- A text without carriage returns is left alone when newlines are unified. -/
theorem unifyNewlines_of_not_mem {t : Text} (h : '\r' ∉ t) : unifyNewlines t = t := by
  induction t with
  | nil => rfl
  | cons c t ih =>
      rw [List.mem_cons, not_or] at h
      have hc : ¬c = '\r' := fun heq => h.1 heq.symm
      cases t with
      | nil => rw [unifyNewlines, if_neg hc]
      | cons d t => rw [unifyNewlines, if_neg hc, ih h.2]

end LintMend.Text

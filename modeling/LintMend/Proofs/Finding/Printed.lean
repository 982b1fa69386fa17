import LintMend.Proofs.Finding.Grammar

/-! # Printed diagnostics

Reading undoes printing, however the path, the message and the category look, as long as the message
holds no line number of its own and the category no bracket.
* `Printed`: what a checker prints for a finding, with the blanks that it puts in between.
* `Unnumbered`: texts in which a line number can be read nowhere; all of a printed line from behind
  its path on is one, so no reading has a longer path.
* `Printed.countsFor_text`: the parts that were printed are the reading that counts. -/

namespace LintMend

open Text

/-! ## Numerals -/

namespace Numeral

/-- A written number is made of digits. -/
theorem isRun_write (n : Nat) : IsRun Char.isDigit (write n) :=
  ⟨Nat.toDigits_ne_nil, fun _ hc => Nat.isDigit_of_mem_toDigits (by decide) (by decide) hc⟩

/-- The digits of a number spell it. -/
theorem value_write (n : Nat) : value (write n) = n := by
  have h : Nat.ofDigitChars 10 (Nat.toDigits 10 n) 0 = n := Nat.ofDigitChars_ten_toDigits
  rwa [Nat.ofDigitChars_eq_foldl] at h

end Numeral

/-! ## Texts without a line number -/

/-- Whether a line number between colons, and a diagnostic behind it, begins nowhere in a text. -/
def Unnumbered (t : Text) : Prop := ∀ before after, t = before ++ after → lineNumber? after = none

/-- In a longer text a line number may also begin at the first character. -/
theorem unnumbered_cons {c : Char} {t : Text} (hc : lineNumber? (c :: t) = none)
    (h : Unnumbered t) : Unnumbered (c :: t) := by
  intro before after ht
  obtain _ | ⟨d, before⟩ := before
  · rw [List.nil_append] at ht
    rwa [← ht]
  · rw [List.cons_append, List.cons.injEq] at ht
    exact h before after ht.2

/-- A line number begins with a colon. -/
theorem lineNumber?_cons_of_ne {c : Char} {t : Text} (hc : c ≠ ':') :
    lineNumber? (c :: t) = none := by
  cases h : lineNumber? (c :: t) with
  | none => rfl
  | some found =>
      obtain ⟨-, after, heq, -⟩ := lineNumber?_eq_some_iff.1 (show _ = some (_, _) from h)
      rw [List.cons_append, List.cons.injEq] at heq
      exact absurd heq.1 hc

/-- A digit follows that colon. -/
theorem lineNumber?_colon_cons {c : Char} {t : Text} (hc : c.isDigit = false) :
    lineNumber? (':' :: c :: t) = none := by
  cases h : lineNumber? (':' :: c :: t) with
  | none => rfl
  | some found =>
      obtain ⟨hdigits, after, heq, -⟩ := lineNumber?_eq_some_iff.1 (show _ = some (_, _) from h)
      obtain ⟨d, digits, hcons, hd⟩ := exists_cons_of_isRun hdigits
      rw [hcons, List.cons_append, List.cons_append, List.cons.injEq, List.cons.injEq] at heq
      rw [← heq.2.1, hc] at hd
      exact absurd hd (by decide)

/-- No line number begins in a stretch without colons. -/
theorem unnumbered_append_of_not_mem {front t : Text} (hfront : ':' ∉ front) (h : Unnumbered t) :
    Unnumbered (front ++ t) := by
  induction front with
  | nil => exact h
  | cons c front ih =>
      rw [List.mem_cons, not_or] at hfront
      exact unnumbered_cons (lineNumber?_cons_of_ne (Ne.symm hfront.1)) (ih hfront.2)

/-- What is found behind a gap of blanks begins with a blank. -/
theorem isBlank_of_gap? {t : Text} {found : Text × Text × Closing} (h : gap? t = some found) :
    ∃ c rest, t = c :: rest ∧ isBlank c = true := by
  obtain ⟨gap, found⟩ := found
  rw [gap?_eq_longest] at h
  obtain ⟨hgap, rest, rfl, -⟩ := eq_append_of_longest h
  obtain ⟨c, gap, rfl, hc⟩ := exists_cons_of_isRun hgap
  exact ⟨c, gap ++ rest, rfl, hc⟩

/-- The end of a diagnostic opens two brackets. -/
theorem Closing.two_le_count (r : Closing) : 2 ≤ r.text.count '[' := by
  simp only [Closing.text, List.count_append, List.count_cons]
  simp
  omega

/-- A line number is read only before two opening brackets. -/
theorem two_le_count_of_lineNumber? {t line : Text} {found : Text × Text × Closing}
    (h : lineNumber? t = some (line, found)) : 2 ≤ t.count '[' := by
  obtain ⟨gap, message, closing⟩ := found
  obtain ⟨-, after, rfl, hgap⟩ := lineNumber?_eq_some_iff.1 h
  rw [gap?_eq_longest] at hgap
  obtain ⟨-, behind, rfl, hmessage⟩ := eq_append_of_longest hgap
  rw [message?_eq_longest] at hmessage
  obtain ⟨-, last, rfl, hlast⟩ := eq_append_of_longest hmessage
  obtain ⟨-, rfl⟩ := closing?_eq_some_iff.1 hlast
  have htwo := closing.two_le_count
  simp only [List.count_append, List.count_cons]
  omega

/-- A text with fewer than two opening brackets is without a line number. -/
theorem unnumbered_of_count_lt {t : Text} (h : t.count '[' < 2) : Unnumbered t := by
  rintro before after rfl
  cases hafter : lineNumber? after with
  | none => rfl
  | some found =>
      have htwo := two_le_count_of_lineNumber? (show _ = some (_, _) from hafter)
      rw [List.count_append] at h
      omega

/-- Whether a text holds digits between two colons with a blank behind them nowhere. -/
def HoldsNoNumber (t : Text) : Prop :=
  ∀ before digits blank after, t = before ++ ':' :: digits ++ ':' :: blank :: after →
    IsRun Char.isDigit digits → isBlank blank = false

/-- A number between colons needs two of them. -/
theorem holdsNoNumber_of_count_lt {t : Text} (h : t.count ':' < 2) : HoldsNoNumber t := by
  rintro before digits blank after rfl -
  simp only [List.count_append, List.count_cons_self] at h
  omega

/-- At a colon no line number begins if a message follows that holds none, with a space behind
it. -/
theorem lineNumber?_eq_none_of_holdsNoNumber {message t : Text}
    (h : HoldsNoNumber (':' :: (message ++ [' ']))) :
    lineNumber? (':' :: (message ++ ' ' :: t)) = none := by
  cases hread : lineNumber? (':' :: (message ++ ' ' :: t)) with
  | none => rfl
  | some found =>
      obtain ⟨digits, found⟩ := found
      obtain ⟨hdigits, after, heq, hgap⟩ := lineNumber?_eq_some_iff.1 hread
      obtain ⟨blank, rest, rfl, hblank⟩ := isBlank_of_gap? hgap
      have hno : ∀ between, message ++ [' '] ≠ digits ++ [':', blank] ++ between := by
        intro between hfront
        have hnot := h [] digits blank between (by simp [hfront]) hdigits
        rw [hblank] at hnot
        exact absurd hnot (by decide)
      have hcut : (message ++ [' ']) ++ t = (digits ++ [':', blank]) ++ rest := by
        simpa using heq
      -- The number ends within the message or its space, or the space stands within the number.
      rcases List.append_eq_append_iff.1 hcut with ⟨between, hfront, -⟩ | ⟨between, hfront, -⟩
      · rcases List.eq_nil_or_concat between with rfl | ⟨between, last, rfl⟩
        · exact absurd (by simpa using hfront.symm) (hno [])
        · have hspace : ' ' ∈ digits ++ [':'] := by
            have hshorter : (digits ++ [':']) ++ [blank]
                = (message ++ ' ' :: between) ++ [last] := by
              simpa using hfront
            rw [(List.append_inj' hshorter rfl).1]
            simp
          rcases List.mem_append.1 hspace with hmem | hmem
          · exact absurd (hdigits.2 ' ' hmem) (by decide)
          · exact absurd hmem (by decide)
      · exact absurd hfront (hno between)

/-- No line number begins in a message that holds none, a blank being behind the message. -/
theorem unnumbered_append_of_holdsNoNumber {message t : Text}
    (hmessage : HoldsNoNumber (message ++ [' '])) (h : Unnumbered (' ' :: t)) :
    Unnumbered (message ++ ' ' :: t) := by
  induction message with
  | nil => exact h
  | cons c message ih =>
      have htail : HoldsNoNumber (message ++ [' ']) := by
        intro before digits blank after heq
        exact hmessage (c :: before) digits blank after (by simp [heq])
      refine unnumbered_cons ?_ (ih htail)
      by_cases hc : c = ':'
      · subst hc
        exact lineNumber?_eq_none_of_holdsNoNumber hmessage
      · exact lineNumber?_cons_of_ne hc

/-! ## Printing -/

/-- What a checker prints for a finding. -/
structure Printed where
  /-- The path of the file. -/
  path : Text
  /-- The line number. -/
  line : Nat
  /-- The spaces before the message. -/
  gap : Text
  /-- The message. -/
  message : Text
  /-- How many spaces follow the message, not counting the last one of them. -/
  padding : Nat
  /-- The category. -/
  category : Text
  /-- The confidence. -/
  confidence : Nat
  deriving DecidableEq, Repr

namespace Printed

/-- What may be printed. The path may hold colons and blanks, and the message may hold brackets and
end in blanks. -/
structure WellFormed (p : Printed) : Prop where
  path : IsRun (· != '\n') p.path
  line : (Numeral.write p.line).length ≤ 4300
  gap : IsRun (· == ' ') p.gap
  message : IsRun (· != '\n') p.message
  opens : ∀ c ∈ p.message.head?, isBlank c = false
  unnumbered : HoldsNoNumber (p.message ++ [' '])
  category : IsRun (fun c => c != '[' && c != ']') p.category
  confidence : (Numeral.write p.confidence).length ≤ 4300

/-- The end of the printed line, from the last space before the category on. -/
def closing (p : Printed) : Closing := ⟨[' '], p.category, [' '], Numeral.write p.confidence⟩

/-- The parts that are printed: the spaces behind the message belong to it but for the last one. -/
def reading (p : Printed) : Reading :=
  ⟨p.path, Numeral.write p.line, p.gap, p.message ++ List.replicate p.padding ' ', p.closing⟩

/-- The printed line. -/
def text (p : Printed) : Text :=
  p.path ++ ':' :: Numeral.write p.line ++ ':' :: p.gap ++ p.message
    ++ List.replicate (p.padding + 1) ' ' ++ '[' :: p.category ++ "] [".toList
    ++ Numeral.write p.confidence ++ [']']

/-- The finding that is printed. -/
def finding (p : Printed) : Finding :=
  ⟨p.line, p.message ++ List.replicate p.padding ' ', p.category, p.confidence⟩

variable {p : Printed}

/-- The parts make up the line. -/
theorem text_reading (p : Printed) : p.reading.text = p.text := by
  simp [reading, text, closing, Reading.text, Closing.text, List.replicate_succ']

/-- The parts are well-formed. -/
theorem WellFormed.reading (h : p.WellFormed) : p.reading.WellFormed where
  path := h.path
  line := Numeral.isRun_write p.line
  gap := by
    refine ⟨h.gap.1, fun c hc => ?_⟩
    have hspace : c = ' ' := by simpa using h.gap.2 c hc
    rw [hspace]
    decide
  message := by
    refine ⟨fun hnil => h.message.1 (List.append_eq_nil_iff.1 hnil).1, fun c hc => ?_⟩
    rcases List.mem_append.1 hc with hc | hc
    · exact h.message.2 c hc
    · rw [List.eq_of_mem_replicate hc]
      decide
  closing :=
    { gap := (by decide : IsRun isBlank [' '])
      category := by
        refine ⟨h.category.1, fun c hc => ?_⟩
        have hboth := h.category.2 c hc
        rw [Bool.and_eq_true] at hboth
        exact hboth.2
      between := (by decide : IsRun isBlank [' '])
      confidence := Numeral.isRun_write p.confidence }

/-- What is printed behind the first bracket. -/
def bracketed (p : Printed) : Text :=
  p.category ++ ']' :: ' ' :: '[' :: Numeral.write p.confidence ++ [']']

/-- The end of the printed line is a space and what the first bracket opens. -/
theorem text_closing (p : Printed) : p.closing.text = ' ' :: '[' :: p.bracketed := by
  simp [closing, bracketed, Closing.text]

/-- Behind the first bracket one more bracket opens. -/
theorem WellFormed.count_bracketed (h : p.WellFormed) : p.bracketed.count '[' = 1 := by
  have hcategory : p.category.count '[' = 0 := by
    refine List.count_eq_zero_of_not_mem fun hmem => ?_
    exact absurd (h.category.2 '[' hmem) (by decide)
  have hconfidence : (Numeral.write p.confidence).count '[' = 0 := by
    refine List.count_eq_zero_of_not_mem fun hmem => ?_
    exact absurd ((Numeral.isRun_write p.confidence).2 '[' hmem) (by decide)
  simp [bracketed, List.count_append, hcategory, hconfidence]

/-- No line number begins in the message or behind it. -/
theorem WellFormed.unnumbered_message (h : p.WellFormed) :
    Unnumbered (p.message ++ List.replicate p.padding ' ' ++ p.closing.text) := by
  have hbracket : Unnumbered ('[' :: p.bracketed) := by
    refine unnumbered_cons (lineNumber?_cons_of_ne (by decide)) (unnumbered_of_count_lt ?_)
    rw [h.count_bracketed]
    decide
  have hspaces : Unnumbered (' ' :: (List.replicate p.padding ' ' ++ '[' :: p.bracketed)) := by
    have hblank : ':' ∉ List.replicate (p.padding + 1) ' ' := fun hmem =>
      absurd (List.eq_of_mem_replicate hmem) (by decide)
    exact unnumbered_append_of_not_mem hblank hbracket
  -- the space before the bracket may as well be the first one behind the message
  have hshape : p.message ++ List.replicate p.padding ' ' ++ p.closing.text
      = p.message ++ ' ' :: (List.replicate p.padding ' ' ++ '[' :: p.bracketed) := by
    rw [text_closing, List.append_assoc, List.append_cons _ ' ', ← List.replicate_succ',
      List.replicate_succ, List.cons_append]
  rw [hshape]
  exact unnumbered_append_of_holdsNoNumber h.unnumbered hspaces

/-- No line number begins behind the colon after the path. -/
theorem WellFormed.unnumbered_behind (h : p.WellFormed) :
    Unnumbered (Numeral.write p.line ++ ':' :: (p.gap ++
      (p.message ++ List.replicate p.padding ' ' ++ p.closing.text))) := by
  have hgap : ':' ∉ p.gap := fun hmem => absurd (h.gap.2 ':' hmem) (by decide)
  have hline : ':' ∉ Numeral.write p.line := fun hmem =>
    absurd ((Numeral.isRun_write p.line).2 ':' hmem) (by decide)
  refine unnumbered_append_of_not_mem hline (unnumbered_cons ?_
    (unnumbered_append_of_not_mem hgap h.unnumbered_message))
  -- the colon behind the line number is followed by a space
  obtain ⟨c, gap, hg, hc⟩ := exists_cons_of_isRun h.gap
  rw [hg, List.cons_append]
  refine lineNumber?_colon_cons ?_
  rw [eq_of_beq hc]
  decide

/-- No reading of the line has a longer path. -/
theorem WellFormed.path_length_le (h : p.WellFormed) {s : Reading} (hs : s.IsOf p.text) :
    s.path.length ≤ p.path.length := by
  have hcut := s.text_eq
  rw [hs.2, ← text_reading, p.reading.text_eq] at hcut
  rcases length_le_or_exists_of_append_eq hcut.symm with hle | ⟨c, longer, -, hrest⟩
  · exact hle
  · rw [List.cons_append, List.cons.injEq] at hrest
    exact absurd (h.unnumbered_behind longer _ hrest.2) hs.1.lineNumber?_ne_none

/-- No blanks behind the line number reach into the message. -/
theorem WellFormed.gap_length_le (h : p.WellFormed) {gap rest other : Text}
    (hgap : IsRun isBlank gap) (hcut : gap ++ rest = p.gap ++ (p.message ++ other)) :
    gap.length ≤ p.gap.length := by
  rcases length_le_or_exists_of_append_eq hcut with hle | ⟨c, longer, rfl, hrest⟩
  · exact hle
  · obtain ⟨d, message, hm, -⟩ := exists_cons_of_isRun h.message
    rw [hm, List.cons_append, List.cons.injEq] at hrest
    have hblank := hgap.2 c (by simp)
    rw [← hrest.1, h.opens d (by rw [hm]; rfl)] at hblank
    exact absurd hblank (by decide)

/-- No reading with the same path and the same gap has a longer message. -/
theorem WellFormed.message_length_le (h : p.WellFormed) {message : Text} {closing : Closing}
    (hclosing : closing.WellFormed)
    (hcut : message ++ closing.text = p.reading.message ++ p.closing.text) :
    message.length ≤ p.reading.message.length := by
  rcases length_le_or_exists_of_append_eq hcut with hle | ⟨c, longer, rfl, hrest⟩
  · exact hle
  rw [text_closing, List.cons.injEq] at hrest
  cases longer with
  | nil =>
      -- the end of a diagnostic begins with a blank and not with a bracket
      obtain ⟨e, gap, hg, he⟩ := exists_cons_of_isRun hclosing.gap
      have hopen := hrest.2
      rw [Closing.text, hg] at hopen
      simp only [List.nil_append, List.cons_append, List.cons.injEq] at hopen
      rw [← hopen.1] at he
      exact absurd he (by decide)
  | cons d longer =>
      rw [List.cons_append, List.cons.injEq] at hrest
      have hone := h.count_bracketed
      rw [hrest.2.2, List.count_append] at hone
      have htwo := closing.two_le_count
      omega

/-- The parts that were printed are the reading that counts. -/
theorem WellFormed.countsFor_text (h : p.WellFormed) : p.reading.CountsFor p.text := by
  refine Reading.countsFor_of_length_le ⟨h.reading, p.text_reading⟩ (fun s hs => ?_)
    (fun s hs hcut => ?_) (fun s hs hcut => ?_)
  · exact h.path_length_le hs
  · rw [Printed.reading, List.append_assoc p.message] at hcut
    exact h.gap_length_le hs.1.gap hcut
  · exact h.message_length_le hs.1.closing hcut

end Printed

/-! ## Reading what was printed -/

namespace Finding

/-- Trailing line ends are all that is trimmed from a text that ends otherwise. -/
theorem trimLineEnd_append {t ending : Text} {last : Char} (hlast : last ≠ '\r' ∧ last ≠ '\n')
    (hending : ∀ c ∈ ending, c = '\r' ∨ c = '\n') :
    trimLineEnd (t ++ [last] ++ ending) = t ++ [last] := by
  have hall : ∀ c ∈ ending.reverse, (c == '\r' || c == '\n') = true := by
    intro c hc
    rcases hending c (List.mem_reverse.1 hc) with rfl | rfl <;> decide
  rw [trimLineEnd, trimEndOf, List.reverse_append, List.dropWhile_append_of_pos hall,
    List.reverse_append, List.reverse_singleton, List.singleton_append,
    List.dropWhile_cons_of_neg (by simp [hlast.1, hlast.2]), List.reverse_cons,
    List.reverse_reverse]

/-- **Reading undoes printing.** A printed line states the finding that was printed, and so it does
among other lines whatever carriage returns and line feeds end it. -/
theorem ofText?_text_printed (p : Printed) (h : p.WellFormed) :
    ofText? p.text = .ok (some p.finding) ∧
      ∀ (ending : Text) (others : List Text), (∀ c ∈ ending, c = '\r' ∨ c = '\n') →
        ofLines ((p.text ++ ending) :: others)
          = (p.finding :: (ofLines others).1, (ofLines others).2) := by
  have hfinding : p.reading.finding = p.finding := by
    simp only [Reading.finding, Printed.reading, Printed.closing, Printed.finding,
      Numeral.value_write, if_pos h.confidence]
  have hread : ofText? p.text = .ok (some p.finding) := by
    rw [ofText?_of_countsFor h.countsFor_text, hfinding]
    exact if_pos h.line
  refine ⟨hread, fun ending others hending => ?_⟩
  have htrim : trimLineEnd (p.text ++ ending) = p.text :=
    trimLineEnd_append (by decide) hending
  rw [ofLines, htrim, hread]

/-- A line with a drive, a number within the path, tags within the message, two spaces before the
category and a number within the category. -/
def ofDrive : Printed :=
  ⟨"C:\\a:7: b.h".toList, 12, [' ', ' '], "use x:3 [y] [3]".toList, 1, "a b:12: c".toList, 5⟩

/-- The line may be printed. -/
theorem wellFormed_ofDrive : ofDrive.WellFormed where
  path := by decide
  line := by decide
  gap := by decide
  message := by decide
  opens := fun c hc => by
    have hhead : ofDrive.message.head? = some 'u' := by decide
    rw [hhead, Option.mem_some_iff] at hc
    rw [← hc]
    decide
  unnumbered := holdsNoNumber_of_count_lt (by decide)
  category := by decide
  confidence := by decide

/-- The printed line with a drive is read back, with one of the two spaces behind the message. -/
theorem ofText?_text_ofDrive :
    ofDrive.WellFormed ∧
      ofDrive.text = "C:\\a:7: b.h:12:  use x:3 [y] [3]  [a b:12: c] [5]".toList ∧
      ofDrive.finding = ⟨12, "use x:3 [y] [3] ".toList, "a b:12: c".toList, 5⟩ ∧
      ofText? ofDrive.text = .ok (some ofDrive.finding) ∧
      ofLines [ofDrive.text ++ ['\r', '\n']] = ([ofDrive.finding], none) :=
  ⟨wellFormed_ofDrive, by decide +kernel, by decide,
    (ofText?_text_printed ofDrive wellFormed_ofDrive).1,
    (ofText?_text_printed ofDrive wellFormed_ofDrive).2 ['\r', '\n'] [] fun _ hc => by
      simpa using hc⟩

end Finding

end LintMend

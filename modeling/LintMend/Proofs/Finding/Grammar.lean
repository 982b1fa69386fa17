import LintMend.Proofs.Text.Stretch

/-! # The grammar of diagnostics

The reader of diagnostics recognises exactly the lines of the grammar, and of the readings of such
a line it takes the one with the longest path, then the longest gap, then the longest message.
* `Reading.IsOf`: the readings of a line.
* `Reading.CountsFor`: the one that comes before all others; `countsFor_unique` says that there is
  only one.
* `Reading.ofText?_eq_some_iff`, `Reading.ofText?_eq_none_iff`: the reader finds it, and fails only
  when there is none.
* `Finding.ofText?_of_countsFor`: what the line states then. -/

namespace LintMend

open Text

/-! ## The end of a diagnostic -/

/-- A confidence is read exactly from digits in brackets. -/
theorem confidence?_eq_some_iff {t digits : Text} :
    confidence? t = some digits ↔ IsRun Char.isDigit digits ∧ t = '[' :: digits ++ [']'] := by
  cases t with
  | nil => simp [confidence?]
  | cons c rest =>
      rw [confidence?]
      constructor
      · intro h
        split at h
        · next hopen =>
            obtain ⟨rfl, hne, hclose⟩ := hopen
            obtain ⟨rfl⟩ : rest.takeWhile Char.isDigit = digits := by simpa using h
            obtain ⟨hrest, hdigits, -⟩ := takeWhile_eq_and_dropWhile_eq_iff.1 ⟨rfl, hclose⟩
            exact ⟨⟨hne, hdigits⟩, by rw [List.cons_append, ← hrest]⟩
        · exact absurd h (by simp)
      · rintro ⟨⟨hne, hdigits⟩, heq⟩
        rw [List.cons_append, List.cons.injEq] at heq
        obtain ⟨rfl, hrest⟩ := heq
        obtain ⟨htake, hdrop⟩ := takeWhile_eq_and_dropWhile_eq_iff.2
          ⟨hrest, hdigits, by simp⟩
        rw [htake, hdrop, if_pos ⟨rfl, hne, rfl⟩]

/-- Category and confidence are read from a category in brackets, blanks, and a confidence in
brackets. -/
theorem tags?_written {category between confidence : Text} (gap : Text)
    (hcategory : IsRun (· != ']') category) (hbetween : IsRun isBlank between)
    (hconfidence : IsRun Char.isDigit confidence) :
    tags? gap ('[' :: category ++ ']' :: between ++ '[' :: confidence ++ [']'])
      = some ⟨gap, category, between, confidence⟩ := by
  have hread : confidence? ('[' :: (confidence ++ [']'])) = some confidence :=
    confidence?_eq_some_iff.2 ⟨hconfidence, rfl⟩
  obtain ⟨hcategoryEnd, hclosed⟩ := takeWhile_eq_and_dropWhile_eq_iff.2
    ⟨(rfl : category ++ ']' :: (between ++ '[' :: (confidence ++ [']'])) = _), hcategory.2,
      by simp⟩
  obtain ⟨hbetweenEnd, hopened⟩ := takeWhile_eq_and_dropWhile_eq_iff.2
    ⟨(rfl : between ++ '[' :: (confidence ++ [']']) = _), hbetween.2, (by simp; decide)⟩
  simp only [List.cons_append, List.append_assoc]
  rw [tags?, hcategoryEnd, hclosed, List.tail_cons, hbetweenEnd, hopened,
    if_pos ⟨rfl, hcategory.1, hbetween.1⟩, hread]
  rfl

/-- They are read exactly from such a text. -/
theorem tags?_eq_some_iff {gap t : Text} {r : Closing} :
    tags? gap t = some r ↔
      r.gap = gap ∧ IsRun (· != ']') r.category ∧ IsRun isBlank r.between ∧
        IsRun Char.isDigit r.confidence ∧
        t = '[' :: r.category ++ ']' :: r.between ++ '[' :: r.confidence ++ [']'] := by
  constructor
  · intro h
    cases t with
    | nil => exact absurd h (by simp [tags?])
    | cons c rest =>
        obtain ⟨category, closed, htake, hdrop⟩ : ∃ category closed,
            rest.takeWhile (· != ']') = category ∧ rest.dropWhile (· != ']') = closed :=
          ⟨_, _, rfl, rfl⟩
        obtain ⟨hrest, hinner, hbracket⟩ := takeWhile_eq_and_dropWhile_eq_iff.1 ⟨htake, hdrop⟩
        rw [tags?, htake, hdrop] at h
        split at h
        · next hopen =>
            obtain ⟨rfl, hcategory, hbetween⟩ := hopen
            obtain ⟨digits, hdigits, rfl⟩ := Option.map_eq_some_iff.1 h
            obtain ⟨hrun, hlast⟩ := confidence?_eq_some_iff.1 hdigits
            -- the category ends at a bracket, for something follows it
            cases closed with
            | nil => exact absurd rfl hbetween
            | cons close after =>
                obtain rfl : close = ']' := by simpa using hbracket close rfl
                obtain ⟨hafter, hblank, -⟩ := takeWhile_eq_and_dropWhile_eq_iff.1 ⟨rfl, hlast⟩
                rw [List.tail_cons] at hafter
                refine ⟨rfl, ⟨hcategory, hinner⟩, ⟨hbetween, hblank⟩, hrun, ?_⟩
                rw [hrest]
                simpa using hafter
        · exact absurd h (by simp)
  · rintro ⟨rfl, hcategory, hbetween, hconfidence, rfl⟩
    exact tags?_written r.gap hcategory hbetween hconfidence

/-- The end of a diagnostic is read exactly from its text, and in one way only. -/
theorem closing?_eq_some_iff {t : Text} {r : Closing} :
    closing? t = some r ↔ r.WellFormed ∧ t = r.text := by
  constructor
  · intro h
    rw [closing?] at h
    split at h
    · exact absurd h (by simp)
    · next hgap =>
        obtain ⟨heq, hcategory, hbetween, hconfidence, hrest⟩ := tags?_eq_some_iff.1 h
        obtain ⟨ht, hblank, -⟩ := takeWhile_eq_and_dropWhile_eq_iff.1 ⟨heq.symm, hrest⟩
        refine ⟨⟨⟨heq ▸ hgap, hblank⟩, hcategory, hbetween, hconfidence⟩, ?_⟩
        rw [ht, Closing.text]
        simp
  · rintro ⟨⟨hgap, hcategory, hbetween, hconfidence⟩, rfl⟩
    obtain ⟨htake, hdrop⟩ := takeWhile_eq_and_dropWhile_eq_iff.2
      ⟨(by simp [Closing.text] : r.text = r.gap ++ ('[' :: r.category ++ ']' :: r.between
          ++ '[' :: r.confidence ++ [']'])), hgap.2, (by simp; decide)⟩
    rw [closing?, htake, hdrop]
    split
    · next hnil => exact absurd hnil hgap.1
    · exact tags?_eq_some_iff.2 ⟨rfl, hcategory, hbetween, hconfidence, rfl⟩

/-! ## The three longest stretches -/

/-- The message is the longest stretch of one line before the end of a diagnostic. -/
theorem message?_eq_longest (t : Text) : message? t = longest (· != '\n') closing? t := by
  induction t with
  | nil => rfl
  | cons c rest ih =>
      by_cases hc : c = '\n'
      · simp [message?, longest, hc]
      · rw [message?, longest, if_neg hc, if_pos (by simpa using hc), ih]
        cases longest (· != '\n') closing? rest with
        | some found => rfl
        | none => rfl

/-- The gap is the longest stretch of blanks before a message. -/
theorem gap?_eq_longest (t : Text) : gap? t = longest isBlank message? t := by
  induction t with
  | nil => rfl
  | cons c rest ih =>
      rw [gap?, longest, ih]
      cases longest isBlank message? rest with
      | some found => rfl
      | none => rfl

/-- The path is the longest stretch of one line before a line number. -/
theorem Reading.ofText?_eq_longest (t : Text) :
    Reading.ofText? t = (longest (· != '\n') lineNumber? t).map
      fun (path, line, gap, message, closing) => ⟨path, line, gap, message, closing⟩ := by
  induction t with
  | nil => rfl
  | cons c rest ih =>
      by_cases hc : c = '\n'
      · simp [Reading.ofText?, longest, hc]
      · rw [Reading.ofText?, longest, if_neg hc, if_pos (by simpa using hc), ih]
        cases longest (· != '\n') lineNumber? rest with
        | some found => rfl
        | none =>
            cases lineNumber? rest with
            | some found => rfl
            | none => rfl

/-- A line number is read exactly from digits between colons. -/
theorem lineNumber?_eq_some_iff {t line : Text} {found : Text × Text × Closing} :
    lineNumber? t = some (line, found) ↔
      IsRun Char.isDigit line ∧
        ∃ after, t = ':' :: line ++ ':' :: after ∧ gap? after = some found := by
  cases t with
  | nil => simp [lineNumber?]
  | cons c rest =>
      rw [lineNumber?]
      constructor
      · intro h
        split at h
        · exact absurd h (by simp)
        · next d after hdrop =>
            split at h
            · next hcolons =>
                obtain ⟨rfl, hne, rfl⟩ := hcolons
                obtain ⟨_, hgap, heq⟩ := Option.map_eq_some_iff.1 h
                obtain ⟨rfl, rfl⟩ : rest.takeWhile Char.isDigit = line ∧ _ = found := by
                  simpa using heq
                obtain ⟨hrest, hdigits, -⟩ := takeWhile_eq_and_dropWhile_eq_iff.1 ⟨rfl, hdrop⟩
                exact ⟨⟨hne, hdigits⟩, after, by rw [List.cons_append, ← hrest], hgap⟩
            · exact absurd h (by simp)
      · rintro ⟨hline, after, heq, hgap⟩
        rw [List.cons_append, List.cons.injEq] at heq
        obtain ⟨rfl, hrest⟩ := heq
        obtain ⟨htake, hdrop⟩ := takeWhile_eq_and_dropWhile_eq_iff.2 ⟨hrest, hline.2, by simp⟩
        rw [hdrop, htake]
        simp only [hline.1, ne_eq, not_false_eq_true, and_self, if_true, hgap, Option.map_some]

/-- Digits before a colon end at the colon. -/
theorem eq_of_cut_at_colon {line other rest otherRest : Text} (hline : IsRun Char.isDigit line)
    (hother : IsRun Char.isDigit other)
    (h : ':' :: line ++ ':' :: rest = ':' :: other ++ ':' :: otherRest) :
    line = other ∧ rest = otherRest := by
  rw [List.cons_append, List.cons_append, List.cons.injEq] at h
  have hleft := takeWhile_eq_and_dropWhile_eq_iff.2 ⟨rfl, hline.2,
    (by simp : ∀ c ∈ (':' :: rest).head?, c.isDigit = false)⟩
  have hright := takeWhile_eq_and_dropWhile_eq_iff.2 ⟨h.2, hother.2,
    (by simp : ∀ c ∈ (':' :: otherRest).head?, c.isDigit = false)⟩
  have hrest : ':' :: rest = ':' :: otherRest := hleft.2.symm.trans hright.2
  exact ⟨hleft.1.symm.trans hright.1, (List.cons.inj hrest).2⟩

/-! ## The reading that counts -/

namespace Reading

/-- Whether `r` is a reading of the line `t`. -/
def IsOf (r : Reading) (t : Text) : Prop := r.WellFormed ∧ r.text = t

/-- Whether `r` comes before `s`: by the longer path, then by the longer gap, then by the longer
message. -/
def ComesBefore (r s : Reading) : Prop :=
  s.path.length < r.path.length ∨
    s.path.length = r.path.length ∧
      (s.gap.length < r.gap.length ∨
        s.gap.length = r.gap.length ∧ s.message.length < r.message.length)

/-- Whether `r` is the reading of `t` that counts: it comes before every other one. -/
def CountsFor (r : Reading) (t : Text) : Prop :=
  r.IsOf t ∧ ∀ s : Reading, s.IsOf t → s ≠ r → r.ComesBefore s

/-- Only one reading of a line counts. -/
theorem countsFor_unique {r s : Reading} {t : Text} (hr : r.CountsFor t) (hs : s.CountsFor t) :
    r = s := by
  by_contra hne
  have hrs := hr.2 s hs.1 fun h => hne h.symm
  have hsr := hs.2 r hr.1 hne
  unfold ComesBefore at hrs hsr
  omega

/-- What follows the path in the text of a reading. -/
theorem text_eq (r : Reading) :
    r.text = r.path ++ (':' :: r.line ++ ':' :: (r.gap ++ (r.message ++ r.closing.text))) := by
  simp [Reading.text]

variable {r s : Reading} {t : Text}

/-- Readings agree if their parts do and the ends of the lines read alike. -/
theorem eq_of_parts (hr : r.WellFormed) (hs : s.WellFormed) (hpath : r.path = s.path)
    (hline : r.line = s.line) (hgap : r.gap = s.gap) (hmessage : r.message = s.message)
    (htext : r.closing.text = s.closing.text) : r = s := by
  have hclosing : r.closing = s.closing := by
    have hread := closing?_eq_some_iff.2 ⟨hs.closing, htext⟩
    rw [closing?_eq_some_iff.2 ⟨hr.closing, rfl⟩, Option.some.injEq] at hread
    exact hread
  cases r
  cases s
  simp_all

/-- After the gap of a reading a message is found. -/
theorem WellFormed.message?_ne_none (h : r.WellFormed) :
    message? (r.message ++ r.closing.text) ≠ none := by
  intro hnone
  rw [message?_eq_longest] at hnone
  have hclosing := longest_eq_none_iff.1 hnone r.message r.closing.text h.message rfl
  rw [closing?_eq_some_iff.2 ⟨h.closing, rfl⟩] at hclosing
  exact absurd hclosing (by simp)

/-- After the line number of a reading a gap is found. -/
theorem WellFormed.gap?_ne_none (h : r.WellFormed) :
    gap? (r.gap ++ (r.message ++ r.closing.text)) ≠ none := by
  intro hnone
  rw [gap?_eq_longest] at hnone
  exact h.message?_ne_none (longest_eq_none_iff.1 hnone r.gap _ h.gap rfl)

/-- After the path of a reading a line number is found. -/
theorem WellFormed.lineNumber?_ne_none (h : r.WellFormed) :
    lineNumber? (':' :: r.line ++ ':' :: (r.gap ++ (r.message ++ r.closing.text))) ≠ none := by
  obtain ⟨found, hfound⟩ := Option.ne_none_iff_exists'.1 h.gap?_ne_none
  rw [lineNumber?_eq_some_iff.2 ⟨h.line, _, rfl, hfound⟩]
  simp

/-- What is found is a reading, and its path, its gap and its message are the longest ones before
what follows them. -/
theorem longest_of_ofText? (h : ofText? t = some r) :
    r.IsOf t ∧
      longest (· != '\n') lineNumber? t = some (r.path, r.line, r.gap, r.message, r.closing) ∧
      longest isBlank message? (r.gap ++ (r.message ++ r.closing.text))
        = some (r.gap, r.message, r.closing) ∧
      longest (· != '\n') closing? (r.message ++ r.closing.text) = some (r.message, r.closing) := by
  -- What follows each stretch is where the next one begins.
  rw [ofText?_eq_longest] at h
  obtain ⟨⟨path, line, gap, message, closing⟩, hpath, rfl⟩ := Option.map_eq_some_iff.1 h
  obtain ⟨hpathRun, rest, rfl, hrest⟩ := eq_append_of_longest hpath
  obtain ⟨hlineRun, after, rfl, hgap⟩ := lineNumber?_eq_some_iff.1 hrest
  rw [gap?_eq_longest] at hgap
  obtain ⟨hgapRun, behind, rfl, hmessage⟩ := eq_append_of_longest hgap
  rw [message?_eq_longest] at hmessage
  obtain ⟨hmessageRun, last, rfl, hlast⟩ := eq_append_of_longest hmessage
  obtain ⟨hclosing, rfl⟩ := closing?_eq_some_iff.1 hlast
  exact ⟨⟨⟨hpathRun, hlineRun, hgapRun, hmessageRun, hclosing⟩, text_eq _⟩, hpath, hgap, hmessage⟩

/-- A line without a reading is not read. -/
theorem ofText?_eq_none_iff : ofText? t = none ↔ ∀ r : Reading, ¬ r.IsOf t := by
  constructor
  · rintro hnone r ⟨hr, rfl⟩
    rw [ofText?_eq_longest, Option.map_eq_none_iff] at hnone
    exact hr.lineNumber?_ne_none (longest_eq_none_iff.1 hnone r.path _ hr.path r.text_eq)
  · intro hnone
    cases h : ofText? t with
    | none => rfl
    | some r => exact absurd (longest_of_ofText? h).1 (hnone r)

/-- A reading counts if no other one has a longer path, behind the same path none has a longer gap,
and behind the same gap none has a longer message. -/
theorem countsFor_of_length_le (hr : r.IsOf t)
    (hpath : ∀ s : Reading, s.IsOf t → s.path.length ≤ r.path.length)
    (hgap : ∀ s : Reading, s.IsOf t →
      s.gap ++ (s.message ++ s.closing.text) = r.gap ++ (r.message ++ r.closing.text) →
      s.gap.length ≤ r.gap.length)
    (hmessage : ∀ s : Reading, s.IsOf t →
      s.message ++ s.closing.text = r.message ++ r.closing.text →
      s.message.length ≤ r.message.length) : r.CountsFor t := by
  refine ⟨hr, fun s hs hne => ?_⟩
  have hcut : s.path ++ (':' :: s.line ++ ':' :: (s.gap ++ (s.message ++ s.closing.text)))
      = r.path ++ (':' :: r.line ++ ':' :: (r.gap ++ (r.message ++ r.closing.text))) := by
    rw [← text_eq, ← text_eq, hr.2, hs.2]
  -- Parts of the same length are the same, and what follows them agrees again.
  rcases Nat.lt_or_eq_of_le (hpath s hs) with hlt | hlength
  · exact .inl hlt
  obtain ⟨hsame, hcut⟩ := List.append_inj hcut hlength
  obtain ⟨hline, hcut⟩ := eq_of_cut_at_colon hs.1.line hr.1.line hcut
  refine .inr ⟨hlength, ?_⟩
  rcases Nat.lt_or_eq_of_le (hgap s hs hcut) with hlt | hlength
  · exact .inl hlt
  obtain ⟨hgapSame, hcut⟩ := List.append_inj hcut hlength
  refine .inr ⟨hlength, ?_⟩
  rcases Nat.lt_or_eq_of_le (hmessage s hs hcut) with hlt | hlength
  · exact hlt
  obtain ⟨hmessageSame, hcut⟩ := List.append_inj hcut hlength
  exact absurd (eq_of_parts hs.1 hr.1 hsame hline hgapSame hmessageSame hcut) hne

/-- The reading that is found counts. -/
theorem countsFor_of_ofText? (h : ofText? t = some r) : r.CountsFor t := by
  obtain ⟨hr, hpath, hgap, hmessage⟩ := longest_of_ofText? h
  refine countsFor_of_length_le hr (fun s hs => ?_) (fun s hs hcut => ?_) (fun s hs hcut => ?_)
  · exact length_le_of_longest hpath hs.1.path (hs.2 ▸ s.text_eq) hs.1.lineNumber?_ne_none
  · exact length_le_of_longest hgap hs.1.gap hcut.symm hs.1.message?_ne_none
  · have hread : closing? s.closing.text = some s.closing :=
      closing?_eq_some_iff.2 ⟨hs.1.closing, rfl⟩
    exact length_le_of_longest hmessage hs.1.message hcut.symm (by simp [hread])

/-- A line is read by the reading that counts. -/
theorem ofText?_eq_some_iff : ofText? t = some r ↔ r.CountsFor t := by
  refine ⟨countsFor_of_ofText?, fun hr => ?_⟩
  obtain ⟨s, hs⟩ := Option.ne_none_iff_exists'.1 fun hnone => ofText?_eq_none_iff.1 hnone r hr.1
  rw [hs, countsFor_unique hr (countsFor_of_ofText? hs)]

end Reading

/-! ## The finding on a line -/

/-- The finding that a reading states if its line number can be read: a confidence of more than
4300 digits gives way to 1. -/
def Reading.finding (r : Reading) : Finding :=
  ⟨Numeral.value r.line, r.message, r.closing.category,
    if r.closing.confidence.length ≤ 4300 then Numeral.value r.closing.confidence else 1⟩

namespace Finding

/-- A reading states its finding unless its line number is too long. -/
theorem ofReading_eq (r : Reading) :
    ofReading r = if r.line.length ≤ 4300 then .ok r.finding else .error ⟨r.line.length⟩ := by
  rw [ofReading, Numeral.read, Numeral.read, Reading.finding, Numeral.maxDigits]
  by_cases hline : r.line.length ≤ 4300
  · by_cases hconfidence : r.closing.confidence.length ≤ 4300
    · simp only [if_pos hline, if_pos hconfidence]
    · simp only [if_pos hline, if_neg hconfidence, defaultConfidence]
  · simp only [if_neg hline]

variable {r : Reading} {t : Text}

/-- A line without a reading states no finding. -/
theorem ofText?_of_forall_not (h : ∀ r : Reading, ¬ r.IsOf t) : ofText? t = .ok none := by
  rw [ofText?, Reading.ofText?_eq_none_iff.2 h]

/-- A line states the finding of its reading that counts, unless the line number is too long. -/
theorem ofText?_of_countsFor (hr : r.CountsFor t) :
    ofText? t = if r.line.length ≤ 4300 then .ok (some r.finding) else .error ⟨r.line.length⟩ := by
  rw [ofText?, Reading.ofText?_eq_some_iff.2 hr]
  simp only [ofReading_eq]
  split <;> rfl

/-- **The grammar of diagnostics.** A line is no diagnostic exactly if it has no reading. Otherwise
one of its readings counts: the line is refused if the line number of that reading has more than
4300 digits, and else states the finding of that reading. -/
theorem ofText?_grammar (t : Text) :
    ((∃ r : Reading, r.IsOf t) ↔ ∃! r : Reading, r.CountsFor t) ∧
      (ofText? t = .ok none ↔ ¬ ∃ r : Reading, r.IsOf t) ∧
      (∀ f, ofText? t = .ok (some f) ↔
        ∃ r : Reading, r.CountsFor t ∧ r.line.length ≤ 4300 ∧ f = r.finding) ∧
      ∀ e, ofText? t = .error e ↔
        ∃ r : Reading, r.CountsFor t ∧ 4300 < r.line.length ∧ e = ⟨r.line.length⟩ := by
  cases h : Reading.ofText? t with
  | none =>
      have hnone := Reading.ofText?_eq_none_iff.1 h
      have hno : ¬ ∃ r : Reading, r.CountsFor t := fun ⟨r, hr⟩ => hnone r hr.1
      rw [ofText?_of_forall_not hnone]
      refine ⟨⟨fun ⟨r, hr⟩ => absurd hr (hnone r), fun ⟨r, hr, _⟩ => absurd ⟨r, hr⟩ hno⟩,
        ⟨fun _ ⟨r, hr⟩ => hnone r hr, fun _ => rfl⟩,
        fun f => ⟨fun hf => absurd hf (by simp), fun ⟨r, hr, _⟩ => absurd ⟨r, hr⟩ hno⟩,
        fun e => ⟨fun he => absurd he (by simp), fun ⟨r, hr, _⟩ => absurd ⟨r, hr⟩ hno⟩⟩
  | some r =>
      have hr := Reading.ofText?_eq_some_iff.1 h
      -- Only one reading counts, so whatever is said of one that does is said of this one.
      have honly : ∀ s : Reading, s.CountsFor t → s = r := fun s hs =>
        Reading.countsFor_unique hs hr
      refine ⟨⟨fun _ => ⟨r, hr, honly⟩, fun _ => ⟨r, hr.1⟩⟩, ⟨fun hf => ?_, fun hno => ?_⟩,
        fun f => ⟨fun hf => ⟨r, hr, ?_⟩, ?_⟩, fun e => ⟨fun he => ⟨r, hr, ?_⟩, ?_⟩⟩
      · rw [ofText?_of_countsFor hr] at hf
        split at hf <;> exact absurd hf (by simp)
      · exact absurd ⟨r, hr.1⟩ hno
      · rw [ofText?_of_countsFor hr] at hf
        split at hf
        · next hle => exact ⟨hle, by simpa using hf.symm⟩
        · exact absurd hf (by simp)
      · rintro ⟨s, hs, hle, rfl⟩
        rw [ofText?_of_countsFor hs, if_pos hle]
      · rw [ofText?_of_countsFor hr] at he
        split at he
        · exact absurd he (by simp)
        · next hlt => exact ⟨Nat.lt_of_not_le hlt, by simpa using he.symm⟩
      · rintro ⟨s, hs, hlt, rfl⟩
        rw [ofText?_of_countsFor hs, if_neg (Nat.not_le.2 hlt)]

end Finding

end LintMend

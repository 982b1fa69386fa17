import LintMend.Mend.Directive
import LintMend.Mend.GuardName
import LintMend.Proofs.Text.Pieces
import LintMend.Proofs.Text.Stretch
import LintMend.Proofs.Text.WholeWord

/-! # Directive lines

Which lines are directives, by how they are spelled, and what becomes of them when a word is
replaced.
* `isWord_eq_false_of_isBlank`: no blank is part of a word.
* `GuardName.spacedWord?_eq_some_iff`: the word that comes after blanks.
* `Spells`, `Spelled`: a line spelled with a keyword and a word after it; `operand?_eq_some_iff`
  says that these are the lines whose word is read.
* `operand?_replaceWord`: a directive whose word is replaced has the new word, unless the word that
  was replaced is the keyword.
* `operand?_written`: a directive that is written is read back. -/

namespace LintMend

open Text

namespace Text

/-- No blank is part of a word. -/
theorem isWord_eq_false_of_isBlank {c : Char} (h : isBlank c = true) : isWord c = false :=
  of_isBlank (P := fun c => isWord c = false) (by decide +kernel) h

/-- No word character is blank. -/
theorem isBlank_eq_false_of_isWord {c : Char} (h : isWord c = true) : isBlank c = false := by
  by_contra hblank
  rw [Bool.not_eq_false] at hblank
  rw [isWord_eq_false_of_isBlank hblank] at h
  exact absurd h (by decide)

/-- A word does not begin with a blank. -/
theorem IsWord.isBlank_head? {word : Text} (h : IsWord word) (rest : Text) :
    ∀ c ∈ (word ++ rest).head?, isBlank c = false := by
  obtain ⟨first, others, rfl⟩ := List.exists_cons_of_ne_nil h.1
  intro c hc
  obtain rfl : first = c := by simpa using hc
  exact isBlank_eq_false_of_isWord (h.2 first List.mem_cons_self)

/-- What is left of a text when the blanks before it are trimmed. -/
theorem trimStart_eq_iff {t rest : Text} :
    trimStart t = rest ↔ ∃ lead, t = lead ++ rest ∧ (∀ c ∈ lead, isBlank c = true)
      ∧ ∀ c ∈ rest.head?, isBlank c = false := by
  constructor
  · intro h
    exact ⟨_, takeWhile_eq_and_dropWhile_eq_iff.1 ⟨rfl, h⟩⟩
  · rintro ⟨lead, hsplit⟩
    exact (takeWhile_eq_and_dropWhile_eq_iff.2 hsplit).2

/-- The word at the front of a text ends where no word character follows. -/
theorem leadingWord_eq_iff {t word : Text} :
    leadingWord t = word ↔ ∃ rest, t = word ++ rest ∧ (∀ c ∈ word, isWord c = true)
      ∧ ∀ c ∈ rest.head?, isWord c = false := by
  constructor
  · intro h
    exact ⟨_, takeWhile_eq_and_dropWhile_eq_iff.1 ⟨h, rfl⟩⟩
  · rintro ⟨rest, hsplit⟩
    exact (takeWhile_eq_and_dropWhile_eq_iff.2 hsplit).1

end Text

/-- A word is read after blanks where there is one of them at least, and where a word follows. -/
theorem GuardName.spacedWord?_eq_some_iff {t word : Text} :
    spacedWord? t = some word ↔ ∃ space rest, t = space ++ (word ++ rest) ∧ IsRun isBlank space
      ∧ IsWord word ∧ ∀ c ∈ rest.head?, isWord c = false := by
  rw [spacedWord?]
  constructor
  · intro h
    split at h
    · next hword =>
        obtain ⟨space, ht, hspace, -⟩ := trimStart_eq_iff.1 (rfl : trimStart t = _)
        obtain rfl : leadingWord (trimStart t) = word := by simpa using h
        obtain ⟨rest, htrim, hchars, hend⟩ :=
          leadingWord_eq_iff.1 (rfl : leadingWord (trimStart t) = _)
        refine ⟨space, rest, by rw [← htrim, ← ht], ⟨?_, hspace⟩, ⟨hword.2, hchars⟩, hend⟩
        -- without blanks the word would begin with the one that must come first
        rintro rfl
        obtain ⟨c, others, hcons⟩ := List.exists_cons_of_ne_nil hword.2
        have hfirst : t.head? = some c := by
          rw [ht, List.nil_append, htrim, hcons]
          rfl
        have hblank := hword.1
        rw [hfirst, Option.any_some] at hblank
        have hc := hchars c (hcons ▸ List.mem_cons_self)
        exact absurd hblank (by simp [isBlank_eq_false_of_isWord hc])
    · exact absurd h (by simp)
  · rintro ⟨space, rest, rfl, hspace, hword, hend⟩
    have htrim : trimStart (space ++ (word ++ rest)) = word ++ rest :=
      trimStart_eq_iff.2 ⟨space, rfl, hspace.2, hword.isBlank_head? rest⟩
    have hleading : leadingWord (word ++ rest) = word :=
      leadingWord_eq_iff.2 ⟨rest, rfl, hword.2, hend⟩
    obtain ⟨c, others, rfl⟩ := List.exists_cons_of_ne_nil hspace.1
    rw [htrim, hleading, if_pos]
    exact ⟨by simpa using hspace.2 c List.mem_cons_self, hword.1⟩

namespace Directive

variable {keyword line rest word : Text}

/-- In a line that begins with blanks, the number sign, blanks and a word, a keyword is looked for
from the word on. -/
theorem rest?_append {lead gap : Text} (hword : IsWord word) (hlead : ∀ c ∈ lead, isBlank c = true)
    (hgap : ∀ c ∈ gap, isBlank c = true) (keyword rest : Text) :
    rest? keyword (lead ++ '#' :: (gap ++ (word ++ rest))) = after? keyword (word ++ rest) := by
  have hsign : trimStart (lead ++ '#' :: (gap ++ (word ++ rest)))
      = '#' :: (gap ++ (word ++ rest)) := by
    refine trimStart_eq_iff.2 ⟨lead, rfl, hlead, fun c hc => ?_⟩
    obtain rfl : '#' = c := by simpa using hc
    decide
  have htrim : trimStart (gap ++ (word ++ rest)) = word ++ rest :=
    trimStart_eq_iff.2 ⟨gap, rfl, hgap, hword.isBlank_head? rest⟩
  rw [rest?, hsign]
  dsimp only
  rw [if_pos rfl, htrim]

/-- A line has a keyword if it is spelled so: blanks, the number sign, blanks, the keyword. -/
theorem rest?_eq_some_iff (hkeyword : IsWord keyword) :
    rest? keyword line = some rest ↔
      ∃ lead gap, line = lead ++ '#' :: (gap ++ (keyword ++ rest))
        ∧ (∀ c ∈ lead, isBlank c = true) ∧ ∀ c ∈ gap, isBlank c = true := by
  constructor
  · intro h
    rw [rest?] at h
    split at h
    · exact absurd h (by simp)
    · next c after htrim =>
        by_cases hc : c = '#'
        · rw [if_pos hc, after?_eq_some_iff] at h
          obtain ⟨lead, rfl, hlead, -⟩ := trimStart_eq_iff.1 htrim
          obtain ⟨gap, rfl, hgap, -⟩ := trimStart_eq_iff.1 h
          exact ⟨lead, gap, by rw [hc], hlead, hgap⟩
        · rw [if_neg hc] at h
          exact absurd h (by simp)
  · rintro ⟨lead, gap, rfl, hlead, hgap⟩
    rw [rest?_append hkeyword hlead hgap, after?_eq_some_iff]

/-- Whether a line is a directive with a keyword and a word, with these texts around them. -/
structure Spells (keyword word line lead gap space rest : Text) : Prop where
  /-- The parts of the line. -/
  eq_append : line = lead ++ '#' :: (gap ++ (keyword ++ (space ++ (word ++ rest))))
  /-- Blanks before the number sign. -/
  lead_blank : ∀ c ∈ lead, isBlank c = true
  /-- Blanks after it. -/
  gap_blank : ∀ c ∈ gap, isBlank c = true
  /-- Blanks between the keyword and the word. -/
  space_blank : ∀ c ∈ space, isBlank c = true
  /-- At least one of them. -/
  space_ne_nil : space ≠ []
  /-- The word is one. -/
  word_isWord : IsWord word
  /-- The word ends there. -/
  rest_apart : ∀ c ∈ rest.head?, isWord c = false

/-- Whether a line is a directive with a keyword and a word, whatever stands around them. -/
def Spelled (keyword word line : Text) : Prop :=
  ∃ lead gap space rest, Spells keyword word line lead gap space rest

/-- The word of a directive is the one after the blanks that follow its keyword. -/
theorem operand?_eq_bind (keyword line : Text) :
    operand? keyword line = (rest? keyword line).bind GuardName.spacedWord? := by
  rw [operand?]
  cases rest? keyword line <;> rfl

/-- The word of a directive is read exactly from the lines that are spelled so. -/
theorem operand?_eq_some_iff (hkeyword : IsWord keyword) :
    operand? keyword line = some word ↔ Spelled keyword word line := by
  rw [operand?_eq_bind, Option.bind_eq_some_iff]
  constructor
  · rintro ⟨after, hrest, hword⟩
    obtain ⟨lead, gap, hline, hlead, hgap⟩ := (rest?_eq_some_iff hkeyword).1 hrest
    obtain ⟨space, rest, rfl, hspace, hisWord, hapart⟩ := GuardName.spacedWord?_eq_some_iff.1 hword
    exact ⟨lead, gap, space, rest, hline, hlead, hgap, hspace.2, hspace.1, hisWord, hapart⟩
  · rintro ⟨lead, gap, space, rest, h⟩
    exact ⟨_, (rest?_eq_some_iff hkeyword).2 ⟨lead, gap, h.eq_append, h.lead_blank, h.gap_blank⟩,
      GuardName.spacedWord?_eq_some_iff.2
        ⟨space, rest, rfl, ⟨h.space_ne_nil, h.space_blank⟩, h.word_isWord, h.rest_apart⟩⟩

/-- A directive of which a word is replaced: what stands before the keyword and the blanks stay, and
so does the keyword unless it is that word. -/
theorem spells_replaceWord {old new lead gap space : Text} (hkeyword : IsWord keyword)
    (h : Spells keyword old line lead gap space rest) (hne : keyword ≠ old) (hnew : IsWord new) :
    Spells keyword new (replaceWord old new line) lead gap space (replaceWord old new rest) := by
  have hold := h.word_isWord
  have hblank : ∀ {t : Text}, (∀ c ∈ t, isBlank c = true) → ∀ c ∈ t, isWord c = false :=
    fun ht c hc => isWord_eq_false_of_isBlank (ht c hc)
  have hbefore : ∀ c ∈ lead ++ '#' :: gap, isWord c = false := by
    rw [List.forall_mem_append, List.forall_mem_cons]
    exact ⟨hblank h.lead_blank, by decide, hblank h.gap_blank⟩
  have hspace := hblank h.space_blank
  -- The line is cut first at the keyword, then at the word.
  have hfirst : StandsBetween keyword line (lead ++ '#' :: gap) (space ++ (old ++ rest)) := by
    refine ⟨?_, fun c hc => hbefore c (List.mem_of_getLast? hc), fun c hc => ?_⟩
    · rw [h.eq_append]
      simp
    · rw [List.head?_append_of_ne_nil _ h.space_ne_nil] at hc
      exact hspace c (List.mem_of_head? hc)
  have hsecond : StandsBetween old (space ++ (old ++ rest)) space rest :=
    ⟨rfl, fun c hc => hspace c (List.mem_of_getLast? hc), h.rest_apart⟩
  refine ⟨?_, h.lead_blank, h.gap_blank, h.space_blank, h.space_ne_nil, hnew,
    head?_replaceWord hold h.rest_apart⟩
  rw [replaceWord_of_standsBetween hkeyword hfirst, if_neg hne,
    replaceWord_of_standsBetween hold hsecond, if_pos rfl, replaceWord_of_forall_not hold hbefore,
    replaceWord_of_forall_not hold hspace]
  simp

/-- A directive whose word is replaced names the new word, unless the word is also its keyword. -/
theorem operand?_replaceWord {old new : Text} (hkeyword : IsWord keyword)
    (h : operand? keyword line = some old) (hne : keyword ≠ old) (hnew : IsWord new) :
    operand? keyword (replaceWord old new line) = some new := by
  obtain ⟨lead, gap, space, rest, hspells⟩ := (operand?_eq_some_iff hkeyword).1 h
  exact (operand?_eq_some_iff hkeyword).2
    ⟨lead, gap, space, _, spells_replaceWord hkeyword hspells hne hnew⟩

/-- The word of a directive is one. -/
theorem isWord_of_operand? (hkeyword : IsWord keyword) (h : operand? keyword line = some word) :
    IsWord word := by
  obtain ⟨lead, gap, space, rest, hspells⟩ := (operand?_eq_some_iff hkeyword).1 h
  exact hspells.word_isWord

/-- It is a run of the line. -/
theorem mem_runs_of_operand? (hkeyword : IsWord keyword) (h : operand? keyword line = some word) :
    word ∈ runs line := by
  obtain ⟨lead, gap, space, rest, hspells⟩ := (operand?_eq_some_iff hkeyword).1 h
  have hstands : StandsBetween word line (lead ++ '#' :: (gap ++ (keyword ++ space))) rest := by
    refine ⟨?_, fun c hc => ?_, hspells.rest_apart⟩
    · rw [hspells.eq_append]
      simp
    · -- what stands right before the word is the last of the blanks
      have hlead : lead ++ '#' :: (gap ++ (keyword ++ space))
          = (lead ++ '#' :: (gap ++ keyword)) ++ space := by simp
      rw [hlead, List.getLast?_append_of_ne_nil _ hspells.space_ne_nil] at hc
      exact isWord_eq_false_of_isBlank (hspells.space_blank c (List.mem_of_getLast? hc))
  rw [runs_of_standsBetween hspells.word_isWord hstands]
  exact List.mem_append_right _ List.mem_cons_self

/-- No directive is on an empty line. -/
theorem ne_nil_of_operand? (h : operand? keyword line = some word) : line ≠ [] := by
  rintro rfl
  cases h

/-- An all blank line has no keyword. -/
theorem rest?_of_isAllBlank (h : isAllBlank line = true) : rest? keyword line = none := by
  have htrim : trimStart line = [] :=
    trimStart_eq_iff.2 ⟨line, by simp, List.all_eq_true.1 h, by simp⟩
  rw [rest?, htrim]

/-! ## The directives of a guard -/

theorem isWord_ifndef : IsWord "ifndef".toList := by decide

theorem isWord_define : IsWord "define".toList := by decide

/-- A line of blanks defines nothing. -/
theorem isAllBlank_eq_false_of_define? (h : define? line = some word) :
    isAllBlank line = false := by
  by_contra hblank
  rw [Bool.not_eq_false] at hblank
  rw [define?, operand?, rest?_of_isAllBlank hblank] at h
  exact absurd h (by simp)

/-- A directive written with one space between the keyword and the word is read. -/
theorem operand?_written (hkeyword : IsWord keyword) (hword : IsWord word) :
    operand? keyword ('#' :: (keyword ++ ' ' :: word)) = some word := by
  refine (operand?_eq_some_iff hkeyword).2
    ⟨[], [], [' '], [], ?_, by simp, by simp, ?_, by simp, hword, by simp⟩
  · simp
  · intro c hc
    obtain rfl : c = ' ' := by simpa using hc
    decide

end Directive

end LintMend

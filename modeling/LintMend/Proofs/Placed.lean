import LintMend.Placed
import LintMend.Proofs.Text.Rows

/-! # Findings in their places

What is known of a finding that has been placed in a document.
* `Document.lineStart_le_start_rangeOfLine`: the range of a line lies on the line.
* `Fix.offered_eq`: one fix is offered, or two if the category is one of those with a fix of their
  own; `Fix.eq_of_specific?` and `Fix.eq_of_mem_offered` say which fixes they can be.
* `PlacedFinding.FitsIn`, `PlacedFinding.fitsIn_of_place?`: a placed finding has a line that there
  is, a range on that line, and these fixes. -/

namespace LintMend

open Text

/-! ## Lines and ranges -/

namespace Document

/-- The line that a number means is one that there is. -/
theorem lt_of_lineIndex? {d : Document} {number : Int} {line : Nat}
    (h : d.lineIndex? number = some line) : line < d.lineCount := by
  rw [lineIndex?] at h
  split at h
  · cases h
  · split at h
    · cases h
      omega
    · cases h
      omega

/-- The range of a line does not begin before the line. -/
theorem lineStart_le_start_rangeOfLine (d : Document) (line : Nat) :
    Text.lineStart d.text line ≤ (d.rangeOfLine line).start := by
  rw [start_rangeOfLine]
  -- what is left of the line without its first blanks is no longer than the line
  have htrim : (trimStart (Text.lineText d.text line)).length
      ≤ Text.lineEnd d.text line - Text.lineStart d.text line := by
    refine Nat.le_trans (List.dropWhile_sublist isBlank).length_le ?_
    rw [Text.lineText, slice, List.length_take]
    exact Nat.min_le_left _ _
  have horder := lineStart_le_lineEnd d.text line
  omega

end Document

/-! ## Offers -/

/-- The fixes that are offered: to pass over the finding, and before it the fix of the category if
it has one. -/
theorem Fix.offered_eq (category message : Text) :
    if category = guardCategory ∨ category = newlineCategory then
      ∃ fix, (∀ other, fix ≠ suppression other)
        ∧ offered category message = [fix, suppression category]
    else offered category message = [suppression category] := by
  rw [offered, specific?]
  by_cases hguard : category = guardCategory
  · rw [if_pos (.inl hguard), if_pos hguard]
    refine ⟨.headerGuard (GuardName.suggested? message), ?_, rfl⟩
    intro other h
    cases h
  · by_cases hnewline : category = newlineCategory
    · rw [if_pos (.inr hnewline), if_neg hguard, if_pos hnewline]
      refine ⟨.trailingNewline, ?_, rfl⟩
      intro other h
      cases h
    · rw [if_neg (not_or.2 ⟨hguard, hnewline⟩), if_neg hguard, if_neg hnewline]
      rfl

/-- The specific fix names the guard, for findings on guards, or ends the file with a line feed. -/
theorem Fix.eq_of_specific? {fix : Fix} {category message : Text}
    (h : specific? category message = some fix) :
    category = guardCategory ∧ fix = headerGuard (GuardName.suggested? message)
      ∨ fix = trailingNewline := by
  rw [specific?] at h
  split at h
  · next hguard => exact .inl ⟨hguard, (Option.some.inj h).symm⟩
  · split at h
    · exact .inr (Option.some.inj h).symm
    · cases h

/-- An offered fix is one of these two, or it is to pass over the finding. -/
theorem Fix.eq_of_mem_offered {fix : Fix} {category message : Text}
    (h : fix ∈ offered category message) :
    fix = headerGuard (GuardName.suggested? message) ∨ fix = trailingNewline
      ∨ fix = suppression category := by
  rw [offered, List.mem_append, Option.mem_toList, List.mem_singleton] at h
  rcases h with hspecific | rfl
  · rcases eq_of_specific? hspecific with ⟨-, rfl⟩ | rfl
    · exact .inl rfl
    · exact .inr (.inl rfl)
  · exact .inr (.inr rfl)

/-! ## Placed findings -/

namespace PlacedFinding

/-- Whether a finding is in its place in a document. -/
structure FitsIn (p : PlacedFinding) (d : Document) : Prop where
  /-- The document has the line. -/
  line : p.line < d.lineCount
  /-- The range does not begin before the line. -/
  start : Text.lineStart d.text p.line ≤ p.range.start
  /-- It does not end behind the line. -/
  stop : p.range.stop ≤ Text.lineEnd d.text p.line
  /-- To pass over the finding is the last fix, and for two categories there is another one before
  it. -/
  fixes : if p.finding.category = Fix.guardCategory ∨ p.finding.category = Fix.newlineCategory then
      ∃ fix, (∀ other, fix ≠ .suppression other)
        ∧ p.fixes = [fix, .suppression p.finding.category]
    else p.fixes = [.suppression p.finding.category]

variable {d : Document} {f : Finding} {p : PlacedFinding}

/-- A placed finding is the finding, in its place. -/
theorem fitsIn_of_place? (h : p ∈ place? d f) : p.finding = f ∧ p.FitsIn d := by
  obtain ⟨line, hline, rfl⟩ := Option.map_eq_some_iff.1 h
  refine ⟨rfl, ?_⟩
  constructor
  · exact Document.lt_of_lineIndex? hline
  · exact d.lineStart_le_start_rangeOfLine line
  · exact Nat.le_of_eq (d.stop_rangeOfLine line)
  · exact Fix.offered_eq f.category f.message

/-- In a document that is not empty every finding has a place, in the empty one none has. -/
theorem place?_eq_none_iff : place? d f = none ↔ d.text = [] := by
  rw [place?, Option.map_eq_none_iff, Document.lineIndex?_eq_none_iff]

end PlacedFinding

end LintMend

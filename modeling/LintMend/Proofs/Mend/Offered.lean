import LintMend.Proofs.Mend.SpecificFixes
import LintMend.Proofs.Mend.SuppressionRun
import LintMend.Proofs.Placed

/-! # Offered fixes stay applicable

A finding is placed once, and the fixes that it offers may be applied much later, when others have
changed the document. They still can be: no fix takes out a line feed, so a line that was there is
there for good, and the guard names that are offered are words, which stand for themselves as
replacement templates.
* `Guard.count_le_count_rename`: renaming a guard takes out no line feed.
* `Fix.lineCount_le_apply`: no fix leaves fewer lines, whether it fails or not.
* `Fix.fault_apply_of_mem_offered`: an offered fix does not fail on a line that there is.
* `Fix.run_of_areApplicable`: neither does a run of offered fixes, by induction on its steps.
* `Fix.run_offered`: so the fixes that findings offer can be applied in any order. -/

namespace LintMend

open Text

/-! ## Line feeds -/

namespace Guard

/-- Renewing the closing line takes out no line feed. -/
theorem count_le_count_renewEndif (guard : Guard) (name t : Text) :
    t.count '\n' ≤ (guard.renewEndif name t).count '\n' := by
  rw [renewEndif]
  split
  · exact Nat.le_refl _
  · split
    · exact count_le_count_replaceLine t _ _
    · exact Nat.le_refl _

/-- Renaming takes out no line feed, also if it fails. -/
theorem count_le_count_rename (guard : Guard) (name t : Text) :
    t.count '\n' ≤ (guard.rename name t).1.count '\n' := by
  have hclosed := guard.count_le_count_renewEndif name t
  obtain ⟨-, hrename⟩ | ⟨problem, -, -, hrename⟩ | ⟨new, -, -, hrename⟩ :=
    guard.cases_of_rename name t
  · rw [hrename]
    exact hclosed
  · rw [hrename]
    exact hclosed
  · rw [hrename]
    calc t.count '\n'
        ≤ (guard.renewEndif name t).count '\n' := hclosed
      _ ≤ (renameOn guard.defineLine guard.name new (guard.renewEndif name t)).count '\n' :=
          count_le_count_replaceLine _ _ _
      _ ≤ (guard.opened new (guard.renewEndif name t)).count '\n' :=
          count_le_count_replaceLine _ _ _

/-- A guard stands on two lines, so there is a line feed between them. -/
theorem feed_mem_of_find? {t : Text} {g : Guard} (h : find? (lineTexts t) = some g) : '\n' ∈ t := by
  by_contra hfeed
  obtain ⟨k, hlines, -, -⟩ := find?_eq_some_iff.1 h
  have hfew : (lineTexts t).length ≤ 1 := by
    by_cases ht : t = []
    · simp [ht]
    · simp [lineTexts_eq ht, rows_of_not_mem hfeed]
  rw [← hlines] at hfew
  simp [Cut.lines] at hfew
  omega

/-- So a text whose guard has been renamed is not empty. -/
theorem rename_ne_nil {t : Text} {g : Guard} (h : find? (lineTexts t) = some g) (name : Text) :
    (g.rename name t).1 ≠ [] := by
  intro hnil
  have hfeeds := g.count_le_count_rename name t
  have hfeed := List.count_pos_iff.2 (feed_mem_of_find? h)
  rw [hnil, List.count_nil] at hfeeds
  omega

end Guard

namespace Fix

/-- No fix leaves fewer lines than there were, whether it fails or not. -/
theorem lineCount_le_apply (fix : Fix) (d : Document) (line : Int) :
    d.lineCount ≤ (fix.apply d line).document.lineCount := by
  rw [Document.lineCount_eq, Document.lineCount_eq]
  cases fix with
  | suppression category =>
      rw [apply, applySuppression]
      split
      · exact Nat.le_refl _
      · split
        · exact Nat.le_refl _
        · exact lineCount_le_of_count_le (count_le_count_replaceLine _ _ _) fun _ =>
            replaceLine_ne_nil (suppress_ne_nil category _) _ _
  | headerGuard asked =>
      rw [apply, applyHeaderGuard]
      split
      · -- the text stands as it was between the lines that are put around it
        refine lineCount_le_of_count_le ?_ fun _ =>
          List.append_ne_nil_of_right_ne_nil _ (List.cons_ne_nil _ _)
        simp only [Document.text_withText, Guard.wrap, List.count_append]
        omega
      · next guard hfind =>
          have hfeeds := guard.count_le_count_rename (guardName asked d) d.text
          exact lineCount_le_of_count_le hfeeds fun _ => Guard.rename_ne_nil hfind _
  | trailingNewline =>
      rw [apply, applyTrailingNewline]
      split
      · exact Nat.le_refl _
      · refine lineCount_le_of_count_le ?_ fun _ => by simp
        simp

/-! ## Single fixes -/

/-- Naming a guard does not fail if the name that is asked for is a word. -/
theorem fault_applyHeaderGuard {asked : Option Text} (h : ∀ word ∈ asked, IsWord word)
    (d : Document) : (applyHeaderGuard asked d).fault = none := by
  rw [applyHeaderGuard]
  split
  · rfl
  · next guard _ =>
      -- the name is a word, so as a template it stands for itself
      rw [Guard.rename_of_isWord (isWord_guardName h d)]
      rfl

/-- A fix that is offered does not fail on a line that there is. -/
theorem fault_apply_of_mem_offered {fix : Fix} {category message : Text}
    (hfix : fix ∈ offered category message) {d : Document} {line : Int}
    (hline : 0 ≤ line ∧ line < d.lineCount) : (fix.apply d line).fault = none := by
  rcases eq_of_mem_offered hfix with rfl | rfl | rfl
  · exact fault_applyHeaderGuard (fun word hword => GuardName.isWord_of_suggested? hword) d
  · rw [apply_trailingNewline]
  · rw [apply, applySuppression]
    split
    · rfl
    · rw [Document.checkLine, if_pos hline]

/-! ## Runs -/

/-- Whether all steps apply offered fixes to lines that a document has. -/
def AreApplicable (steps : List (Fix × Int)) (d : Document) : Prop :=
  ∀ step ∈ steps, (∃ category message, step.1 ∈ offered category message)
    ∧ 0 ≤ step.2 ∧ step.2 < d.lineCount

/-- What can be applied to a document can be applied to one with no fewer lines. -/
theorem AreApplicable.mono {steps : List (Fix × Int)} {d e : Document} (h : AreApplicable steps d)
    (hcount : d.lineCount ≤ e.lineCount) : AreApplicable steps e := by
  intro step hstep
  obtain ⟨hoffered, hnonneg, hlt⟩ := h step hstep
  exact ⟨hoffered, hnonneg, Int.lt_of_lt_of_le hlt (Int.ofNat_le.2 hcount)⟩

/-- Steps after some that do not fail are applied to what these leave. -/
theorem run_append {d : Document} {front : List (Fix × Int)} (h : (run d front).fault = none)
    (back : List (Fix × Int)) : run d (front ++ back) = run (run d front).document back := by
  induction front generalizing d with
  | nil => rfl
  | cons step front ih =>
      obtain ⟨fix, line⟩ := step
      rw [List.cons_append, run]
      rw [run] at h ⊢
      split
      · next mended happly =>
          rw [happly] at h
          exact ih h
      · next left fault happly =>
          rw [happly] at h
          cases h

/-- A run of offered fixes does not fail, and leaves no fewer lines than there were. -/
theorem run_of_areApplicable {steps : List (Fix × Int)} {d : Document}
    (h : AreApplicable steps d) :
    (run d steps).fault = none ∧ d.lineCount ≤ (run d steps).document.lineCount := by
  -- Each step leaves all lines, so the others can still be applied after it.
  induction steps generalizing d with
  | nil => exact ⟨rfl, Nat.le_refl _⟩
  | cons step steps ih =>
      obtain ⟨fix, line⟩ := step
      rw [AreApplicable, List.forall_mem_cons] at h
      obtain ⟨⟨⟨category, message, hoffered⟩, hline⟩, hothers⟩ := h
      have hfault := fault_apply_of_mem_offered hoffered hline
      have hcount := lineCount_le_apply fix d line
      have happly : fix.apply d line = ⟨(fix.apply d line).document, none⟩ := by
        rw [← hfault]
      obtain ⟨hrun, hlines⟩ := ih (AreApplicable.mono hothers hcount)
      rw [run_cons_of_apply happly]
      exact ⟨hrun, hcount.trans hlines⟩

/-! ## The fixes that findings offer -/

/-- Whether each step applies a fix that one of some findings offers, to the line at which it was
placed in a document. -/
def AreOffered (steps : List (Fix × Int)) (fs : List Finding) (d : Document) : Prop :=
  ∀ step ∈ steps, ∃ f ∈ fs, ∃ p ∈ PlacedFinding.place? d f, step.1 ∈ p.fixes ∧ step.2 = p.line

/-- Fixes that findings offer can be applied where these were placed. -/
theorem AreOffered.areApplicable {steps : List (Fix × Int)} {fs : List Finding} {d : Document}
    (h : AreOffered steps fs d) : AreApplicable steps d := by
  intro step hstep
  obtain ⟨f, -, p, hplace, hfix, hline⟩ := h step hstep
  refine ⟨⟨p.finding.category, p.finding.message, hfix⟩, ?_, ?_⟩
  · rw [hline]
    exact Int.natCast_nonneg _
  · rw [hline]
    exact Int.ofNat_lt.2 (PlacedFinding.fitsIn_of_place? hplace).2.line

/-- The fixes that findings offer can be applied in any order, as often as one likes: none fails.
After any of them there are at least as many lines as before, so the lines at which the findings
were placed are still there. No fix at all leaves fewer lines. -/
theorem run_offered {steps : List (Fix × Int)} {fs : List Finding} {d : Document}
    (h : AreOffered steps fs d) :
    (run d steps).fault = none
      ∧ (∀ front back, steps = front ++ back →
        (run d front).fault = none
          ∧ d.lineCount ≤ (run d front).document.lineCount
          ∧ (run d front).document.lineCount ≤ (run d steps).document.lineCount
          ∧ ∀ f ∈ fs, ∀ p ∈ PlacedFinding.place? d f,
              p.line < (run d front).document.lineCount)
      ∧ ∀ (fix : Fix) (e : Document) (line : Int),
          e.lineCount ≤ (fix.apply e line).document.lineCount := by
  refine ⟨(run_of_areApplicable h.areApplicable).1, ?_, lineCount_le_apply⟩
  rintro front back rfl
  obtain ⟨hfront, hback⟩ := List.forall_mem_append.1 h.areApplicable
  obtain ⟨hfault, hcount⟩ := run_of_areApplicable hfront
  obtain ⟨-, hmore⟩ := run_of_areApplicable (AreApplicable.mono hback hcount)
  rw [← run_append hfault back] at hmore
  refine ⟨hfault, hcount, hmore, ?_⟩
  intro f _ p hplace
  exact Nat.lt_of_lt_of_le (PlacedFinding.fitsIn_of_place? hplace).2.line hcount

/-- A text of one line that nothing ends. -/
def bareLine : Document := ⟨"int x;".toList, none, none, []⟩

/-- A finding on its guard, and one far behind its end whose category no listing can hold. -/
def oddFindings : List Finding :=
  [⟨0, "No guard found, please use: B_H_".toList, guardCategory, 5⟩,
    ⟨7, "Odd".toList, "a)\nb".toList, 1⟩]

/-- All that these findings offer, some of it twice. -/
def oddSteps : List (Fix × Int) :=
  [(suppression "a)\nb".toList, 0), (headerGuard (some "B_H_".toList), 0),
    (suppression guardCategory, 0), (headerGuard (some "B_H_".toList), 0),
    (suppression "a)\nb".toList, 0)]

/-- Line 0 is another line after the second step, and there all the same. -/
theorem run_offered_oddSteps :
    AreOffered oddSteps oddFindings bareLine
      ∧ (run bareLine oddSteps).fault = none
      ∧ (run bareLine (oddSteps.take 2)).document.text
        = "#ifndef B_H_\n#define B_H_\n\nint x;  // NOLINT(a)\nb)\n\n#endif  // B_H_\n".toList
      ∧ bareLine.lineCount ≤ (run bareLine (oddSteps.take 2)).document.lineCount := by
  have hoffered : AreOffered oddSteps oddFindings bareLine := by
    unfold AreOffered
    decide +kernel
  obtain ⟨hfault, hfront, -⟩ := run_offered hoffered
  exact ⟨hoffered, hfault, by decide +kernel, (hfront (oddSteps.take 2) _ rfl).2.1⟩

end Fix

end LintMend

import LintMend.Mend.GuardName
import LintMend.Proofs.Mend.Directive

/-! # Guard names that are words

The names that guards are given without anybody spelling them out.
* `GuardName.isWord_of_suggested?`: a suggested name is a word.
* `GuardName.isWord_ofPath`, `GuardName.ofPath_ne`: the name that a path gives is one too, and no
  keyword of a guard. -/

namespace LintMend

open Text

/-! ## Suggested names -/

namespace GuardName

variable {message name : Text}

/-- A word after blanks is one. -/
theorem isWord_of_spacedWord? {t : Text} (h : spacedWord? t = some name) : IsWord name := by
  obtain ⟨space, rest, -, -, hword, -⟩ := spacedWord?_eq_some_iff.1 h
  exact hword

/-- A suggested name is a word. -/
theorem isWord_of_suggested? (h : suggested? message = some name) : IsWord name := by
  induction message with
  | nil => cases h
  | cons c rest ih =>
      rw [suggested?] at h
      split at h
      · next hspaced =>
          obtain ⟨after, -, hword⟩ := Option.bind_eq_some_iff.1 hspaced
          obtain rfl := Option.some.inj h
          exact isWord_of_spacedWord? hword
      · exact ih h

/-! ## Names from paths -/

/-- A character of a guard name is one of a word. -/
theorem isWord_sanitizeChar (c : Char) : isWord (sanitizeChar c) = true := by
  rw [sanitizeChar]
  split
  · next h => exact of_isAlphanum (P := fun c => isWord c.toUpper = true) (by decide) h
  · decide

/-- A text made fit for a guard name is a word that ends with a low line. -/
theorem isWord_ofText (t : Text) : IsWord (ofText t) ∧ (ofText t).getLast? = some '_' := by
  refine ⟨⟨by simp [ofText], fun c hc => ?_⟩, by simp [ofText]⟩
  rw [ofText, List.mem_append, List.mem_singleton, List.mem_map] at hc
  rcases hc with ⟨d, -, rfl⟩ | rfl
  · exact isWord_sanitizeChar d
  · decide

/-- The name that a path gives is a word that ends with a low line. -/
theorem isWord_and_getLast?_ofPath (base : Place) (path root : Option Path) :
    IsWord (ofPath base path root) ∧ (ofPath base path root).getLast? = some '_' := by
  unfold ofPath
  split
  · decide
  · split
    · exact isWord_ofText _
    · exact isWord_ofText _

/-- The name that a path gives is a word. -/
theorem isWord_ofPath (base : Place) (path root : Option Path) : IsWord (ofPath base path root) :=
  (isWord_and_getLast?_ofPath base path root).1

/-- The name that a path gives is no text without a low line at its end. -/
theorem ofPath_ne {t : Text} (h : t.getLast? ≠ some '_') (base : Place) (path root : Option Path) :
    ofPath base path root ≠ t := by
  intro heq
  exact h (heq ▸ (isWord_and_getLast?_ofPath base path root).2)

end GuardName

end LintMend

import LintMend.Proofs.Mend.Offered
import LintMend.Proofs.Mend.Wrapping

/-! # The lines that fixes leave alone

Every fix edits a few lines of a text and leaves all others as they were, with what ends them. A
guard that is put around the text moves them three lines down.
* `Fix.Edits`: the lines that a fix edits; `Fix.shift` is how far it moves the others.
* `Fix.getElem?_rows_apply`: what a single fix leaves alone.
* `Fix.Leaves`, `Fix.shiftBy`: the lines that no step of a run edits, and how far it moves them.
* `Fix.getElem?_rows_run`: what a run leaves alone, by induction on its steps. -/

namespace LintMend

open Text

namespace Guard

variable {name t : Text} {g : Guard} {n : Nat}

/-- The lines that renaming a guard edits: its two lines, and the last one that closes if that comes
after them. -/
def Edits (g : Guard) (t : Text) (n : Nat) : Prop :=
  n = g.ifndefLine ∨ n = g.defineLine ∨ lastEndif? (lineTexts t) = some n ∧ g.defineLine < n

instance (g : Guard) (t : Text) (n : Nat) : Decidable (g.Edits t n) := instDecidableOr

/-- Renaming a guard leaves all other lines alone. -/
theorem getElem?_rows_rename (hfind : find? (lineTexts t) = some g) (hword : IsWord name)
    (hn : ¬g.Edits t n) : (rows (g.rename name t).1)[n]? = (rows t)[n]? := by
  obtain ⟨-, htexts, hends⟩ := lineTexts_rename hfind hword
  rw [Edits, not_or, not_or] at hn
  obtain ⟨hifndef, hdefine, hclosing⟩ := hn
  have hline : (g.renamedLines name (lineTexts t))[n]? = (lineTexts t)[n]? := by
    rw [getElem?_renamedLines_of_ne hifndef hdefine, getElem?_closedLines_of_ne]
    rintro last hlast hlt rfl
    exact hclosing ⟨hlast, hlt⟩
  have ht : t ≠ [] := List.ne_nil_of_mem (feed_mem_of_find? hfind)
  rw [rows_eq_zipWith ht, rows_eq_zipWith (rename_ne_nil hfind name), htexts, hends,
    List.getElem?_zipWith, List.getElem?_zipWith, hline]

/-- Putting a guard around a text moves all its lines but the last three lines down. -/
theorem getElem?_rows_wrap (hword : IsWord name) (hn : n + 1 < lineCount t) :
    (rows (wrap name t))[n + 3]? = (rows t)[n]? := by
  have ht := (ne_nil_and_lt_length_rows hn).1
  rw [lineCount_eq ht] at hn
  -- what is put behind the text to end its last line touches that line alone
  have hfilled : (rows (filled t))[n]? = (rows t)[n]? ∧ n + 1 < (rows (filled t)).length := by
    rw [filled]
    split
    · rw [List.append_nil]
      exact ⟨rfl, hn⟩
    · rw [rows_append_feed, List.length_append, length_endRows,
        List.getElem?_append_left (by rw [length_endRows]; omega), getElem?_endRows hn]
      exact ⟨rfl, by omega⟩
  rw [rows_wrap hword, List.getElem?_cons_succ, List.getElem?_cons_succ, List.getElem?_cons_succ,
    List.getElem?_append_left (by rw [length_endRows]; omega), getElem?_endRows hfilled.2]
  exact hfilled.1

/-- A line feed at the end of a text leaves all its lines but the last alone. -/
theorem getElem?_rows_endFeed (hn : t.getLast? = some '\n' ∨ n + 1 < lineCount t) :
    (rows (endFeed t))[n]? = (rows t)[n]? := by
  rw [endFeed]
  split
  · rfl
  · next hfeed =>
      have hlt := hn.resolve_left hfeed
      rw [lineCount_eq (ne_nil_and_lt_length_rows hlt).1] at hlt
      rw [rows_append_feed, List.getElem?_append_left (by rw [length_endRows]; omega),
        getElem?_endRows hlt]

end Guard

namespace Fix

variable {fix : Fix} {d : Document} {line : Int} {n : Nat}

/-! ## Single fixes -/

/-- Whether what a fix puts into a line does not break it: a category on one line, a name that is a
word. -/
def IsTame : Fix → Prop
  | suppression category => '\n' ∉ category
  | headerGuard asked => ∀ word ∈ asked, IsWord word
  | trailingNewline => True

/-- The specific fix of a finding is. -/
theorem isTame_of_specific? {category message : Text} (h : specific? category message = some fix) :
    fix.IsTame := by
  rcases eq_of_specific? h with ⟨-, rfl⟩ | rfl
  · exact fun word hword => GuardName.isWord_of_suggested? hword
  · trivial

/-- Whether a fix for a finding on line `line` of a text edits line `n`. Where something is put
behind the last line, that line is edited. -/
def Edits (fix : Fix) (t : Text) (line : Int) (n : Nat) : Prop :=
  match fix with
  | suppression _ => line = n
  | headerGuard _ =>
      match Guard.find? (lineTexts t) with
      | none => lineCount t ≤ n + 1
      | some g => g.Edits t n
  | trailingNewline => t.getLast? ≠ some '\n' ∧ lineCount t ≤ n + 1

instance (fix : Fix) (t : Text) (line : Int) (n : Nat) : Decidable (fix.Edits t line n) :=
  match fix with
  | suppression _ => inferInstanceAs (Decidable (line = n))
  | headerGuard _ =>
      match h : Guard.find? (lineTexts t) with
      | none => decidable_of_iff (lineCount t ≤ n + 1) (by simp only [Edits, h])
      | some g => decidable_of_iff (g.Edits t n) (by simp only [Edits, h])
  | trailingNewline => inferInstanceAs (Decidable (_ ∧ _))

/-- How many lines a fix moves the lines of a text down: three if a guard is put before them. -/
def shift (fix : Fix) (t : Text) : Nat :=
  match fix with
  | headerGuard _ => if Guard.find? (lineTexts t) = none then 3 else 0
  | _ => 0

/-- A line that a fix does not edit is only moved, and so is what ends it. -/
theorem getElem?_rows_apply (htame : fix.IsTame) (hn : ¬fix.Edits d.text line n) :
    (rows (fix.apply d line).document.text)[n + fix.shift d.text]? = (rows d.text)[n]? := by
  cases fix with
  | suppression category =>
      rw [apply, applySuppression]
      split
      · rfl
      · split
        · rfl
        · next found hfound =>
            obtain ⟨rfl, hlt⟩ := Document.checkLine_eq_ok_iff.1 hfound
            have hrow := (ne_nil_and_lt_length_rows (d.lineCount_eq ▸ hlt)).2
            have hfit := fitsFor_suppress htame (not_mem_text hrow)
            have hother : found ≠ n := fun hsame => hn (congrArg Nat.cast hsame)
            rw [Document.text_withText, lineText_eq hrow, rows_replaceLine hrow hfit]
            exact List.getElem?_modify_ne _ _ hother
  | headerGuard asked =>
      have hword := isWord_guardName htame d
      rw [apply, applyHeaderGuard, shift]
      rw [Edits] at hn
      cases hfind : Guard.find? (lineTexts d.text) with
      | none =>
          rw [hfind] at hn
          rw [if_pos rfl]
          exact Guard.getElem?_rows_wrap hword (Nat.lt_of_not_le hn)
      | some g =>
          rw [hfind] at hn
          rw [if_neg (Option.some_ne_none g)]
          exact Guard.getElem?_rows_rename hfind hword hn
  | trailingNewline =>
      rw [apply_trailingNewline]
      refine Guard.getElem?_rows_endFeed (or_iff_not_imp_left.2 fun hlast => ?_)
      exact Nat.lt_of_not_le fun hle => hn ⟨hlast, hle⟩

/-! ## Runs -/

/-- Whether no step of a run edits line `n` of a document, which the steps before it may have
moved. -/
def Leaves (d : Document) : List (Fix × Int) → Nat → Prop
  | [], _ => True
  | (fix, line) :: others, n =>
      ¬fix.Edits d.text line n ∧ Leaves (fix.apply d line).document others (n + fix.shift d.text)

instance decidableLeaves (d : Document) :
    ∀ steps n, Decidable (Leaves d steps n)
  | [], _ => inferInstanceAs (Decidable True)
  | (fix, line) :: others, n =>
      have := decidableLeaves (fix.apply d line).document others (n + fix.shift d.text)
      inferInstanceAs (Decidable (_ ∧ _))

/-- How many lines a run of fixes moves the lines of a document down. -/
def shiftBy (d : Document) : List (Fix × Int) → Nat
  | [] => 0
  | (fix, line) :: others => fix.shift d.text + shiftBy (fix.apply d line).document others

/-- A line that no step of a run edits is only moved, and so is what ends it. -/
theorem getElem?_rows_run {steps : List (Fix × Int)} (htame : ∀ step ∈ steps, step.1.IsTame)
    (hrun : (run d steps).fault = none) (hn : Leaves d steps n) :
    (rows (run d steps).document.text)[n + shiftBy d steps]? = (rows d.text)[n]? := by
  induction steps generalizing d n with
  | nil => rfl
  | cons step steps ih =>
      obtain ⟨fix, line⟩ := step
      rw [List.forall_mem_cons] at htame
      rw [Leaves] at hn
      have hstep := getElem?_rows_apply htame.1 hn.1
      -- the other steps find the line where the first one has moved it
      rw [shiftBy, ← Nat.add_assoc]
      rw [run] at hrun ⊢
      cases happly : fix.apply d line with
      | mk mended fault =>
          rw [happly] at hrun hn hstep
          cases fault with
          | none => exact (ih htame.2 hrun hn.2).trans hstep
          | some fault => cases hrun

end Fix

end LintMend

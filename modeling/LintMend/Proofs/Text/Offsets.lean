import LintMend.Proofs.Text.Tiling
import Mathlib.Data.List.GetD

/-! # Offsets and lines

The line that an offset lies on is found by halving the table of line starts. It can be told without
a table, too: there are as many lines before it as line feeds before the offset.
* `lt_placeBetween_iff`: what halving finds in ascending numbers.
* `lineStart_le_iff`: which lines start at or before an offset, in terms of the line feeds before
  it.
* `lineAt_eq_count`, `lineAt_of_neg`: the line that an offset lies on.
* `lineAt_mono`: a later offset lies on no earlier line.
* `lineAt_eq_of_mem`: the offsets from the start of a line to its end lie on that line. -/

namespace LintMend.Text

variable {t : Text} {n o : Nat} {ns : List Nat} {x : Int} {low high : Nat}

/-! ## Halving -/

/-- The place that is found is not behind the end of the search. -/
theorem placeBetween_le (h : low ≤ high) : placeBetween ns x low high ≤ high := by
  fun_induction placeBetween ns x low high with
  | case1 low high hlt middle hx ih =>
      have hplace := ih (by omega)
      omega
  | case2 low high hlt middle hx ih => exact ih (by omega)
  | case3 low high hlt => exact h

/-- Before the place that is found in ascending numbers are just those that are not greater. -/
theorem lt_placeBetween_iff (hsorted : ∀ i j (_ : i < ns.length) (_ : j < ns.length), i ≤ j →
      ns[i] ≤ ns[j])
    (hhigh : high ≤ ns.length) (hends : low ≤ high)
    (hbefore : ∀ i (_ : i < ns.length), i < low → (ns[i] : Int) ≤ x)
    (hbehind : ∀ i (_ : i < ns.length), high ≤ i → x < ns[i]) (hn : n < ns.length) :
    n < placeBetween ns x low high ↔ (ns[n] : Int) ≤ x := by
  fun_induction placeBetween ns x low high with
  | case1 low high hlt middle hx ih =>
      -- the middle number is greater, and so are all behind it
      have hmiddle : middle < ns.length := by omega
      rw [List.getD_eq_getElem _ _ hmiddle] at hx
      refine ih (by omega) (by omega) hbefore fun i hi hle => ?_
      have hgreater := hsorted middle i hmiddle hi hle
      omega
  | case2 low high hlt middle hx ih =>
      -- the middle number is not greater, and neither is one before it
      have hmiddle : middle < ns.length := by omega
      rw [List.getD_eq_getElem _ _ hmiddle] at hx
      refine ih hhigh (by omega) (fun i hi hle => ?_) hbehind
      have hsmaller := hsorted i middle hi hmiddle (by omega)
      omega
  | case3 low high hlt =>
      refine ⟨hbefore n hn, fun hle => ?_⟩
      by_contra hnot
      have hgreater := hbehind n hn (by omega)
      omega

/-! ## Line starts and line feeds -/

/-- The starts of the lines, by their numbers. -/
theorem getElem_lineStarts (h : n < (lineStarts t).length) : (lineStarts t)[n] = lineStart t n := by
  rw [lineStart, List.getD_eq_getElem _ _ h]

/-- A line starts at or before an offset exactly if there are no fewer line feeds before the offset
than lines before the line. -/
theorem lineStart_le_iff (hn : n < lineCount t) :
    lineStart t n ≤ o ↔ n ≤ (t.take o).count '\n' := by
  cases n with
  | zero =>
      rw [(tiles t).first]
      exact iff_of_true (Nat.zero_le _) (Nat.zero_le _)
  | succ n =>
      obtain ⟨before, after, rfl, rfl, hstart⟩ := exists_feed_before_lineStart hn
      rw [hstart]
      constructor
      · -- the line feed before the line is one of those before the offset
        intro ho
        have hprefix : before ++ ['\n'] <+: (before ++ '\n' :: after).take o := by
          refine List.prefix_take_iff.2 ⟨⟨after, by simp⟩, ?_⟩
          rw [List.length_append]
          exact ho
        have hcount := hprefix.sublist.count_le '\n'
        rw [List.count_append, List.count_singleton_self] at hcount
        exact hcount
      · -- otherwise the offset lies in the text before that line feed
        intro hcount
        by_contra ho
        rw [List.take_append_of_le_length (by omega)] at hcount
        have hfew := (List.take_sublist o before).count_le '\n'
        omega

/-- Before an offset there are fewer line feeds than lines. -/
theorem count_take_lt_lineCount (ht : t ≠ []) (o : Nat) :
    (t.take o).count '\n' < lineCount t := by
  rw [lineCount_of_ne_nil ht]
  exact Nat.lt_succ_of_le ((List.take_sublist o t).count_le '\n')

/-! ## The line of an offset -/

/-- The place that is looked for among the line starts is behind those at or before the offset. -/
theorem lt_placeBetween_lineStarts_iff (hn : n < lineCount t) (x : Int) :
    n < placeBetween (lineStarts t) x 0 (lineCount t) ↔ (lineStart t n : Int) ≤ x := by
  have hsorted : ∀ i j (hi : i < (lineStarts t).length) (hj : j < (lineStarts t).length), i ≤ j →
      (lineStarts t)[i] ≤ (lineStarts t)[j] := by
    intro i j hi hj hij
    rw [getElem_lineStarts hi, getElem_lineStarts hj]
    exact lineStart_le_lineStart hij
  have hplace := lt_placeBetween_iff (x := x) hsorted (Nat.le_refl (lineCount t)) (Nat.zero_le _)
    (fun i _ hi => absurd hi (Nat.not_lt_zero i)) (fun i hi hle => absurd hi (Nat.not_lt.2 hle)) hn
  rwa [getElem_lineStarts hn] at hplace

/-- There are as many lines before the one that an offset lies on as line feeds before the offset.
An offset behind the text lies on the last line. -/
theorem lineAt_eq_count (ht : t ≠ []) (o : Nat) : lineAt t o = (t.take o).count '\n' := by
  have hcount := count_take_lt_lineCount ht o
  have hplace : ∀ n, n < lineCount t →
      (n < placeBetween (lineStarts t) o 0 (lineCount t) ↔ n ≤ (t.take o).count '\n') := by
    intro n hn
    rw [lt_placeBetween_lineStarts_iff hn, Int.ofNat_le, lineStart_le_iff hn]
  have hfirst := (hplace _ hcount).2 (Nat.le_refl _)
  have hend : placeBetween (lineStarts t) o 0 (lineCount t) ≤ lineCount t :=
    placeBetween_le (Nat.zero_le _)
  rw [lineAt]
  by_contra hne
  have hnext := (hplace ((t.take o).count '\n' + 1) (by omega)).1 (by omega)
  omega

/-- An offset before the text lies on the first line. -/
theorem lineAt_of_neg (h : x < 0) : lineAt t x = 0 := by
  have hend : placeBetween (lineStarts t) x 0 (lineCount t) ≤ lineCount t :=
    placeBetween_le (Nat.zero_le _)
  rw [lineAt]
  by_contra hne
  have hstart := (lt_placeBetween_lineStarts_iff (t := t) (n := 0) (by omega) x).1 (by omega)
  omega

/-- A later offset lies on no earlier line. -/
theorem lineAt_mono (ht : t ≠ []) {y : Int} (h : x ≤ y) : lineAt t x ≤ lineAt t y := by
  by_cases hx : x < 0
  · rw [lineAt_of_neg hx]
    exact Nat.zero_le _
  · obtain ⟨o, rfl⟩ := Int.eq_ofNat_of_zero_le (Int.not_lt.1 hx)
    obtain ⟨p, rfl⟩ := Int.eq_ofNat_of_zero_le (Int.le_trans (Int.natCast_nonneg o) h)
    rw [lineAt_eq_count ht, lineAt_eq_count ht]
    exact (List.take_prefix_take_left (Int.ofNat_le.1 h)).sublist.count_le '\n'

/-- The offsets from the start of a line to its end lie on that line. -/
theorem lineAt_eq_of_mem (hn : n < lineCount t) (hstart : lineStart t n ≤ o)
    (hstop : o ≤ lineEnd t n) : lineAt t o = n := by
  obtain ⟨ht, -⟩ := ne_nil_and_lt_length_rows hn
  rw [lineAt_eq_count ht]
  refine Nat.le_antisymm ?_ ((lineStart_le_iff hn).1 hstart)
  -- the next line, if there is one, starts behind the offset
  by_contra hlater
  have hnext : n + 1 < lineCount t := by
    have hcount := count_take_lt_lineCount ht o
    omega
  have hbehind := (lineStart_le_iff hnext).2 (Nat.lt_of_not_le hlater)
  have hend := lineEnd_lt_lineStart hnext
  omega

end LintMend.Text

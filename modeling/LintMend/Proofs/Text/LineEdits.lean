import LintMend.Proofs.Text.Rows
import Mathlib.Data.List.Basic

/-! # Lines and their ends

A text as two lists: the texts of its lines, and the characters that end them. An edit of one line
sets one member of the first list and leaves the second one alone; a text put behind another one
lengthens both.
* `lineEndings`: what ends the lines; `eq_of_lineTexts_eq` says that the two lists determine a text.
* `lineTexts_replaceLine`, `lineEndings_replaceLine`: an edit of a line.
* `rows_append_feed`: the rows of two texts with a line feed between them. -/

namespace LintMend.Text

variable {t u new : Text} {n : Nat}

/-! ## The two lists -/

/-- A text has as many lines as the line table says. -/
@[simp] theorem length_lineTexts (t : Text) : (lineTexts t).length = lineCount t := by
  by_cases ht : t = []
  · simp [ht]
  · rw [lineTexts_eq ht, lineCount_eq ht, List.length_map]

/-- A text with a line is not empty, and the line is a row of it. -/
theorem ne_nil_and_lt_length_rows (h : n < lineCount t) : t ≠ [] ∧ n < (rows t).length := by
  have ht : t ≠ [] := by
    rintro rfl
    exact absurd h (Nat.not_lt_zero n)
  exact ⟨ht, lineCount_eq ht ▸ h⟩

/-- There is a row. -/
theorem rows_ne_nil (t : Text) : rows t ≠ [] := by
  intro hnil
  have htable := isTable_rows t
  rw [hnil] at htable
  exact htable

/-- The text of a line is the member of the list with its number. -/
theorem getElem?_lineTexts (h : n < lineCount t) : (lineTexts t)[n]? = some (lineText t n) := by
  obtain ⟨ht, hrow⟩ := ne_nil_and_lt_length_rows h
  rw [lineTexts_eq ht, List.getElem?_map, List.getElem?_eq_getElem hrow, lineText_eq hrow]
  rfl

/-- The text of a line by its number. It is empty if there is no such line. -/
theorem lineText_eq_getD (t : Text) (n : Nat) : lineText t n = ((lineTexts t)[n]?).getD [] := by
  by_cases h : n < lineCount t
  · rw [getElem?_lineTexts h]
    rfl
  · have hle := Nat.le_of_not_lt h
    rw [List.getElem?_eq_none (by rwa [length_lineTexts])]
    by_cases ht : t = []
    · simp [ht, lineText, slice]
    · rw [lineCount_eq ht] at hle
      obtain ⟨hstart, hend⟩ := lineStart_and_lineEnd_of_le hle
      simp [lineText, slice, hstart, hend]

/-- The characters that end the lines of a text. -/
def lineEndings (t : Text) : List Text := (rows t).map Row.ending

/-- What ends a line; nothing does if there is no such line. -/
theorem lineEnding_eq_getD (t : Text) (n : Nat) :
    lineEnding t n = ((lineEndings t)[n]?).getD [] := by
  rw [lineEndings, List.getElem?_map]
  by_cases h : n < (rows t).length
  · rw [lineEnding_eq h, List.getElem?_eq_getElem h]
    rfl
  · have hle := Nat.le_of_not_lt h
    have hend := (lineStart_and_lineEnd_of_le hle).2
    have hstart := (lineStart_and_lineEnd_of_le (Nat.le_succ_of_le hle)).1
    rw [lineEnding, hend, hstart, List.getElem?_eq_none hle]
    simp [slice]

/-- The rows of a text that is not empty are its lines with what ends them. -/
theorem rows_eq_zipWith (ht : t ≠ []) :
    rows t = List.zipWith Row.mk (lineTexts t) (lineEndings t) := by
  rw [lineTexts_eq ht, lineEndings, List.zipWith_map, List.zipWith_self, List.map_id']

/-- A text is known by its lines and by what ends them. -/
theorem eq_of_lineTexts_eq (htexts : lineTexts t = lineTexts u)
    (hendings : lineEndings t = lineEndings u) : t = u := by
  have hcount : lineCount t = lineCount u := by
    rw [← length_lineTexts, htexts, length_lineTexts]
  by_cases ht : t = []
  · have hu : lineCount u = 0 := by rw [← hcount, ht, lineCount_nil]
    rw [ht, lineCount_eq_zero_iff.1 hu]
  · have hu : u ≠ [] := by
      rintro rfl
      exact ht (lineCount_eq_zero_iff.1 hcount)
    refine eq_of_rows_eq ?_
    rw [rows_eq_zipWith ht, rows_eq_zipWith hu, htexts, hendings]

/-! ## Edits of one line -/

/-- An edit of a line sets it in the list of lines. -/
theorem lineTexts_replaceLine (h : n < lineCount t) (hfit : FitsFor new (lineText t n))
    (hne : new ≠ []) : lineTexts (replaceLine t n new) = (lineTexts t).set n new := by
  obtain ⟨ht, hrow⟩ := ne_nil_and_lt_length_rows h
  rw [lineText_eq hrow] at hfit
  rw [lineTexts_eq (replaceLine_ne_nil hne t n), rows_replaceLine hrow hfit, lineTexts_eq ht]
  refine List.ext_getElem? fun m => ?_
  rw [List.getElem?_map, List.getElem?_modify, List.getElem?_set, List.getElem?_map,
    List.length_map]
  by_cases hm : n = m
  · subst hm
    simp [hrow]
  · simp [hm]

/-- It leaves what ends the lines alone. -/
theorem lineEndings_replaceLine (h : n < lineCount t) (hfit : FitsFor new (lineText t n)) :
    lineEndings (replaceLine t n new) = lineEndings t := by
  obtain ⟨ht, hrow⟩ := ne_nil_and_lt_length_rows h
  rw [lineText_eq hrow] at hfit
  rw [lineEndings, lineEndings, rows_replaceLine hrow hfit]
  refine List.ext_getElem? fun m => ?_
  rw [List.getElem?_map, List.getElem?_modify, List.getElem?_map]
  cases (rows t)[m]? with
  | none => rfl
  | some r => by_cases hm : n = m <;> simp [hm]

/-! ## Texts behind others -/

/-- Rows of which the last one is ended by a line feed. -/
def endRows (rs : List Row) : List Row :=
  match rs with
  | [] => []
  | [last] => [.ofPiece last.text]
  | r :: next :: others => r :: endRows (next :: others)

/-- Only the last row changes. -/
theorem endRows_concat (front : List Row) (last : Row) :
    endRows (front ++ [last]) = front ++ [.ofPiece last.text] := by
  induction front with
  | nil => rfl
  | cons r front ih =>
      obtain ⟨next, others, hrest⟩ : ∃ next others, front ++ [last] = next :: others :=
        List.exists_cons_of_ne_nil (by simp)
      rw [List.cons_append, hrest, endRows, ← hrest, ih, List.cons_append]

/-- None is added. -/
@[simp] theorem length_endRows (rs : List Row) : (endRows rs).length = rs.length := by
  rcases List.eq_nil_or_concat rs with rfl | ⟨front, last, rfl⟩
  · rfl
  · rw [List.concat_eq_append, endRows_concat, List.length_append, List.length_append,
      List.length_singleton, List.length_singleton]

/-- The rows before it stay. -/
theorem getElem?_endRows {rs : List Row} (h : n + 1 < rs.length) : (endRows rs)[n]? = rs[n]? := by
  have hne : rs ≠ [] := by
    rintro rfl
    exact absurd h (Nat.not_lt_zero _)
  rw [← List.dropLast_concat_getLast hne, List.length_append, List.length_singleton] at h
  rw [← List.dropLast_concat_getLast hne, endRows_concat,
    List.getElem?_append_left (by omega), List.getElem?_append_left (by omega)]

/-- A line feed ends the last row of the text before it. -/
theorem rows_append_feed (t u : Text) : rows (t ++ '\n' :: u) = endRows (rows t) ++ rows u := by
  induction t using feed_induction with
  | last t h =>
      rw [rows_append_cons h, rows_of_not_mem h]
      rfl
  | step piece rest h ih =>
      obtain ⟨next, others, hrest⟩ := List.exists_cons_of_ne_nil (rows_ne_nil rest)
      rw [List.append_assoc, List.cons_append, rows_append_cons h, ih, rows_append_cons h, hrest]
      rfl

/-- The last row of a text that is empty, or that a line feed ends, is empty; all other texts end as
their last row does. -/
theorem exists_rows_concat (t : Text) :
    ∃ front last, rows t = front ++ [last] ∧
      if t = [] ∨ t.getLast? = some '\n' then last.text = []
      else t.getLast? = last.text.getLast? := by
  induction t using feed_induction with
  | last t h =>
      refine ⟨[], ⟨t, []⟩, rows_of_not_mem h, ?_⟩
      split
      · next hcases => exact hcases.resolve_right fun hlast => h (List.mem_of_getLast? hlast)
      · rfl
  | step piece rest h ih =>
      obtain ⟨front, last, hrows, hlast⟩ := ih
      refine ⟨.ofPiece piece :: front, last, by rw [rows_append_cons h, hrows]; rfl, ?_⟩
      by_cases hrest : rest = []
      · rw [if_pos (.inl hrest)] at hlast
        rw [if_pos (.inr (by rw [hrest, List.getLast?_concat])), hlast]
      · have hend : (piece ++ '\n' :: rest).getLast? = rest.getLast? := by
          rw [List.getLast?_append_of_ne_nil _ (List.cons_ne_nil _ _),
            List.getLast?_cons_of_ne_nil hrest]
        rw [hend]
        simpa [hrest] using hlast

end LintMend.Text

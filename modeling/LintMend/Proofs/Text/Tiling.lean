import LintMend.Proofs.Text.LineEdits

/-! # How lines tile a text

The line table of a text accounts for every character of it once: the lines and what ends them, in
order, are the text.
* `count_flatten_of_closed`: the line feeds of rows that line feeds end.
* `Tiles`: what a line table has to say of its text, in terms of the line feeds in it.
* `tiles`: the line table says it of every text. -/

namespace LintMend.Text

variable {t : Text} {n : Nat} {rs : List Row}

/-! ## Rows that line feeds end -/

/-- The rows before a line are closed. -/
theorem closed_of_mem_take {r : Row} (hn : n < (rows t).length) (hr : r ∈ (rows t).take n) :
    r.Closed := by
  obtain ⟨m, hm, rfl⟩ := List.mem_take_iff_getElem.1 hr
  exact (isTable_rows t).closed (by omega)

/-- Each closed row has one line feed. -/
theorem count_flatten_of_closed (h : ∀ r ∈ rs, r.Closed) : (flatten rs).count '\n' = rs.length := by
  induction rs with
  | nil => rfl
  | cons r rs ih =>
      rw [List.forall_mem_cons] at h
      obtain ⟨piece, hpiece, rfl⟩ := h.1.exists_piece
      rw [flatten_cons, List.count_append, ih h.2, Row.whole_ofPiece, List.count_append,
        List.count_eq_zero_of_not_mem hpiece, List.length_cons]
      exact Nat.add_comm _ _

/-- The rows of a text up to a line, and the text from that line on. -/
theorem eq_flatten_take_append (t : Text) (n : Nat) :
    t = flatten ((rows t).take n) ++ flatten ((rows t).drop n) := by
  rw [← flatten_append, List.take_append_drop, flatten_rows]

/-- Lines start in order. -/
theorem lineStart_le_lineStart {m : Nat} (h : m ≤ n) : lineStart t m ≤ lineStart t n := by
  obtain ⟨k, rfl⟩ := Nat.exists_eq_add_of_le h
  rw [lineStart_eq, lineStart_eq, List.take_add, flatten_append, List.length_append]
  exact Nat.le_add_right _ _

/-! ## Tilings -/

/-- Whether the line table of a text accounts for its characters. -/
structure Tiles (t : Text) : Prop where
  /-- The empty text has no lines, and any other has one more than line feeds. -/
  lineCount : lineCount t = if t = [] then 0 else t.count '\n' + 1
  /-- The first line starts where the text does. -/
  first : lineStart t 0 = 0
  /-- Every other line starts right after a line feed, which has as many others before it as there
  are lines between that line and the first. -/
  start : ∀ n, n + 1 < Text.lineCount t → ∃ before after, t = before ++ '\n' :: after
    ∧ before.count '\n' = n ∧ lineStart t (n + 1) = before.length + 1
  /-- No line ends before it starts. -/
  start_le_end : ∀ n, lineStart t n ≤ lineEnd t n
  /-- Between two lines there is a line feed and, if there is one before it that is not part of an
  earlier line end, a carriage return. -/
  between : ∀ n, n + 1 < Text.lineCount t →
    slice t (lineEnd t n) (lineStart t (n + 1)) = ['\r', '\n']
      ∨ slice t (lineEnd t n) (lineStart t (n + 1)) = ['\n']
        ∧ (lineText t n).getLast? ≠ some '\r'
  /-- The last line ends where the text does. -/
  last : ∀ n, n + 1 = Text.lineCount t → lineEnd t n = t.length
  /-- The lines are the pieces between line feeds, each but the last without the carriage return at
  its end. -/
  texts : (List.range (Text.lineCount t)).map (lineText t)
    = if t = [] then [] else dropReturns (t.splitOn '\n')
  /-- The lines and what is between them are the text. -/
  whole : (List.range (Text.lineCount t)).flatMap (fun n => lineText t n ++ lineEnding t n) = t
  /-- The table has one entry for each line, with its start, its end and its text. -/
  table : lineTable t
    = (List.range (Text.lineCount t)).map fun n => (lineStart t n, lineEnd t n, lineText t n)

/-- Lines are listed by their numbers. -/
theorem map_range_lineCount {α : Type} {f : Nat → α} {l : List α} (hlength : l.length = lineCount t)
    (h : ∀ n, n < lineCount t → l[n]? = some (f n)) : (List.range (lineCount t)).map f = l := by
  refine List.ext_getElem? fun n => ?_
  rw [List.getElem?_map]
  by_cases hn : n < lineCount t
  · rw [List.getElem?_range hn, h n hn]
    rfl
  · rw [List.getElem?_eq_none (by simpa using hn), List.getElem?_eq_none (by omega)]
    rfl

/-- Every other line but the first starts right after a line feed. -/
theorem exists_feed_before_lineStart (hn : n + 1 < lineCount t) :
    ∃ before after, t = before ++ '\n' :: after ∧ before.count '\n' = n
      ∧ lineStart t (n + 1) = before.length + 1 := by
  obtain ⟨-, hrow⟩ := ne_nil_and_lt_length_rows hn
  obtain ⟨piece, hpiece, hofPiece⟩ := ((isTable_rows t).closed hrow).exists_piece
  -- the rows before the line, the last of which ends with the line feed
  have htake : flatten ((rows t).take (n + 1))
      = flatten ((rows t).take n) ++ (piece ++ ['\n']) := by
    rw [List.take_succ_eq_append_getElem (Nat.lt_of_succ_lt hrow), flatten_append, ← hofPiece,
      flatten_cons, flatten_nil, List.append_nil, Row.whole_ofPiece]
  refine ⟨flatten ((rows t).take n) ++ piece, flatten ((rows t).drop (n + 1)), ?_, ?_, ?_⟩
  · have hsplit := eq_flatten_take_append t (n + 1)
    rw [htake] at hsplit
    simpa using hsplit
  · have hclosed : ∀ r ∈ (rows t).take n, r.Closed := fun r =>
      closed_of_mem_take (Nat.lt_of_succ_lt hrow)
    rw [List.count_append, count_flatten_of_closed hclosed, List.count_eq_zero_of_not_mem hpiece,
      List.length_take]
    omega
  · rw [lineStart_eq, htake]
    simp
    omega

/-- A line feed, and the carriage return before it, is what ends a line that is not the last. -/
theorem lineEnding_of_lt (hn : n + 1 < lineCount t) :
    lineEnding t n = ['\r', '\n']
      ∨ lineEnding t n = ['\n'] ∧ (lineText t n).getLast? ≠ some '\r' := by
  obtain ⟨-, hrow⟩ := ne_nil_and_lt_length_rows hn
  have hlt := Nat.lt_of_succ_lt hrow
  rw [lineEnding_eq hlt, lineText_eq hlt]
  exact ((isTable_rows t).closed hrow).2

/-- So a line that is not the last ends before the next one starts. -/
theorem lineEnd_lt_lineStart (hn : n + 1 < lineCount t) : lineEnd t n < lineStart t (n + 1) := by
  obtain ⟨-, hrow⟩ := ne_nil_and_lt_length_rows hn
  have hlt := Nat.lt_of_succ_lt hrow
  have hending : lineEnding t n ≠ [] := by
    rcases lineEnding_of_lt hn with h | ⟨h, -⟩ <;> rw [h] <;> exact List.cons_ne_nil _ _
  rw [lineEnding_eq hlt] at hending
  rw [lineEnd_eq hlt, lineStart_succ hlt]
  exact Nat.lt_add_of_pos_right (List.length_pos_of_ne_nil hending)

/-- The lines with what ends them are the text. -/
theorem flatMap_lines (t : Text) :
    (List.range (lineCount t)).flatMap (fun n => lineText t n ++ lineEnding t n) = t := by
  by_cases ht : t = []
  · simp [ht]
  · have hrows : (List.range (lineCount t)).map (fun n => Row.mk (lineText t n) (lineEnding t n))
        = rows t := by
      refine map_range_lineCount (lineCount_eq ht).symm fun n hn => ?_
      rw [lineCount_eq ht] at hn
      rw [List.getElem?_eq_getElem hn, lineText_eq hn, lineEnding_eq hn]
    calc (List.range (lineCount t)).flatMap (fun n => lineText t n ++ lineEnding t n)
        = flatten ((List.range (lineCount t)).map
            fun n => Row.mk (lineText t n) (lineEnding t n)) := by
          rw [flatten, List.flatMap_map]
          rfl
      _ = t := by rw [hrows, flatten_rows]

/-- The entries of the line table. -/
theorem lineTable_eq (t : Text) :
    lineTable t
      = (List.range (lineCount t)).map fun n => (lineStart t n, lineEnd t n, lineText t n) := by
  refine (map_range_lineCount ?_ fun n hn => ?_).symm
  · rw [lineTable, List.length_zipWith, length_lineTexts, lineCount, Nat.min_self]
  · obtain ⟨-, hrow⟩ := ne_nil_and_lt_length_rows hn
    have hstart : (lineStarts t)[n]? = some (lineStart t n) := by
      rw [lineStart, List.getD_eq_getElem?_getD, List.getElem?_eq_getElem hn]
      rfl
    rw [lineTable, List.getElem?_zipWith, hstart, getElem?_lineTexts hn, lineEnd_eq hrow,
      lineText_eq hrow]

/-- The line table of every text accounts for its characters. -/
theorem tiles (t : Text) : Tiles t where
  lineCount := by
    split
    · next ht => rw [ht, lineCount_nil]
    · next ht => exact lineCount_of_ne_nil ht
  first := by rw [lineStart_eq, List.take_zero, flatten_nil, List.length_nil]
  start _ := exists_feed_before_lineStart
  start_le_end := lineStart_le_lineEnd t
  between _ := lineEnding_of_lt
  last n hn := by rw [lineEnd_eq_ite, if_pos (Nat.le_of_eq hn.symm)]
  texts := by
    rw [map_range_lineCount (length_lineTexts t) fun n => getElem?_lineTexts, lineTexts]
    split
    · rfl
    · exact congrArg dropReturns (pieces_eq_splitOnP _ t)
  whole := flatMap_lines t
  table := lineTable_eq t

end LintMend.Text

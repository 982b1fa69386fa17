import LintMend.Proofs.Text.Tiling

/-! # Lines around an edit

What is left of the line table of a text when a stretch of the text is replaced. The lines that end
before the stretch stay where they are. Those that start behind it are moved: by as many lines as
the new stretch has more line feeds than the old one, and by as many characters as it is longer. A
line feed is what parts them from the stretch, so an edit never changes what ends them, even where
it begins or ends between a carriage return and a line feed.
* `line_eq_of_rows_eq_append`, `line_append_feed`: the lines before a line feed and those behind it.
* `KeepsLines`: what an edit leaves of the lines; `keepsLines_splice` says that every edit does.
* `splice_splice`: putting the old stretch back where the new one is gives the text back. -/

namespace LintMend.Text

variable {t u new before after : Text} {start stop n : Nat}

/-! ## Characters -/

/-- A text gets longer by as much as the new stretch is longer. -/
theorem length_splice_add (h : start ≤ stop) (hstop : stop ≤ t.length) (new : Text) :
    (splice t start stop new).length + (stop - start) = t.length + new.length := by
  rw [splice, List.length_append, List.length_append, List.length_take, List.length_drop]
  omega

/-- An edit of a text leaves alone what is behind that text. -/
theorem splice_append_of_le (h : start ≤ stop) (hstop : stop ≤ before.length) (after new : Text) :
    splice (before ++ after) start stop new = splice before start stop new ++ after := by
  rw [splice, splice, List.take_append_of_le_length (Nat.le_trans h hstop),
    List.drop_append_of_le_length hstop, List.append_assoc, List.append_assoc, List.append_assoc]

/-- A stretch of a text does not depend on what is behind that text. -/
theorem slice_append_of_le (h : start ≤ stop) (hstop : stop ≤ before.length) (after : Text) :
    slice (before ++ after) start stop = slice before start stop := by
  rw [slice, slice, List.drop_append_of_le_length (Nat.le_trans h hstop),
    List.take_append_of_le_length (by rw [List.length_drop]; omega)]

/-- An edit of a text leaves alone what is before that text. -/
theorem append_splice (before after : Text) (start stop : Nat) (new : Text) :
    splice (before ++ after) (before.length + start) (before.length + stop) new
      = before ++ splice after start stop new := by
  rw [splice, splice, List.take_length_add_append, List.drop_length_add_append, List.append_assoc,
    List.append_assoc, List.append_assoc]

/-- Putting the old stretch back gives the text back. -/
theorem splice_splice (h : start ≤ stop) (hstop : stop ≤ t.length) (new : Text) :
    splice (splice t start stop new) start (start + new.length) (slice t start stop) = t := by
  have hlength : (t.take start).length = start :=
    List.length_take_of_le (Nat.le_trans h hstop)
  have hsplit : ∀ inner : Text,
      splice t start stop inner = t.take start ++ (inner ++ t.drop stop) :=
    fun inner => List.append_assoc _ _ _
  have hback := splice_append (t.take start) new (t.drop stop) (slice t start stop)
  rw [hlength, ← hsplit, ← hsplit] at hback
  exact hback.trans (splice_slice h)

/-- Nothing changes only if a stretch is replaced by itself. -/
theorem splice_eq_self_iff (h : start ≤ stop) :
    splice t start stop new = t ↔ slice t start stop = new := by
  constructor
  · intro hsame
    have hself := (splice_slice h).trans hsame.symm
    exact List.append_cancel_left (List.append_cancel_right hself)
  · rintro rfl
    exact splice_slice h

/-! ## Lines -/

/-- A line among rows that two texts begin with is the same in both. -/
theorem line_eq_of_rows_eq_append {rs front back : List Row} (ht : rows t = rs ++ front)
    (hu : rows u = rs ++ back) (hn : n < rs.length) :
    lineStart u n = lineStart t n ∧ lineEnd u n = lineEnd t n ∧ lineText u n = lineText t n
      ∧ lineEnding u n = lineEnding t n := by
  have hnt : n < (rows t).length := by rw [ht, List.length_append]; omega
  have hnu : n < (rows u).length := by rw [hu, List.length_append]; omega
  have hrow : (rows u)[n] = (rows t)[n] := by simp only [ht, hu, List.getElem_append_left hn]
  have hstart : lineStart u n = lineStart t n := by
    rw [lineStart_eq, lineStart_eq, ht, hu, List.take_append_of_le_length (Nat.le_of_lt hn),
      List.take_append_of_le_length (Nat.le_of_lt hn)]
  refine ⟨hstart, ?_, ?_, ?_⟩
  · rw [lineEnd_eq hnu, lineEnd_eq hnt, hstart, hrow]
  · rw [lineText_eq hnu, lineText_eq hnt, hrow]
  · rw [lineEnding_eq hnu, lineEnding_eq hnt, hrow]

/-- Rows that are ended are their text with a line feed. -/
theorem flatten_endRows_rows (t : Text) : flatten (endRows (rows t)) = t ++ ['\n'] := by
  have hrows := congrArg flatten (rows_append_feed t [])
  rw [flatten_rows, flatten_append, flatten_rows, List.append_nil] at hrows
  exact hrows.symm

/-- The first line behind a line feed is what the text behind it begins with. -/
theorem line_append_feed (before after : Text) :
    lineStart (before ++ '\n' :: after) (before.count '\n' + 1) = before.length + 1
      ∧ lineText (before ++ '\n' :: after) (before.count '\n' + 1) = lineText after 0
      ∧ lineEnding (before ++ '\n' :: after) (before.count '\n' + 1) = lineEnding after 0 := by
  have hrows := rows_append_feed before after
  have hfront : (endRows (rows before)).length = before.count '\n' + 1 := by
    rw [length_endRows, length_rows]
  have hafter : 0 < (rows after).length := by
    rw [length_rows]
    exact Nat.succ_pos _
  have hline : before.count '\n' + 1 < (rows (before ++ '\n' :: after)).length := by
    rw [hrows, List.length_append]
    omega
  have hrow : (rows (before ++ '\n' :: after))[before.count '\n' + 1] = (rows after)[0] := by
    simp only [hrows, ← hfront, List.getElem_append_right (Nat.le_refl _), Nat.sub_self]
  refine ⟨?_, by rw [lineText_eq hline, lineText_eq hafter, hrow],
    by rw [lineEnding_eq hline, lineEnding_eq hafter, hrow]⟩
  rw [lineStart_eq, hrows, ← hfront, List.take_left, flatten_endRows_rows, List.length_append,
    List.length_singleton]

/-- The lines before a line feed end before it. -/
theorem lineEnd_le_of_append_feed (hn : n ≤ before.count '\n') :
    lineEnd (before ++ '\n' :: after) n ≤ before.length := by
  have hlines : n + 1 < lineCount (before ++ '\n' :: after) := by
    rw [lineCount_of_ne_nil (by simp), List.count_append, List.count_cons_self]
    omega
  have hend := lineEnd_lt_lineStart hlines
  have hstart := lineStart_le_lineStart (t := before ++ '\n' :: after) (Nat.add_le_add_right hn 1)
  rw [(line_append_feed before after).1] at hstart
  omega

/-! ## Single lines -/

/-- Replacing a line before a line feed leaves alone what is behind it, and loses no line. -/
theorem exists_replaceLine_append_feed (hn : n ≤ before.count '\n') (after new : Text) :
    ∃ front, before.count '\n' ≤ front.count '\n'
      ∧ replaceLine (before ++ '\n' :: after) n new = front ++ '\n' :: after := by
  have horder := lineStart_le_lineEnd (before ++ '\n' :: after) n
  have hend : lineEnd (before ++ '\n' :: after) n ≤ before.length := lineEnd_le_of_append_feed hn
  have hfeed := feed_not_mem_lineText (before ++ '\n' :: after) n
  rw [lineText, slice_append_of_le horder hend] at hfeed
  exact ⟨_, count_le_count_splice horder hfeed new, splice_append_of_le horder hend _ _⟩

/-- Replacing a line that is not the first puts the new text behind a line feed. -/
theorem exists_replaceLine_eq_append (hn : n + 1 < lineCount t) (new : Text) :
    ∃ before, before.count '\n' = n
      ∧ replaceLine t (n + 1) new = before ++ '\n' :: (new ++ t.drop (lineEnd t (n + 1))) := by
  obtain ⟨before, after, ht, hcount, hstart⟩ := exists_feed_before_lineStart hn
  have htake : t.take (lineStart t (n + 1)) = before ++ ['\n'] := by
    rw [hstart, ht, List.take_length_add_append]
    rfl
  refine ⟨before, hcount, ?_⟩
  rw [replaceLine, splice, htake]
  simp

/-! ## Edits -/

/-- What the replacement of a stretch leaves of the lines of a text. -/
structure KeepsLines (start stop : Nat) (new t u : Text) : Prop where
  /-- A line that another one follows at or before the stretch stays where it is. -/
  before : ∀ n, n + 1 < lineCount t → lineStart t (n + 1) ≤ start →
    n + 1 < lineCount u ∧ lineStart u n = lineStart t n ∧ lineEnd u n = lineEnd t n
      ∧ lineText u n = lineText t n ∧ lineEnding u n = lineEnding t n
  /-- A line that starts behind the stretch is moved as the text behind it is. -/
  after : ∀ n, n < lineCount t → stop < lineStart t n →
    ∃ m, m < lineCount u ∧ m + (slice t start stop).count '\n' = n + new.count '\n'
      ∧ lineStart u m + (stop - start) = lineStart t n + new.length
      ∧ lineText u m = lineText t n ∧ lineEnding u m = lineEnding t n

/-- Every edit leaves the lines before it and behind it. -/
theorem keepsLines_splice (h : start ≤ stop) (new : Text) :
    KeepsLines start stop new t (splice t start stop new) where
  before n hn hstart := by
    obtain ⟨before, after, rfl, hcount, hlineStart⟩ := exists_feed_before_lineStart hn
    obtain ⟨first, rfl⟩ := Nat.exists_eq_add_of_le (hlineStart ▸ hstart)
    obtain ⟨last, rfl⟩ := Nat.exists_eq_add_of_le (Nat.le_trans (Nat.le_add_right _ _) h)
    -- the edit is one of the text behind the line feed that ends the line
    have hsplice := append_splice (before ++ ['\n']) after first last new
    rw [List.length_append, List.length_singleton, List.append_assoc, List.append_assoc] at hsplice
    rw [List.singleton_append, List.singleton_append] at hsplice
    rw [hsplice]
    refine ⟨?_, line_eq_of_rows_eq_append (rows_append_feed before after)
      (rows_append_feed before _) (by rw [length_endRows, length_rows]; omega)⟩
    rw [lineCount_of_ne_nil (by simp), List.count_append, List.count_cons_self]
    omega
  after n hn hstop := by
    -- the first line starts with the text, so this is another one
    obtain ⟨n, rfl⟩ : ∃ m, n = m + 1 := by
      refine Nat.exists_eq_succ_of_ne_zero ?_
      rintro rfl
      rw [(tiles t).first] at hstop
      exact absurd hstop (Nat.not_lt_zero _)
    obtain ⟨before, after, rfl, hcount, hlineStart⟩ := exists_feed_before_lineStart hn
    have hlength : stop ≤ before.length := by omega
    have hfeeds := count_splice_add (t := before) h new
    have hgrown := length_splice_add h hlength new
    obtain ⟨hstart, htext, hending⟩ := line_append_feed (splice before start stop new) after
    obtain ⟨-, htext', hending'⟩ := line_append_feed before after
    rw [hcount] at htext' hending'
    -- the edit is one of the text before the line feed that the line starts behind
    rw [splice_append_of_le h hlength, slice_append_of_le h hlength]
    refine ⟨(splice before start stop new).count '\n' + 1, ?_, by omega, by omega,
      htext.trans htext'.symm, hending.trans hending'.symm⟩
    rw [lineCount_of_ne_nil (by simp), List.count_append, List.count_cons_self]
    omega

end LintMend.Text

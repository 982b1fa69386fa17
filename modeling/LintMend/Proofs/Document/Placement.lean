import LintMend.Proofs.Document.Edits
import LintMend.Proofs.Placed
import LintMend.Proofs.Text.Offsets
import LintMend.Proofs.Text.Stretch

/-! # Lines of offsets, places of findings

A document is asked for lines in two ways: by an offset, and by the line number of a finding, which
may be any whole number.
* `Document.FindsLines`, `Document.findsLines_iff`: the line of an offset, in terms of line feeds
  and of the line starts. The empty document is the only one that has no answer.
* `Document.lineIndex?_of_ne_nil`: the line that a number means is the nearest one that there is.
* `Document.Shows`, `Document.shows_rangeOfLine`: the stretch that is shown of a line.
* `Document.lineRange?_nearest`: the line and the stretch that every line number means, and their
  order. -/

namespace LintMend

open Text

namespace Document

variable {d : Document}

/-! ## Lines of offsets -/

/-- The answer of a document that is not empty when it is asked for the line of an offset. -/
theorem lineAt_of_ne_nil (h : d.text ≠ []) (offset : Int) :
    d.lineAt offset = .ok (Text.lineAt d.text offset) := by rw [lineAt_eq_ite, if_neg h]

/-- Whether a document finds the line of every offset. -/
structure FindsLines (d : Document) : Prop where
  /-- It has as many lines before it as there are line feeds before the offset. An offset may lie
  behind the text, too. -/
  count : ∀ o : Nat, d.lineAt o = .ok ((d.text.take o).count '\n')
  /-- The lines that start at or before the offset are those up to it. -/
  starts : ∀ n : Nat, n < d.lineCount → ∀ o : Nat, ∃ start line,
    d.lineStart n = .ok start ∧ d.lineAt o = .ok line ∧ (start ≤ o ↔ n ≤ line)
  /-- Offsets before the text lie on the first line. -/
  before : ∀ o : Int, o < 0 → d.lineAt o = .ok 0
  /-- The offsets from the start of a line to its end lie on that line. -/
  inside : ∀ n : Nat, n < d.lineCount → ∃ start stop,
    d.lineStart n = .ok start ∧ d.lineEnd n = .ok stop
      ∧ ∀ o : Nat, start ≤ o → o ≤ stop → d.lineAt o = .ok n
  /-- A later offset lies on no earlier line. -/
  mono : ∀ o p : Int, o ≤ p → ∃ line later,
    d.lineAt o = .ok line ∧ d.lineAt p = .ok later ∧ line ≤ later

/-- Every document but the empty one finds the line of every offset. -/
theorem findsLines_iff (d : Document) : d.FindsLines ↔ d.text ≠ [] := by
  refine ⟨fun hfinds htext => ?_, fun htext => ?_⟩
  · have hcount := hfinds.count 0
    rw [lineAt_eq_ite, if_pos htext] at hcount
    cases hcount
  have hlines := d.readsTable.line
  refine ⟨fun o => ?_, fun n hn o => ?_, fun o ho => ?_, fun n hn => ?_, fun o p hle => ?_⟩
  · rw [lineAt_of_ne_nil htext, lineAt_eq_count htext]
  · refine ⟨_, _, (hlines n hn).1, lineAt_of_ne_nil htext o, ?_⟩
    rw [lineAt_eq_count htext]
    exact lineStart_le_iff (d.lineCount_eq ▸ hn)
  · rw [lineAt_of_ne_nil htext, lineAt_of_neg ho]
  · refine ⟨_, _, (hlines n hn).1, (hlines n hn).2.1, fun o hstart hstop => ?_⟩
    rw [lineAt_of_ne_nil htext, lineAt_eq_of_mem (d.lineCount_eq ▸ hn) hstart hstop]
  · exact ⟨_, _, lineAt_of_ne_nil htext o, lineAt_of_ne_nil htext p, lineAt_mono htext hle⟩

/-- The offset of a line end, that of the line start behind it, and one far behind the text. -/
example : (mixedDocument.lineAt 3, mixedDocument.lineAt 4, mixedDocument.lineAt 99)
    = (.ok 0, .ok 1, .ok 3) := by decide +kernel

/-! ## Lines of line numbers -/

/-- The line that a number means is the nearest one that there is. -/
theorem lineIndex?_of_ne_nil (h : d.text ≠ []) (number : Int) :
    ∃ line, d.lineIndex? number = some line
      ∧ (line : Int) = max 0 (min (number - 1) (d.lineCount - 1)) := by
  have hcount : d.lineCount ≠ 0 := fun hzero => h (Document.lineCount_eq_zero_iff.1 hzero)
  rw [lineIndex?, if_neg hcount]
  split
  · next hbehind => exact ⟨_, rfl, by omega⟩
  · next hbehind => exact ⟨_, rfl, by omega⟩

/-! ## Ranges of lines -/

/-- Whether a range is the stretch of a line from its first character that is not blank. -/
structure Shows (d : Document) (n : Nat) (r : TextRange) : Prop where
  /-- The document has the line, and answers with its ends and its text. -/
  line : d.lineStart n = .ok (Text.lineStart d.text n) ∧ d.lineEnd n = .ok (Text.lineEnd d.text n)
    ∧ d.lineText n = .ok (Text.lineText d.text n)
  /-- The range begins on the line. -/
  start : Text.lineStart d.text n ≤ r.start
  /-- It ends where the line does. -/
  stop : r.stop = Text.lineEnd d.text n
  /-- The characters of the line before it are blank. -/
  blank : ∀ c ∈ slice d.text (Text.lineStart d.text n) r.start, isBlank c = true
  /-- Its first character is not. -/
  first : r.start < r.stop → ∃ c, d.text[r.start]? = some c ∧ isBlank c = false
  /-- Its text is that of the line without the blanks in front. -/
  text : d.textIn r = trimStart (Text.lineText d.text n)
  /-- Both ends lie on the line. -/
  ends : d.lineAt r.start = .ok n ∧ d.lineAt r.stop = .ok n
  /-- The line makes a range, and so does what is left when its start is moved behind the blanks. -/
  built : ∃ whole, TextRange.of (Text.lineStart d.text n) (Text.lineEnd d.text n) = .ok whole
    ∧ d.textIn whole = Text.lineText d.text n
    ∧ TextRange.of (whole.start + ((d.textIn whole).length - (trimStart (d.textIn whole)).length))
        whole.stop = .ok r

/-- A text around one of its lines. -/
theorem exists_eq_around_line {t : Text} {n : Nat} (hn : n < Text.lineCount t) :
    ∃ before after, t = before ++ (Text.lineText t n ++ after)
      ∧ Text.lineStart t n = before.length
      ∧ Text.lineEnd t n = before.length + (Text.lineText t n).length := by
  obtain ⟨-, hrow⟩ := ne_nil_and_lt_length_rows hn
  rw [lineEnd_eq hrow, lineText_eq hrow, lineStart_eq]
  exact ⟨_, _, eq_around_row hrow, rfl, rfl⟩

/-- A text around the range of one of its lines, with the blanks of the line before it. -/
theorem exists_eq_around_rangeOfLine {n : Nat} (hn : n < d.lineCount) :
    ∃ before lead rest after, d.text = before ++ (lead ++ (rest ++ after))
      ∧ (Text.lineText d.text n = lead ++ rest ∧ trimStart (Text.lineText d.text n) = rest)
      ∧ ((∀ c ∈ lead, isBlank c = true) ∧ ∀ c ∈ rest.head?, isBlank c = false)
      ∧ Text.lineStart d.text n = before.length
      ∧ (d.rangeOfLine n).start = before.length + lead.length
      ∧ (d.rangeOfLine n).stop = before.length + lead.length + rest.length := by
  rw [lineCount_eq] at hn
  obtain ⟨before, after, htext, hstart, hstop⟩ := exists_eq_around_line hn
  obtain ⟨hline, hblank⟩ := takeWhile_eq_and_dropWhile_eq_iff.1
    ⟨rfl, (rfl : trimStart (Text.lineText d.text n) = _)⟩
  have hlength := congrArg List.length hline
  rw [List.length_append] at hlength
  refine ⟨before, _, trimStart (Text.lineText d.text n), after, ?_, ⟨hline, rfl⟩, hblank, hstart,
    ?_, ?_⟩
  · rw [← List.append_assoc _ _ after, ← hline]
    exact htext
  · rw [start_rangeOfLine]
    omega
  · rw [stop_rangeOfLine]
    omega

/-- The range of a line is the stretch from its first character that is not blank. -/
theorem shows_rangeOfLine {n : Nat} (hn : n < d.lineCount) : d.Shows n (d.rangeOfLine n) := by
  have hstop := d.stop_rangeOfLine n
  have hordered := (d.rangeOfLine n).start_le_stop
  have hbegins := d.lineStart_le_start_rangeOfLine n
  have hcount : n < Text.lineCount d.text := d.lineCount_eq ▸ hn
  obtain ⟨htext, -⟩ := ne_nil_and_lt_length_rows hcount
  have hon : ∀ o : Nat, Text.lineStart d.text n ≤ o → o ≤ Text.lineEnd d.text n →
      d.lineAt o = .ok n := fun o ho ho' => by
    rw [lineAt_of_ne_nil htext, lineAt_eq_of_mem hcount ho ho']
  obtain ⟨before, lead, rest, after, hd, ⟨hline, hrest⟩, ⟨hblank, hfirst⟩, hstart, hbegin, hend⟩ :=
    exists_eq_around_rangeOfLine hn
  refine ⟨d.readsTable.line n hn, hbegins, hstop, ?_, fun hlt => ?_, ?_,
    ⟨hon _ hbegins (hstop ▸ hordered),
      hon _ (Nat.le_trans hbegins hordered) (Nat.le_of_eq hstop)⟩, ?_⟩
  · have hslice := slice_append before lead (rest ++ after)
    rw [hstart, hbegin, hd, hslice]
    exact hblank
  · cases rest with
    | nil => exact absurd hlt (by simp [hbegin, hend])
    | cons c rest =>
        refine ⟨c, ?_, hfirst c rfl⟩
        rw [hbegin, hd, ← List.append_assoc, ← List.length_append,
          List.getElem?_append_right (Nat.le_refl _), Nat.sub_self]
        rfl
  · have hslice := slice_append (before ++ lead) rest after
    rw [List.append_assoc, ← hd, List.length_append] at hslice
    rw [textIn, hbegin, hend, hslice, hrest]
  · refine ⟨⟨Text.lineStart d.text n, Text.lineEnd d.text n, lineStart_le_lineEnd d.text n⟩,
      TextRange.of_eq_ok_iff.2 ⟨rfl, rfl⟩, rfl,
      TextRange.of_eq_ok_iff.2 ⟨?_, congrArg Int.ofNat hstop.symm⟩⟩
    -- the text of the line is longer by its blanks
    show (Text.lineStart d.text n : Int) + ((Text.lineText d.text n).length
      - (trimStart (Text.lineText d.text n)).length) = (d.rangeOfLine n).start
    rw [hbegin, hstart, hrest, hline, List.length_append]
    omega

/-! ## Places of findings -/

/-- A line ends before the range of any later one begins. -/
theorem stop_rangeOfLine_lt {n m : Nat} (hm : m < d.lineCount) (h : n < m) :
    (d.rangeOfLine n).stop < (d.rangeOfLine m).start :=
  calc (d.rangeOfLine n).stop
      = Text.lineEnd d.text n := d.stop_rangeOfLine n
    _ < Text.lineStart d.text (n + 1) :=
        lineEnd_lt_lineStart (Nat.lt_of_le_of_lt h (d.lineCount_eq ▸ hm))
    _ ≤ Text.lineStart d.text m := lineStart_le_lineStart h
    _ ≤ (d.rangeOfLine m).start := d.lineStart_le_start_rangeOfLine m

/-- In every document but the empty one each line number, whatever whole number it is, means the
nearest line that there is, and the stretch of it from its first character that is not blank. A
greater number means no earlier line, and if it means another one, a stretch that is all behind the
first. -/
theorem lineRange?_nearest (d : Document) (number : Int) :
    (d.lineIndex? number = none ↔ d.text = []) ∧ (d.lineRange? number = none ↔ d.text = [])
      ∧ (d.text ≠ [] → ∃ n r, d.lineIndex? number = some n ∧ d.lineRange? number = some r
        ∧ (n : Int) = max 0 (min (number - 1) (d.lineCount - 1)) ∧ d.Shows n r
        ∧ ∀ later, number ≤ later → ∃ m s, d.lineIndex? later = some m
          ∧ d.lineRange? later = some s ∧ n ≤ m ∧ (n ≠ m → r.stop < s.start)) := by
  refine ⟨lineIndex?_eq_none_iff, ?_, fun htext => ?_⟩
  · rw [lineRange?, Option.map_eq_none_iff, lineIndex?_eq_none_iff]
  have hrange : ∀ k n, d.lineIndex? k = some n → d.lineRange? k = some (d.rangeOfLine n) :=
    fun k n hk => by rw [lineRange?, hk, Option.map_some]
  obtain ⟨n, hindex, hnearest⟩ := lineIndex?_of_ne_nil htext number
  refine ⟨n, _, hindex, hrange _ n hindex, hnearest, shows_rangeOfLine (lt_of_lineIndex? hindex),
    fun later hlater => ?_⟩
  obtain ⟨m, hindex', hnearest'⟩ := lineIndex?_of_ne_nil htext later
  have hle : n ≤ m := by omega
  exact ⟨m, _, hindex', hrange _ m hindex', hle, fun hne =>
    stop_rangeOfLine_lt (lt_of_lineIndex? hindex') (Nat.lt_of_le_of_ne hle hne)⟩

/-- Of a line that is all blank the end is shown. -/
example : (⟨"a\r\n \t\r\n\u00a0b".toList, none, none, []⟩ : Document).lineRange? 2
    = some ⟨5, 5, Nat.le_refl 5⟩ := by decide +kernel

end Document

end LintMend

import LintMend.Proofs.Text.Pieces
import LintMend.Text.LineTable

/-! # Rows

A text as its lines, each with the characters that end it. Offsets are only a way to point into this
list: a line starts where the rows before it end, and an edit of one line is an edit of one row.
* `Row`, `rows`: the lines of a text with their ends; the last one has none.
* `IsTable`: the lists of rows that a text can have; `rows_flatten` and `flatten_rows` say that a
  text and its rows determine each other.
* `lineStart_eq`, `lineEnd_eq`, `lineText_eq`, `lineTexts_eq`: the line table, read off the rows.
* `rows_replaceLine`: replacing the text of a line changes the text of one row and nothing else.
* `count_le_count_replaceLine`: no edit of a line takes out a line feed. -/

namespace LintMend.Text

/-- A line with the characters that end it. -/
structure Row where
  /-- The text of the line. -/
  text : Text
  /-- What ends it: a line feed, perhaps with a carriage return before it, or nothing. -/
  ending : Text
  deriving DecidableEq, Repr

namespace Row

/-- The characters of a row. -/
def whole (r : Row) : Text := r.text ++ r.ending

/-- The row of a piece of text that a line feed ends. A carriage return before it belongs to the
end. -/
def ofPiece (piece : Text) : Row :=
  if piece.getLast? = some '\r' then ⟨piece.dropLast, ['\r', '\n']⟩ else ⟨piece, ['\n']⟩

/-- Whether a row is one that a line feed ends. -/
def Closed (r : Row) : Prop :=
  '\n' ∉ r.text ∧ (r.ending = ['\r', '\n'] ∨ r.ending = ['\n'] ∧ r.text.getLast? ≠ some '\r')

/-- Whether a row is one that nothing ends. -/
def Unended (r : Row) : Prop := '\n' ∉ r.text ∧ r.ending = []

/-- The row with another text. -/
def withText (r : Row) (t : Text) : Row := ⟨t, r.ending⟩

@[simp] theorem text_withText (r : Row) (t : Text) : (r.withText t).text = t := rfl

@[simp] theorem ending_withText (r : Row) (t : Text) : (r.withText t).ending = r.ending := rfl

/-- The row of a piece is the piece and a line feed. -/
@[simp] theorem whole_ofPiece (piece : Text) : (ofPiece piece).whole = piece ++ ['\n'] := by
  unfold ofPiece
  split
  · next h =>
      obtain ⟨front, rfl⟩ := List.getLast?_eq_some_iff.1 h
      rw [whole, List.dropLast_concat, List.append_assoc]
      rfl
  · rfl

/-- The row of a piece without line feeds is closed. -/
theorem closed_ofPiece {piece : Text} (h : '\n' ∉ piece) : (ofPiece piece).Closed := by
  unfold ofPiece
  split
  · exact ⟨fun hmem => h (List.dropLast_subset piece hmem), .inl rfl⟩
  · next hlast => exact ⟨h, .inr ⟨rfl, hlast⟩⟩

/-- A closed row is the row of its characters before the line feed. -/
theorem Closed.exists_piece {r : Row} (h : r.Closed) :
    ∃ piece, '\n' ∉ piece ∧ ofPiece piece = r := by
  obtain ⟨text, ending⟩ := r
  obtain ⟨htext, hending | ⟨hending, hlast⟩⟩ := h
  · refine ⟨text ++ ['\r'], by simpa using htext, ?_⟩
    rw [ofPiece, if_pos (by simp), List.dropLast_concat]
    exact congrArg _ hending.symm
  · refine ⟨text, htext, ?_⟩
    rw [ofPiece, if_neg hlast]
    exact congrArg _ hending.symm

end Row

/-! ## A text and its rows -/

/-- The rows of the pieces between line feeds. -/
def rowsOfPieces : List Text → List Row
  | [] => []
  | [last] => [⟨last, []⟩]
  | piece :: next :: others => .ofPiece piece :: rowsOfPieces (next :: others)

/-- The lines of a text with their ends. The empty text has one, which is empty. -/
def rows (t : Text) : List Row := rowsOfPieces (feedPieces t)

/-- The text of some rows. -/
def flatten (rs : List Row) : Text := rs.flatMap Row.whole

@[simp] theorem flatten_nil : flatten [] = [] := rfl

@[simp] theorem flatten_cons (r : Row) (rs : List Row) :
    flatten (r :: rs) = r.whole ++ flatten rs := rfl

@[simp] theorem flatten_append (rs others : List Row) :
    flatten (rs ++ others) = flatten rs ++ flatten others := by
  simp [flatten]

/-- Whether rows are those of a text: all but the last are closed, and nothing ends the last. -/
def IsTable : List Row → Prop
  | [] => False
  | [last] => last.Unended
  | r :: next :: others => r.Closed ∧ IsTable (next :: others)

/-- What holds of texts without line feeds, and of a text with a line in front if it holds of the
text, holds of all texts. -/
theorem feed_induction {motive : Text → Prop} (last : ∀ t, '\n' ∉ t → motive t)
    (step : ∀ piece rest, '\n' ∉ piece → motive rest → motive (piece ++ '\n' :: rest)) (t : Text) :
    motive t := by
  -- The text behind the first line feed is shorter.
  obtain ⟨n, hn⟩ : ∃ n, t.length = n := ⟨_, rfl⟩
  induction n using Nat.strongRecOn generalizing t with
  | _ n ih =>
    by_cases hfeed : '\n' ∈ t
    · obtain ⟨piece, rest, rfl, hpiece⟩ := List.eq_append_cons_of_mem hfeed
      refine step piece rest hpiece (ih rest.length ?_ rest rfl)
      rw [← hn, List.length_append, List.length_cons]
      omega
    · exact last t hfeed

/-- A text without line feeds is one row. -/
theorem rows_of_not_mem {t : Text} (h : '\n' ∉ t) : rows t = [⟨t, []⟩] := by
  have hpieces : feedPieces t = [t] := pieces_of_not_mem h
  rw [rows, hpieces]
  rfl

/-- The first line feed ends the first row. -/
theorem rows_append_cons {piece : Text} (h : '\n' ∉ piece) (rest : Text) :
    rows (piece ++ '\n' :: rest) = .ofPiece piece :: rows rest := by
  have hpieces : feedPieces (piece ++ '\n' :: rest) = piece :: feedPieces rest :=
    pieces_append_cons h rest
  rw [rows, rows, hpieces]
  cases hrest : feedPieces rest with
  | nil => exact absurd hrest (pieces_ne_nil _ rest)
  | cons next others => rfl

/-- The rows of a text are its characters. -/
@[simp] theorem flatten_rows (t : Text) : flatten (rows t) = t := by
  induction t using feed_induction with
  | last t h => simp [rows_of_not_mem h, Row.whole]
  | step piece rest h ih =>
      rw [rows_append_cons h, flatten_cons, Row.whole_ofPiece, ih, List.append_assoc]
      rfl

/-- A closed row before a table makes a table. -/
theorem isTable_cons {r : Row} {rs : List Row} (hr : r.Closed) (hrs : IsTable rs) :
    IsTable (r :: rs) := by
  cases rs with
  | nil => exact hrs.elim
  | cons next others => exact ⟨hr, hrs⟩

/-- The rows of a text are a table. -/
theorem isTable_rows (t : Text) : IsTable (rows t) := by
  induction t using feed_induction with
  | last t h =>
      rw [rows_of_not_mem h]
      exact ⟨h, rfl⟩
  | step piece rest h ih =>
      rw [rows_append_cons h]
      exact isTable_cons (Row.closed_ofPiece h) ih

/-- A table is the rows of its text. -/
theorem rows_flatten {rs : List Row} (h : IsTable rs) : rows (flatten rs) = rs := by
  induction rs with
  | nil => exact h.elim
  | cons r rs ih =>
      cases rs with
      | nil =>
          obtain ⟨text, ending⟩ := r
          obtain ⟨htext, rfl⟩ : '\n' ∉ text ∧ ending = [] := h
          simp [Row.whole, rows_of_not_mem htext]
      | cons next others =>
          obtain ⟨hr, hrest⟩ := h
          obtain ⟨piece, hpiece, rfl⟩ := hr.exists_piece
          rw [flatten_cons, Row.whole_ofPiece, List.append_assoc, List.singleton_append,
            rows_append_cons hpiece, ih hrest]

/-- Texts with the same rows are the same. -/
theorem eq_of_rows_eq {t u : Text} (h : rows t = rows u) : t = u := by
  rw [← flatten_rows t, h, flatten_rows]

/-! ## The line table -/

/-- The stretch of a text between two others. -/
theorem slice_append (before inner after : Text) :
    slice (before ++ (inner ++ after)) before.length (before.length + inner.length) = inner := by
  rw [slice, Nat.add_sub_cancel_left, List.drop_left, List.take_left]

/-- A stretch of a text replaced between two others. -/
theorem splice_append (before inner after new : Text) :
    splice (before ++ (inner ++ after)) before.length (before.length + inner.length) new
      = before ++ (new ++ after) := by
  rw [splice, List.take_left, ← List.drop_drop, List.drop_left, List.drop_left, List.append_assoc]

/-- A text that is not empty has one line more than line feeds. -/
theorem lineCount_of_ne_nil {t : Text} (h : t ≠ []) : lineCount t = t.count '\n' + 1 := by
  rw [lineCount, lineStarts, if_neg h, List.length_cons, length_startsAfterFeeds]

/-- A text has one row more than line feeds. -/
theorem length_rows (t : Text) : (rows t).length = t.count '\n' + 1 := by
  induction t using feed_induction with
  | last t h => simp [rows_of_not_mem h, List.count_eq_zero_of_not_mem h]
  | step piece rest h ih =>
      rw [rows_append_cons h, List.length_cons, ih, List.count_append, List.count_cons_self,
        List.count_eq_zero_of_not_mem h, Nat.zero_add]

/-- A text that is not empty has as many lines as rows. -/
theorem lineCount_eq {t : Text} (h : t ≠ []) : lineCount t = (rows t).length := by
  rw [lineCount_of_ne_nil h, length_rows]

/-- The lines of a text that is not empty are the texts of its rows. -/
theorem lineTexts_eq {t : Text} (h : t ≠ []) : lineTexts t = (rows t).map Row.text := by
  have hdrop : ∀ ps : List Text, dropReturns ps = (rowsOfPieces ps).map Row.text := by
    intro ps
    induction ps using dropReturns.induct with
    | case1 => rfl
    | case2 last => rfl
    | case3 piece next others ih =>
        rw [dropReturns, ih, rowsOfPieces, List.map_cons, dropReturn, Row.ofPiece]
        split <;> rfl
  rw [lineTexts, if_neg h, hdrop, rows]

/-- The starts of the lines after a first piece. -/
theorem startsAfterFeeds_append {piece : Text} (h : '\n' ∉ piece) (offset : Nat) (rest : Text) :
    startsAfterFeeds offset (piece ++ rest) = startsAfterFeeds (offset + piece.length) rest := by
  induction piece generalizing offset with
  | nil => rfl
  | cons c piece ih =>
      rw [List.mem_cons, not_or] at h
      rw [List.cons_append, startsAfterFeeds, if_neg (Ne.symm h.1), ih h.2, List.length_cons,
        Nat.add_assoc, Nat.add_comm 1]

/-- Where the lines of a text behind an offset start. Behind the last line there is the end. -/
theorem getD_startsAfterFeeds (t : Text) (offset n : Nat) :
    (offset :: startsAfterFeeds offset t).getD n (offset + t.length)
      = offset + (flatten ((rows t).take n)).length := by
  -- The induction is on the line feeds of the text; each of them moves the offset behind its row.
  induction t using feed_induction generalizing offset n with
  | last t h =>
      have hnone := startsAfterFeeds_append h offset []
      rw [List.append_nil, startsAfterFeeds_nil] at hnone
      rw [rows_of_not_mem h, hnone]
      cases n with
      | zero => rfl
      | succ n => simp [Row.whole]
  | step piece rest h ih =>
      rw [rows_append_cons h, startsAfterFeeds_append h, startsAfterFeeds, if_pos rfl]
      cases n with
      | zero => rfl
      | succ n =>
          have hrest := ih (offset + piece.length + 1) n
          have hend : offset + piece.length + 1 + rest.length
              = offset + (piece ++ '\n' :: rest).length := by
            rw [List.length_append, List.length_cons]
            omega
          rw [hend] at hrest
          rw [List.getD_cons_succ, List.take_succ_cons, flatten_cons, Row.whole_ofPiece, hrest,
            List.length_append, List.length_append, List.length_singleton]
          omega

/-- A line starts where the rows before it end. -/
theorem lineStart_eq (t : Text) (n : Nat) :
    lineStart t n = (flatten ((rows t).take n)).length := by
  by_cases ht : t = []
  · subst ht
    cases n with
    | zero => rfl
    | succ n => simp [lineStart, rows_of_not_mem, Row.whole]
  · rw [lineStart, lineStarts, if_neg ht]
    simpa using getD_startsAfterFeeds t 0 n

/-- All rows of a table but the last are closed. -/
theorem IsTable.closed {rs : List Row} (h : IsTable rs) {n : Nat} (hn : n + 1 < rs.length) :
    rs[n].Closed := by
  induction rs generalizing n with
  | nil => exact h.elim
  | cons r rs ih =>
      cases rs with
      | nil => exact absurd hn (by simp)
      | cons next others =>
          cases n with
          | zero => exact h.1
          | succ n => exact ih h.2 (Nat.lt_of_succ_lt_succ hn)

/-- Nothing ends the last row of a table. -/
theorem IsTable.unended {rs : List Row} (h : IsTable rs) {n : Nat} (hn : n < rs.length)
    (hlast : rs.length ≤ n + 1) : rs[n].Unended := by
  induction rs generalizing n with
  | nil => exact h.elim
  | cons r rs ih =>
      cases rs with
      | nil =>
          obtain rfl : n = 0 := by simpa using hn
          exact h
      | cons next others =>
          cases n with
          | zero => exact absurd hlast (by simp)
          | succ n => exact ih h.2 (Nat.lt_of_succ_lt_succ hn) (Nat.le_of_succ_le_succ hlast)

/-- The characters that end a line. -/
def lineEnding (t : Text) (line : Nat) : Text := slice t (lineEnd t line) (lineStart t (line + 1))

section Line

variable {t : Text} {n : Nat} (h : n < (rows t).length)

/-- A text around one of its rows. -/
theorem eq_around_row :
    t = flatten ((rows t).take n)
      ++ ((rows t)[n].text ++ ((rows t)[n].ending ++ flatten ((rows t).drop (n + 1)))) := by
  have hsplit : rows t = (rows t).take n ++ (rows t)[n] :: (rows t).drop (n + 1) := by
    rw [← List.drop_eq_getElem_cons, List.take_append_drop]
  have hflat := congrArg flatten hsplit
  rw [flatten_rows, flatten_append, flatten_cons, Row.whole, List.append_assoc] at hflat
  exact hflat

/-- The next line starts where the row ends. -/
theorem lineStart_succ :
    lineStart t (n + 1) = lineStart t n + (rows t)[n].text.length + (rows t)[n].ending.length := by
  rw [lineStart_eq, lineStart_eq, List.take_succ_eq_append_getElem h, flatten_append,
    flatten_cons, flatten_nil, Row.whole]
  simp only [List.length_append, List.append_nil]
  omega

/-- The characters of a text from the start of a line on. -/
theorem getElem?_lineStart_add (k : Nat) :
    t[lineStart t n + k]?
      = ((rows t)[n].text ++ ((rows t)[n].ending ++ flatten ((rows t).drop (n + 1))))[k]? :=
  calc t[lineStart t n + k]?
      = (flatten ((rows t).take n) ++ ((rows t)[n].text
          ++ ((rows t)[n].ending ++ flatten ((rows t).drop (n + 1)))))[lineStart t n + k]? :=
        congrArg (fun u : Text => u[lineStart t n + k]?) (eq_around_row h)
    _ = _ := by
        rw [lineStart_eq, List.getElem?_append_right (Nat.le_add_right _ _),
          Nat.add_sub_cancel_left]

/-- A line ends behind the text of its row. -/
theorem lineEnd_eq : lineEnd t n = lineStart t n + (rows t)[n].text.length := by
  rw [lineEnd_eq_ite]
  by_cases hlast : (rows t).length ≤ n + 1
  · -- The last line ends with the text.
    obtain ⟨-, hending⟩ := (isTable_rows t).unended h hlast
    have hcount : lineCount t ≤ n + 1 := by
      by_cases ht : t = []
      · simp [ht]
      · rw [lineCount_eq ht]
        exact hlast
    have hlength := congrArg List.length (eq_around_row h)
    rw [hending, List.drop_eq_nil_of_le hlast, flatten_nil, List.append_nil, List.append_nil,
      List.length_append] at hlength
    rw [if_pos hcount, lineStart_eq, hlength]
  · have ht : t ≠ [] := fun hnil => hlast (by simp [hnil, rows_of_not_mem])
    rw [lineCount_eq ht, if_neg hlast, lineStart_succ h]
    obtain ⟨-, hending | ⟨hending, hreturn⟩⟩ := (isTable_rows t).closed (Nat.lt_of_not_le hlast)
    · -- Two characters end the line: the one before the line feed is a carriage return.
      have hreturn : t[lineStart t n + (rows t)[n].text.length + 0]? = some '\r' := by
        rw [Nat.add_assoc, getElem?_lineStart_add h, hending,
          List.getElem?_append_right (Nat.le_add_right _ _), Nat.add_sub_cancel_left]
        rfl
      rw [hending]
      simp only [List.length_cons, List.length_nil]
      rw [if_pos ⟨by omega, by simpa using hreturn⟩]
      omega
    · -- Only the line feed does: a carriage return before it would be the last of the line.
      rw [hending]
      simp only [List.length_cons, List.length_nil]
      rw [if_neg]
      · omega
      · rintro ⟨hlt, hlastChar⟩
        refine hreturn ?_
        rw [List.getLast?_eq_getElem?]
        have hpos : lineStart t n + (rows t)[n].text.length + 1 - 1 - 1
            = lineStart t n + ((rows t)[n].text.length - 1) := by omega
        rw [hpos, getElem?_lineStart_add h, List.getElem?_append_left (by omega)] at hlastChar
        exact hlastChar

/-- The text of a line is that of its row. -/
theorem lineText_eq : lineText t n = (rows t)[n].text := by
  rw [lineText, lineEnd_eq h, lineStart_eq]
  exact (congrArg (slice · _ _) (eq_around_row h)).trans (slice_append _ _ _)

/-- A line is ended as its row is. -/
theorem lineEnding_eq : lineEnding t n = (rows t)[n].ending := by
  rw [lineEnding, lineStart_succ h, lineEnd_eq h, lineStart_eq, ← List.length_append]
  refine (congrArg (slice · _ _) (eq_around_row h)).trans ?_
  rw [← List.append_assoc]
  exact slice_append _ _ _

end Line

/-- Replacing the text of a line replaces the text of its row. -/
theorem replaceLine_eq {t : Text} {n : Nat} (h : n < (rows t).length) (new : Text) :
    replaceLine t n new = flatten ((rows t).modify n (·.withText new)) := by
  rw [replaceLine, lineEnd_eq h, lineStart_eq]
  refine (congrArg (splice · _ _ new) (eq_around_row h)).trans ?_
  rw [splice_append, List.modify_eq_take_cons_drop h, flatten_append, flatten_cons, Row.whole,
    Row.text_withText, Row.ending_withText, List.append_assoc]

/-! ## Edits of one line -/

/-- Whether a text may take the place of the text of a line without a line feed being added and
without a carriage return getting into the end of the line. -/
def FitsFor (new old : Text) : Prop :=
  '\n' ∉ new ∧ (new.getLast? = some '\r' → old.getLast? = some '\r')

/-- A text that fits keeps a closed row closed. -/
theorem Row.Closed.withText {r : Row} {new : Text} (h : r.Closed) (hnew : FitsFor new r.text) :
    (r.withText new).Closed := by
  refine ⟨hnew.1, ?_⟩
  rcases h.2 with hending | ⟨hending, hreturn⟩
  · exact .inl hending
  · exact .inr ⟨hending, fun hlast => hreturn (hnew.2 hlast)⟩

/-- A text that fits keeps a table a table. -/
theorem IsTable.modify {rs : List Row} (h : IsTable rs) {n : Nat} {new : Text}
    (hnew : ∀ r ∈ rs[n]?, FitsFor new r.text) : IsTable (rs.modify n (·.withText new)) := by
  induction rs generalizing n with
  | nil => exact h.elim
  | cons r rs ih =>
      cases rs with
      | nil =>
          cases n with
          | zero => exact ⟨(hnew r rfl).1, h.2⟩
          | succ n =>
              rw [List.modify_succ_cons, List.modify_nil]
              exact h
      | cons next others =>
          cases n with
          | zero => exact ⟨h.1.withText (hnew r rfl), h.2⟩
          | succ n =>
              rw [List.modify_succ_cons]
              exact isTable_cons h.1 (ih h.2 hnew)

/-- Replacing the text of a line by one that fits changes the text of one row and no end. -/
theorem rows_replaceLine {t new : Text} {n : Nat} (h : n < (rows t).length)
    (hnew : FitsFor new (rows t)[n].text) :
    rows (replaceLine t n new) = (rows t).modify n (·.withText new) := by
  rw [replaceLine_eq h, rows_flatten]
  refine (isTable_rows t).modify fun r hr => ?_
  rw [List.getElem?_eq_getElem h, Option.mem_some] at hr
  exact hr ▸ hnew

/-- The lines of a text hold no line feeds. -/
theorem not_mem_text {t : Text} {n : Nat} (h : n < (rows t).length) : '\n' ∉ (rows t)[n].text := by
  by_cases hlast : (rows t).length ≤ n + 1
  · exact ((isTable_rows t).unended h hlast).1
  · exact ((isTable_rows t).closed (Nat.lt_of_not_le hlast)).1

/-! ## How many lines there are -/

/-- Behind the last row a line would start and end where the text ends. -/
theorem lineStart_and_lineEnd_of_le {t : Text} {n : Nat} (h : (rows t).length ≤ n) :
    lineStart t n = t.length ∧ lineEnd t n = t.length := by
  constructor
  · rw [lineStart_eq, List.take_of_length_le h, flatten_rows]
  · have hcount : lineCount t ≤ n + 1 := by
      by_cases ht : t = []
      · simp [ht]
      · rw [lineCount_eq ht]
        exact Nat.le_succ_of_le h
    rw [lineEnd_eq_ite, if_pos hcount]

/-- A line does not end before it starts. -/
theorem lineStart_le_lineEnd (t : Text) (n : Nat) : lineStart t n ≤ lineEnd t n := by
  by_cases h : n < (rows t).length
  · rw [lineEnd_eq h]
    exact Nat.le_add_right _ _
  · obtain ⟨hstart, hend⟩ := lineStart_and_lineEnd_of_le (Nat.le_of_not_lt h)
    exact Nat.le_of_eq (hstart.trans hend.symm)

/-- No line holds a line feed, and one that there is not holds nothing. -/
theorem feed_not_mem_lineText (t : Text) (n : Nat) : '\n' ∉ lineText t n := by
  by_cases h : n < (rows t).length
  · rw [lineText_eq h]
    exact not_mem_text h
  · obtain ⟨hstart, hend⟩ := lineStart_and_lineEnd_of_le (Nat.le_of_not_lt h)
    simp [lineText, slice, hstart, hend]

/-- The line feeds of an edited text: those of the new stretch stand for those of the old one. -/
theorem count_splice_add {t : Text} {start stop : Nat} (h : start ≤ stop) (new : Text) :
    (splice t start stop new).count '\n' + (slice t start stop).count '\n'
      = t.count '\n' + new.count '\n' := by
  -- The text is itself with the stretch put in its own place.
  have hself := congrArg (List.count '\n') (splice_slice (t := t) h)
  rw [splice, List.count_append, List.count_append] at hself
  rw [splice, List.count_append, List.count_append]
  omega

/-- No line feed is lost where a stretch without one is replaced. -/
theorem count_le_count_splice {t : Text} {start stop : Nat} (h : start ≤ stop)
    (hfeed : '\n' ∉ slice t start stop) (new : Text) :
    t.count '\n' ≤ (splice t start stop new).count '\n' := by
  have hcount := count_splice_add (t := t) h new
  rw [List.count_eq_zero_of_not_mem hfeed] at hcount
  omega

/-- No line feed is lost where the text of a line is replaced. -/
theorem count_le_count_replaceLine (t : Text) (n : Nat) (new : Text) :
    t.count '\n' ≤ (replaceLine t n new).count '\n' :=
  count_le_count_splice (lineStart_le_lineEnd t n) (feed_not_mem_lineText t n) new

/-- A text with a line that is not empty is not empty. -/
theorem replaceLine_ne_nil {new : Text} (h : new ≠ []) (t : Text) (n : Nat) :
    replaceLine t n new ≠ [] := by
  intro hnil
  rw [replaceLine, splice, List.append_eq_nil_iff, List.append_eq_nil_iff] at hnil
  exact h hnil.1.2

/-- A text that keeps its line feeds, and does not become empty, keeps its lines. -/
theorem lineCount_le_of_count_le {t u : Text} (hfeeds : t.count '\n' ≤ u.count '\n')
    (hne : t ≠ [] → u ≠ []) : lineCount t ≤ lineCount u := by
  by_cases ht : t = []
  · simp [ht]
  · rw [lineCount_of_ne_nil ht, lineCount_of_ne_nil (hne ht)]
    exact Nat.succ_le_succ hfeeds

end LintMend.Text

import LintMend.Proofs.Text.LineEdits
import Mathlib.Data.List.Basic

/-! # Texts without carriage returns

Such a text is its lines with a line feed between neighbours.
* `IsPlain`, `ArePlain`, `unlines`: the lines that such a text can have, and the text with these
  lines.
* `feedPieces_unlines`, `unlines_feedPieces`: texts and their lines determine each other.
* `lineTexts_unlines`, `lineEndings_unlines`: the lines of such a text, and what ends them.
* `ended`, `unlines_ended`: the lines of the text with a line feed at its end. -/

namespace LintMend.Text

/-- Whether a text is one line that holds no carriage return. -/
structure IsPlain (l : Text) : Prop where
  /-- It holds no line feed. -/
  feed : '\n' ∉ l
  /-- It holds no carriage return. -/
  carriage : '\r' ∉ l

/-- Whether some lines are those of a text without carriage returns. -/
structure ArePlain (ls : List Text) : Prop where
  /-- There is a line. -/
  ne_nil : ls ≠ []
  /-- Each of them is plain. -/
  plain : ∀ l ∈ ls, IsPlain l

/-- The text with these lines. -/
def unlines (ls : List Text) : Text := join ['\n'] ls

@[simp] theorem unlines_singleton (l : Text) : unlines [l] = l := rfl

theorem unlines_cons (l : Text) {others : List Text} (h : others ≠ []) :
    unlines (l :: others) = l ++ '\n' :: unlines others := by
  rw [unlines, join_cons_of_ne_nil _ _ h, List.append_assoc]
  rfl

/-- A row that others follow ends with a line feed, and with nothing else if its line holds no
carriage return. -/
theorem rowsOfPieces_cons {l : Text} {others : List Text} (hl : '\r' ∉ l) (hne : others ≠ []) :
    rowsOfPieces (l :: others) = ⟨l, ['\n']⟩ :: rowsOfPieces others := by
  obtain ⟨next, others, rfl⟩ := List.exists_cons_of_ne_nil hne
  have hlast : l.getLast? ≠ some '\r' := fun hlast => hl (List.mem_of_getLast? hlast)
  rw [rowsOfPieces, Row.ofPiece, if_neg hlast]

/-- A text is the text with its lines. -/
@[simp] theorem unlines_feedPieces (t : Text) : unlines (feedPieces t) = t := join_pieces '\n' t

/-- A text without carriage returns has plain lines. -/
theorem arePlain_feedPieces {t : Text} (h : '\r' ∉ t) : ArePlain (feedPieces t) where
  ne_nil := pieces_ne_nil _ t
  plain l hl :=
    { feed := fun hmem => absurd (of_mem_pieces hl hmem).2 (by decide)
      carriage := fun hmem => h (of_mem_pieces hl hmem).1 }

namespace ArePlain

variable {ls : List Text}

/-- Lines after the first are plain. -/
theorem of_cons {l next : Text} {others : List Text} (h : ArePlain (l :: next :: others)) :
    ArePlain (next :: others) where
  ne_nil := List.cons_ne_nil next others
  plain m hm := h.plain m (List.mem_cons_of_mem l hm)

end ArePlain

section Plain

variable {ls : List Text} (h : ArePlain ls)
include h

/-- The lines of the text with some plain lines are these lines. -/
theorem feedPieces_unlines : feedPieces (unlines ls) = ls := by
  induction ls with
  | nil => exact absurd rfl h.ne_nil
  | cons l others ih =>
      have hl : '\n' ∉ l := (h.plain l List.mem_cons_self).feed
      cases others with
      | nil => exact pieces_of_not_mem hl
      | cons next others =>
          rw [unlines_cons l (List.cons_ne_nil next others)]
          exact (pieces_append_cons hl _).trans (congrArg (l :: ·) (ih h.of_cons))

/-- The text with some plain lines holds no carriage return. -/
theorem not_mem_unlines : '\r' ∉ unlines ls := by
  intro hmem
  rcases mem_of_mem_join hmem with hfeed | ⟨l, hl, hmem⟩
  · exact absurd hfeed (by decide)
  · exact (h.plain l hl).carriage hmem

/-- Only one empty line makes an empty text. -/
theorem unlines_ne_nil (hne : ls ≠ [[]]) : unlines ls ≠ [] := by
  intro hnil
  refine hne ?_
  rw [← feedPieces_unlines h, hnil]
  rfl

/-- The rows of a text with some plain lines end with a line feed alone. -/
theorem rows_unlines : rows (unlines ls) = rowsOfPieces ls := by
  rw [rows, feedPieces_unlines h]

/-- The texts of the rows of plain lines are the lines. -/
theorem map_text_rowsOfPieces : (rowsOfPieces ls).map Row.text = ls := by
  induction ls with
  | nil => rfl
  | cons l others ih =>
      cases others with
      | nil => rfl
      | cons next others =>
          have hl := (h.plain l List.mem_cons_self).carriage
          rw [rowsOfPieces_cons hl (List.cons_ne_nil next others), List.map_cons, ih h.of_cons]

/-! ## The line table -/

/-- The lines of a text with some plain lines, unless it is empty. -/
theorem lineTexts_unlines (hne : ls ≠ [[]]) : lineTexts (unlines ls) = ls := by
  rw [lineTexts_eq (unlines_ne_nil h hne), rows_unlines h, map_text_rowsOfPieces h]

/-- A line feed ends every line but the last. -/
theorem lineEndings_unlines :
    lineEndings (unlines ls) = List.replicate (ls.length - 1) ['\n'] ++ [[]] := by
  rw [lineEndings, rows_unlines h]
  induction ls with
  | nil => exact absurd rfl h.ne_nil
  | cons l others ih =>
      cases others with
      | nil => rfl
      | cons next others =>
          have hl := (h.plain l List.mem_cons_self).carriage
          rw [rowsOfPieces_cons hl (List.cons_ne_nil next others), List.map_cons, ih h.of_cons]
          rfl

end Plain

/-! ## Ending the last line -/

/-- The lines of the text with a line feed at its end. -/
def ended (ls : List Text) : List Text := if ls.getLast? = some [] then ls else ls ++ [[]]

/-- A line feed stands between two lists of lines. -/
theorem unlines_append {ls others : List Text} (hls : ls ≠ []) (hothers : others ≠ []) :
    unlines (ls ++ others) = unlines ls ++ '\n' :: unlines others := by
  induction ls with
  | nil => exact absurd rfl hls
  | cons l rest ih =>
      cases rest with
      | nil => exact unlines_cons l hothers
      | cons next rest =>
          rw [List.cons_append, unlines_cons l (by simp), unlines_cons l (by simp),
            ih (List.cons_ne_nil next rest), List.append_assoc]
          rfl

/-- The last line is empty when the lines have been ended. -/
@[simp] theorem getLast?_ended (ls : List Text) : (ended ls).getLast? = some [] := by
  rw [ended]
  split
  · next h => exact h
  · simp

/-- Lines are ended once. -/
@[simp] theorem ended_ended (ls : List Text) : ended (ended ls) = ended ls := by
  rw [ended, if_pos (getLast?_ended ls)]

/-- Ending some lines leaves those before a line that is not empty alone. -/
theorem ended_append_cons {front back : List Text} {l : Text} (hl : l ≠ []) :
    ended (front ++ l :: back) = front ++ l :: ended back := by
  cases back with
  | nil =>
      rw [ended, if_neg (by simpa using hl), ended, if_neg (by simp), List.append_assoc]
      rfl
  | cons m back =>
      have hlast : (front ++ l :: m :: back).getLast? = (m :: back).getLast? := by
        rw [List.getLast?_append_of_ne_nil _ (List.cons_ne_nil l _), List.getLast?_cons_cons]
      rw [ended, ended, hlast]
      split
      · rfl
      · rw [List.append_assoc]
        rfl

/-- Plain lines stay plain when they are ended. -/
theorem arePlain_ended {ls : List Text} (h : ArePlain ls) : ArePlain (ended ls) := by
  rw [ended]
  split
  · exact h
  · refine ⟨by simp, List.forall_mem_append.2 ⟨h.plain, List.forall_mem_singleton.2 ?_⟩⟩
    exact ⟨List.not_mem_nil, List.not_mem_nil⟩

/-- A text that is not empty ends with a line feed exactly if its last line is empty. -/
theorem getLast?_unlines_eq_feed_iff {ls : List Text} (h : ArePlain ls) (hne : ls ≠ [[]]) :
    (unlines ls).getLast? = some '\n' ↔ ls.getLast? = some [] := by
  -- The last line holds no line feed itself, so only the one before it can be the last character.
  obtain ⟨front, last, rfl⟩ : ∃ front last, ls = front ++ [last] :=
    ⟨_, _, (List.dropLast_concat_getLast h.ne_nil).symm⟩
  have hlast : last.getLast? ≠ some '\n' := fun hfeed =>
    (h.plain last (by simp)).feed (List.mem_of_getLast? hfeed)
  rw [List.getLast?_concat, Option.some_inj]
  by_cases hfront : front = []
  · subst hfront
    refine iff_of_false hlast fun hnil => hne ?_
    rw [hnil, List.nil_append]
  · rw [unlines_append hfront (List.cons_ne_nil last []), unlines_singleton,
      List.getLast?_append_of_ne_nil _ (List.cons_ne_nil _ last)]
    cases last with
    | nil => simp
    | cons c last =>
        rw [List.getLast?_cons_cons]
        exact iff_of_false hlast (List.cons_ne_nil c last)

/-- Ending the lines of a text is ending the text. -/
theorem unlines_ended {ls : List Text} (h : ArePlain ls) (hne : ls ≠ [[]]) :
    unlines (ended ls)
      = if (unlines ls).getLast? = some '\n' then unlines ls else unlines ls ++ ['\n'] := by
  rw [ended]
  by_cases hlast : ls.getLast? = some []
  · rw [if_pos hlast, if_pos ((getLast?_unlines_eq_feed_iff h hne).2 hlast)]
  · rw [if_neg hlast, if_neg fun hfeed => hlast ((getLast?_unlines_eq_feed_iff h hne).1 hfeed),
      unlines_append h.ne_nil (List.cons_ne_nil _ _)]
    rfl

end LintMend.Text

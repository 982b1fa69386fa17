import LintMend.Proofs.Mend.Renaming

/-! # Putting a guard around a text

What the fix of a header guard does to a document that has none: the text stays whole between the
lines of the new guard, and the fix has nothing more to do. The lines are those of any text, also of
one that does not end its last line, or ends it with a carriage return that the guard makes a part
of what ends it.
* `Guard.filled`, `Guard.lineTexts_wrap`: the text between the lines of the guard, and all lines.
* `Guard.IsWrapped`: a text that is another one with a guard around it.
* `Fix.apply_headerGuard_wraps`: the fix puts a guard around the text, and then leaves the document
  alone, whether it asks for the name again or for none, and whatever the path is. -/

namespace LintMend

open Text

namespace Guard

variable {name t : Text} {n : Nat}

/-! ## Lines -/

/-- The lines of a text that is put between those of a guard. -/
def filledLines (t : Text) : List Text := (rows (filled t)).map Row.text

/-- The last of these lines is empty. -/
theorem getLast?_filledLines (t : Text) : (filledLines t).getLast? = some [] := by
  obtain ⟨front, last, hrows, hlast⟩ := exists_rows_concat t
  rw [filledLines, filled]
  by_cases hfeed : t = [] ∨ t.getLast? = some '\n'
  · rw [if_pos hfeed] at hlast ⊢
    rw [List.append_nil, hrows, List.map_append, List.map_singleton, List.getLast?_concat, hlast]
  · rw [if_neg hfeed, rows_append_feed, rows_of_not_mem List.not_mem_nil, List.map_append,
      List.map_singleton, List.getLast?_concat]

/-- So they need not be ended. -/
theorem ended_filledLines (t : Text) : ended (filledLines t) = filledLines t := by
  rw [ended, if_pos (getLast?_filledLines t)]

/-- A line of the text is one of these lines, unless it is the last one and loses a carriage return
to what ends it. -/
theorem getElem?_filledLines (hn : n < lineCount t)
    (hlast : n + 1 < lineCount t ∨ t.getLast? ≠ some '\r') :
    (filledLines t)[n]? = some (lineText t n) := by
  have ht := (ne_nil_and_lt_length_rows hn).1
  have hline := getElem?_lineTexts hn
  rw [lineTexts_eq ht] at hline
  rw [filledLines, filled]
  by_cases hfeed : t = [] ∨ t.getLast? = some '\n'
  · rw [if_pos hfeed, List.append_nil, hline]
  · obtain ⟨front, last, hrows, hends⟩ := exists_rows_concat t
    rw [if_neg hfeed] at hends ⊢
    rw [lineCount_eq ht, hrows, List.length_append, List.length_singleton] at hn hlast
    rw [rows_append_feed, hrows, endRows_concat, List.append_assoc, List.map_append]
    rw [hrows, List.map_append] at hline
    by_cases hfront : n < front.length
    · rw [List.getElem?_append_left (by simpa using hfront)] at hline ⊢
      exact hline
    · -- the last row has no carriage return at its end to lose
      obtain rfl : n = front.length := by omega
      rw [List.getElem?_append_right (by simp), List.length_map, Nat.sub_self] at hline ⊢
      have hreturn : last.text.getLast? ≠ some '\r' := by
        rw [← hends]
        exact hlast.resolve_left (by omega)
      rw [Row.ofPiece, if_neg hreturn]
      exact hline

/-- The row of a plain line ends with the line feed alone. -/
theorem ofPiece_of_isPlain {l : Text} (h : IsPlain l) : Row.ofPiece l = ⟨l, ['\n']⟩ := by
  have hlast : l.getLast? ≠ some '\r' := fun hlast => h.carriage (List.mem_of_getLast? hlast)
  rw [Row.ofPiece, if_neg hlast]

/-- The rows of a text that a guard has been put around. -/
theorem rows_wrap (hword : IsWord name) (t : Text) :
    rows (wrap name t)
      = ⟨'#' :: ("ifndef".toList ++ ' ' :: name), ['\n']⟩
        :: ⟨'#' :: ("define".toList ++ ' ' :: name), ['\n']⟩ :: ⟨[], ['\n']⟩
        :: (endRows (rows (filled t)) ++ [⟨endifLine name, ['\n']⟩, ⟨[], []⟩]) := by
  have hifndef := isPlain_written Directive.isWord_ifndef hword
  have hdefine := isPlain_written Directive.isWord_define hword
  have hendif := isPlain_endifLine (isPlain_of_isWord hword)
  have hblank : ∀ rest, rows ('\n' :: rest) = ⟨[], ['\n']⟩ :: rows rest :=
    @rows_append_cons [] List.not_mem_nil
  rw [wrap_eq, rows_append_cons hifndef.feed, rows_append_cons hdefine.feed,
    hblank (filled t ++ '\n' :: (endifLine name ++ '\n' :: [])), rows_append_feed,
    rows_append_cons hendif.feed, rows_of_not_mem List.not_mem_nil, ofPiece_of_isPlain hifndef,
    ofPiece_of_isPlain hdefine, ofPiece_of_isPlain hendif]

/-- The lines of a text that a guard has been put around. -/
theorem lineTexts_wrap (hword : IsWord name) (t : Text) :
    lineTexts (wrap name t) = (wrapped name (filledLines t)).lines := by
  have hne : wrap name t ≠ [] := by simp [wrap_eq]
  -- the last row of what is put between has no text that it could lose to what ends it
  have hinner : (endRows (rows (filled t))).map Row.text = filledLines t := by
    obtain ⟨front, last, hrows, -⟩ := exists_rows_concat (filled t)
    have hlast := getLast?_filledLines t
    rw [filledLines, hrows, List.map_append, List.map_singleton, List.getLast?_concat] at hlast
    rw [filledLines, hrows, endRows_concat, List.map_append, List.map_append, List.map_singleton,
      List.map_singleton, Option.some.inj hlast]
    rfl
  rw [lineTexts_eq hne, rows_wrap hword]
  simp [hinner, wrapped, Cut.lines, ended_filledLines]

/-! ## Texts -/

/-- A text between the lines of a guard. -/
theorem wrap_eq_append (name t : Text) :
    wrap name t = "#ifndef ".toList ++ name ++ "\n#define ".toList ++ name ++ "\n\n".toList ++ t
      ++ (if t = [] ∨ t.getLast? = some '\n' then [] else ['\n'])
      ++ "\n#endif  // ".toList ++ name ++ ['\n'] := by
  have hfeed : "\n#endif  // ".toList = '\n' :: "#endif  // ".toList := by decide
  rw [wrap, hfeed, List.append_assoc _ _ name]
  rfl

/-- Whether a text is another one with a guard put around it, in which it stands whole. -/
structure IsWrapped (name t u : Text) : Prop where
  /-- The text is the other one between the lines of the guard, the last of its lines ended. -/
  eq_append : u = "#ifndef ".toList ++ name ++ "\n#define ".toList ++ name ++ "\n\n".toList ++ t
    ++ (if t = [] ∨ t.getLast? = some '\n' then [] else ['\n'])
    ++ "\n#endif  // ".toList ++ name ++ ['\n']
  /-- The guard is found on its first two lines. -/
  find : find? (lineTexts u) = some ⟨0, 1, name⟩
  /-- The last line that closes is the last one that has characters, which was put there. -/
  closing : ∃ last, lastEndif? (lineTexts u) = some last ∧ last + 2 = lineCount u
    ∧ lineText u last = "#endif  // ".toList ++ name
  /-- The lines of the other text come three lines further down, the last one perhaps without a
  carriage return at its end. -/
  inner : ∀ n, n < lineCount t → n + 1 < lineCount t ∨ t.getLast? ≠ some '\r' →
    lineText u (n + 3) = lineText t n

/-- A text with a guard put around it is such a text. -/
theorem isWrapped_wrap (hword : IsWord name) (t : Text) : IsWrapped name t (wrap name t) := by
  have htexts := lineTexts_wrap hword t
  -- the lines, cut at the closing one
  obtain ⟨front, hlength, hinner, hsplit⟩ : ∃ front : List Text,
      front.length = (filledLines t).length + 3 ∧ (∀ n, front[n + 3]? = (filledLines t)[n]?)
        ∧ lineTexts (wrap name t) = front ++ endifLine name :: [[]] := by
    refine ⟨('#' :: ("ifndef".toList ++ ' ' :: name)) :: ('#' :: ("define".toList ++ ' ' :: name))
      :: [] :: filledLines t, rfl, fun n => rfl, ?_⟩
    rw [htexts, Cut.lines, wrapped, ended_filledLines]
    rfl
  constructor
  · exact wrap_eq_append name t
  · rw [htexts, (names_wrapped hword _).find?]
    rfl
  · have hnil : ∀ m ∈ [([] : Text)], Directive.isEndif m = false := by decide
    refine ⟨front.length, ?_, ?_, ?_⟩
    · rw [hsplit, lastEndif?, lastEndifFrom_append_cons (isEndif_endifLine name) hnil,
        Nat.zero_add]
    · rw [← length_lineTexts, hsplit, List.length_append]
      rfl
    · rw [lineText_eq_getD, hsplit, List.getElem?_append_right (Nat.le_refl _), Nat.sub_self]
      rfl
  · intro n hn hlast
    have hline := getElem?_filledLines hn hlast
    have hlt := (List.getElem?_eq_some_iff.1 hline).1
    rw [lineText_eq_getD, hsplit, List.getElem?_append_left (by omega), hinner, hline]
    rfl

end Guard

namespace Fix

open Guard (IsWrapped)

variable {d e : Document} {asked : Option Text}

/-- A guard that has been put around a text is renamed to its own name without any effect. -/
theorem apply_headerGuard_wrap {name t : Text} (hword : IsWord name)
    (htext : e.text = Guard.wrap name t) (hname : guardName asked e = name) (line : Int) :
    (headerGuard asked).apply e line = ⟨e, none⟩ := by
  have hlines := Guard.lineTexts_wrap hword t
  have hnames := Guard.names_wrapped hword (Guard.filledLines t)
  have hrename := Guard.rename_eq_self hlines hnames
    (Guard.renamed_wrapped hword hword (.inl rfl) _)
  rw [← htext] at hlines hrename
  have hfind := hnames.find?
  rw [← hlines] at hfind
  rw [apply_headerGuard_of_find? hfind, hname, hrename]
  rw [Document.withText_text]
  rfl

/-- Naming the guard of a document that has none puts one around its text, which stands whole in it.
The document that is left is one in which the fix changes nothing, and neither does the fix that
asks for no name, wherever the document is. -/
theorem apply_headerGuard_wraps (hnone : Guard.find? (lineTexts d.text) = none)
    (hasked : ∀ word ∈ asked, IsWord word) :
    ∃ u, (∀ line, (headerGuard asked).apply d line = ⟨d.withText u, none⟩)
      ∧ IsWrapped (guardName asked d) d.text u
      ∧ ∀ e : Document, e.text = u → ∀ again, again = asked ∨ again = none →
          ∀ line, (headerGuard again).apply e line = ⟨e, none⟩ := by
  have hword := isWord_guardName hasked d
  have hwrapped := Guard.isWrapped_wrap hword d.text
  refine ⟨Guard.wrap (guardName asked d) d.text, fun line => ?_, hwrapped, ?_⟩
  · rw [apply, applyHeaderGuard, hnone]
  · intro e htext again hagain line
    have hfind : Guard.find? (lineTexts e.text) = some ⟨0, 1, guardName asked d⟩ := by
      rw [htext]
      exact hwrapped.find
    have hname := guardName_eq_of_find? hasked hfind rfl hagain
    exact apply_headerGuard_wrap hword htext hname line

/-- A header under the root of a project that asks for a word and does not define it, closes what it
has not opened, and does not end its last line. -/
def strayHeader : Document :=
  ⟨"#ifndef A_H\r\nint x;\n#endif // A_H".toList, some ⟨.here, ["inc".toList, "a-b.h".toList]⟩,
    some ⟨.here, []⟩, ["w".toList]⟩

/-- It gets a guard that is named for its path, and stands whole in it. -/
theorem apply_headerGuard_wraps_strayHeader :
    (Guard.find? (lineTexts strayHeader.text) = none ∧ ∀ word ∈ (none : Option Text), IsWord word)
    ∧ ∃ u, u = ("#ifndef INC_A_B_H_\n#define INC_A_B_H_\n\n#ifndef A_H\r\nint x;\n#endif // A_H\n"
          ++ "\n#endif  // INC_A_B_H_\n").toList
      ∧ (∀ line, (headerGuard none).apply strayHeader line = ⟨strayHeader.withText u, none⟩)
      ∧ IsWrapped "INC_A_B_H_".toList strayHeader.text u
      ∧ ∀ e : Document, e.text = u → ∀ line, (headerGuard none).apply e line = ⟨e, none⟩ := by
  have hnone : Guard.find? (lineTexts strayHeader.text) = none := by decide +kernel
  have hasked : ∀ word ∈ (none : Option Text), IsWord word := by simp
  obtain ⟨u, happly, hwrapped, hagain⟩ := apply_headerGuard_wraps hnone hasked
  have hname : guardName none strayHeader = "INC_A_B_H_".toList := by decide +kernel
  have hleft : (headerGuard none).apply strayHeader 0 = ⟨strayHeader.withText
      ("#ifndef INC_A_B_H_\n#define INC_A_B_H_\n\n#ifndef A_H\r\nint x;\n#endif // A_H\n"
        ++ "\n#endif  // INC_A_B_H_\n").toList, none⟩ := by decide +kernel
  rw [hname] at hwrapped
  refine ⟨⟨hnone, hasked⟩, u, ?_, happly, hwrapped, fun e he => hagain e he none (.inr rfl)⟩
  exact congrArg (fun m : Mended => m.document.text) ((happly 0).symm.trans hleft)

end Fix

end LintMend

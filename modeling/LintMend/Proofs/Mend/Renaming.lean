import LintMend.Proofs.Mend.SpecificFixes

/-! # Renaming a guard exactly

What the fix of a header guard does to a document that has one: the guard gets its name on its two
lines, the closing line is written anew, and nothing else changes, neither another line nor what
ends the lines.
* `Guard.IsNamed`: a text that is another one with the name of its guard written in place of the
  old one; `Guard.isNamed_written` says when that comes about.
* `Guard.IsRenamed`: the same for a name that is a word, which is then found again.
* `Guard.getElem?_closedLines_last`, `Guard.getElem?_renamedLines_of_ne`: the lines that change and
  those that stay.
* `Fix.apply_headerGuard_renames`: the fix renames the guard, and once it has it leaves the document
  alone. -/

namespace LintMend

open Text

namespace Guard

variable {ls : List Text} {g : Guard} {name t u : Text} {n : Nat}

/-! ## Lines by their numbers -/

/-- The last line that closes is written anew if it comes after the `#define`. -/
theorem getElem?_closedLines_last {last : Nat} (hlast : lastEndif? ls = some last)
    (hlt : g.defineLine < last) : (g.closedLines name ls)[last]? = some (endifLine name) := by
  have hline := lt_length_of_lastEndif? hlast
  rw [closedLines, hlast]
  dsimp only
  rw [if_pos hlt, List.getElem?_set_self hline]

/-- The lines that are not that one stay. -/
theorem getElem?_closedLines_of_ne
    (hn : ∀ last, lastEndif? ls = some last → g.defineLine < last → n ≠ last) :
    (g.closedLines name ls)[n]? = ls[n]? := by
  rw [closedLines]
  split
  · rfl
  · next last hlast =>
      split
      · next hlt => rw [List.getElem?_set_ne (Ne.symm (hn last hlast hlt))]
      · rfl

/-- A line that is not one of the two of a guard stays when the guard is renamed on these. -/
theorem getElem?_renamedLines_of_ne (hifndef : n ≠ g.ifndefLine) (hdefine : n ≠ g.defineLine) :
    (g.renamedLines name ls)[n]? = (g.closedLines name ls)[n]? := by
  rw [renamedLines, List.getElem?_modify_ne _ _ (Ne.symm hifndef),
    List.getElem?_modify_ne _ _ (Ne.symm hdefine)]

/-- On the two lines of a guard that is found its name is replaced. -/
theorem getElem?_renamedLines_of_find? (hfind : find? ls = some g)
    (hn : n = g.ifndefLine ∨ n = g.defineLine) :
    (g.renamedLines name ls)[n]? = ls[n]?.map (replaceWord g.name name) := by
  obtain ⟨k, rfl, -, hguard⟩ := find?_eq_some_iff.1 hfind
  obtain ⟨old, rfl⟩ : ∃ old, k.guard old = g := ⟨_, hguard⟩
  -- the guard of the lines that have been renamed stands where it stood
  have hifndef := Cut.getElem?_ifndefLine (k.renamed old name) old
  have hdefine := Cut.getElem?_defineLine (k.renamed old name) old
  rw [renamedLines_lines]
  rcases hn with rfl | rfl
  · rw [Cut.getElem?_ifndefLine]
    exact hifndef
  · rw [Cut.getElem?_defineLine]
    exact hdefine

/-- Writing the name of the guard that is found changes the lines by their numbers, and leaves alone
what ends them. -/
theorem lineTexts_written (hfind : find? (lineTexts t) = some g) (hname : IsName name) :
    lineTexts (g.written name t) = g.renamedLines name (lineTexts t)
      ∧ lineEndings (g.written name t) = lineEndings t := by
  obtain ⟨k, hlines, hnames, hguard⟩ := find?_eq_some_iff.1 hfind
  obtain ⟨htexts, hends⟩ := written_lines hlines.symm hnames hname
  rw [hguard] at htexts hends
  refine ⟨?_, hends⟩
  rw [htexts, ← hlines, ← renamedLines_lines, hguard]

/-- Renaming the guard that is found does not fail, changes the lines by their numbers, and leaves
alone what ends them. -/
theorem lineTexts_rename (hfind : find? (lineTexts t) = some g) (hword : IsWord name) :
    (g.rename name t).2 = none
      ∧ lineTexts (g.rename name t).1 = g.renamedLines name (lineTexts t)
      ∧ lineEndings (g.rename name t).1 = lineEndings t := by
  rw [rename_of_isWord hword]
  exact ⟨rfl, lineTexts_written hfind (isName_of_isWord hword)⟩

/-! ## Texts -/

/-- Whether a text is another one with the name of its guard written in place of the old one, and
with nothing else changed. -/
structure IsNamed (g : Guard) (name t u : Text) : Prop where
  /-- There are as many lines as before. -/
  lineCount : lineCount u = lineCount t
  /-- On the two lines of the guard the name stands wherever the old one stood as a whole word. -/
  opening : ∀ n, n = g.ifndefLine ∨ n = g.defineLine →
    lineText u n = replaceWord g.name name (lineText t n)
  /-- The last line that closes is written anew if it comes after them. -/
  closing : ∀ last, lastEndif? (lineTexts t) = some last → g.defineLine < last →
    lineText u last = "#endif  // ".toList ++ name
  /-- All other lines have the text that they had. -/
  others : ∀ n, n ≠ g.ifndefLine → n ≠ g.defineLine →
    (∀ last, lastEndif? (lineTexts t) = some last → g.defineLine < last → n ≠ last) →
    lineText u n = lineText t n
  /-- All lines end as they did. -/
  endings : ∀ n, lineEnding u n = lineEnding t n

/-- Writing the name of the guard that is found gives such a text. -/
theorem isNamed_written (hfind : find? (lineTexts t) = some g) (hname : IsName name) :
    IsNamed g name t (g.written name t) := by
  obtain ⟨htexts, hends⟩ := lineTexts_written hfind hname
  obtain ⟨k, hlines, -, hguard⟩ := find?_eq_some_iff.1 hfind
  generalize g.written name t = u at htexts hends
  constructor
  · rw [← length_lineTexts, ← length_lineTexts, htexts, ← hlines, ← hguard, renamedLines_lines,
      Cut.length_lines_renamed]
  · intro n hn
    rw [lineText_eq_getD, lineText_eq_getD, htexts, getElem?_renamedLines_of_find? hfind hn]
    cases (lineTexts t)[n]? <;> rfl
  · intro last hlast hlt
    have horder : g.ifndefLine < g.defineLine := by
      rw [← hguard]
      exact k.ifndefLine_lt_defineLine _
    rw [lineText_eq_getD, htexts, getElem?_renamedLines_of_ne,
      getElem?_closedLines_last hlast hlt]
    · rfl
    · omega
    · omega
  · intro n hifndef hdefine hclosing
    rw [lineText_eq_getD, lineText_eq_getD, htexts, getElem?_renamedLines_of_ne hifndef hdefine,
      getElem?_closedLines_of_ne hclosing]
  · intro n
    rw [lineEnding_eq_getD, lineEnding_eq_getD, hends]

/-- Whether a text is another one with its guard renamed and its closing line written anew, and with
nothing else changed. -/
structure IsRenamed (g : Guard) (name t u : Text) : Prop where
  /-- There are as many lines as before. -/
  lineCount : lineCount u = lineCount t
  /-- The guard is found on the same lines under its new name. -/
  find : find? (lineTexts u) = some { g with name := name }
  /-- On these lines the runs of word characters that are the old name are the new one, and all
  other runs stay. -/
  opening : ∀ n, n = g.ifndefLine ∨ n = g.defineLine →
    runs (lineText u n) = (runs (lineText t n)).map fun run => if run = g.name then name else run
  /-- The last line that closes is written anew if it comes after them. -/
  closing : ∀ last, lastEndif? (lineTexts t) = some last → g.defineLine < last →
    lineText u last = "#endif  // ".toList ++ name
  /-- All other lines have the text that they had. -/
  others : ∀ n, n ≠ g.ifndefLine → n ≠ g.defineLine →
    (∀ last, lastEndif? (lineTexts t) = some last → g.defineLine < last → n ≠ last) →
    lineText u n = lineText t n
  /-- All lines end as they did. -/
  endings : ∀ n, lineEnding u n = lineEnding t n

/-- Renaming the guard that is found gives such a text, and does not fail. -/
theorem isRenamed_rename (hfind : find? (lineTexts t) = some g) (hword : IsWord name)
    (hrename : Renamable g.name name) :
    (g.rename name t).2 = none ∧ IsRenamed g name t (g.rename name t).1 := by
  have hname := isName_of_isWord hword
  obtain ⟨htexts, -⟩ := lineTexts_written hfind hname
  have hnamed := isNamed_written hfind hname
  obtain ⟨k, hlines, hnames, hguard⟩ := find?_eq_some_iff.1 hfind
  have hcut : lineTexts (g.written name t) = (k.renamed g.name name).lines := by
    rw [htexts, ← hlines, ← renamedLines_lines, hguard]
  rw [rename_of_isWord hword]
  refine ⟨rfl, hnamed.lineCount, ?_, ?_, hnamed.closing, hnamed.others, hnamed.endings⟩
  · rw [hcut, (hnames.renamed hword hrename).find?, ← hguard]
    rfl
  · intro n hn
    rw [hnamed.opening n hn]
    exact runs_replaceWord hnames.isWord hword _

/-- A guard that has just been renamed is renamed to the same name without any effect. -/
theorem rename_rename (hfind : find? (lineTexts t) = some g) (hword : IsWord name)
    (hrename : Renamable g.name name) :
    { g with name := name }.rename name (g.rename name t).1 = ((g.rename name t).1, none) := by
  obtain ⟨k, hlines, hnames, hguard⟩ := find?_eq_some_iff.1 hfind
  obtain ⟨-, htexts, -⟩ := rename_lines hlines.symm hnames hword
  rw [hguard] at htexts
  have hagain := rename_eq_self htexts (hnames.renamed hword hrename)
    (Cut.renamed_renamed_self k g.name name)
  rw [← hguard] at hagain ⊢
  exact hagain

end Guard

namespace Fix

open Guard (IsRenamed)

variable {d : Document} {asked : Option Text} {g : Guard}

/-- The fix of a document with a guard renames that guard. -/
theorem apply_headerGuard_of_find? (hfind : Guard.find? (lineTexts d.text) = some g)
    (line : Int) :
    (headerGuard asked).apply d line
      = ⟨d.withText (g.rename (guardName asked d) d.text).1,
          (g.rename (guardName asked d) d.text).2.map .template⟩ := by
  rw [apply, applyHeaderGuard, hfind]

/-- In a document whose guard has the name that a fix resolves to, the fix resolves to it again, and
so does the one that asks for no name. -/
theorem guardName_eq_of_find? {e : Document} {again : Option Text}
    (hasked : ∀ word ∈ asked, IsWord word) (hfind : Guard.find? (lineTexts e.text) = some g)
    (hname : g.name = guardName asked d) (hagain : again = asked ∨ again = none) :
    guardName again e = guardName asked d := by
  have hdefault : guardName none e = guardName asked d := by
    rw [guardName_none, hfind]
    exact hname
  rcases hagain with rfl | rfl
  · cases again with
    | some word => rw [guardName_some (hasked word rfl).1, guardName_some (hasked word rfl).1]
    | none => exact hdefault
  · exact hdefault

/-- Naming the guard of a document that has one renames it: its name, unless that is a keyword of
its directives, becomes the one that the fix resolves to, wherever it stands on the two lines, the
closing line names it, and all else in the text is as before. The document that is left is one in
which the fix changes nothing. -/
theorem apply_headerGuard_renames (hfind : Guard.find? (lineTexts d.text) = some g)
    (hkeyword : g.name ≠ "define".toList ∧ g.name ≠ "ifndef".toList)
    (hasked : ∀ word ∈ asked, IsWord word) :
    ∃ u, (∀ line, (headerGuard asked).apply d line = ⟨d.withText u, none⟩)
      ∧ IsRenamed g (guardName asked d) d.text u
      ∧ ∀ line, (headerGuard asked).apply (d.withText u) line = ⟨d.withText u, none⟩ := by
  have hword := isWord_guardName hasked d
  have hrename : Guard.Renamable g.name (guardName asked d) := .inr hkeyword
  obtain ⟨hfault, hrenamed⟩ := Guard.isRenamed_rename hfind hword hrename
  refine ⟨(g.rename (guardName asked d) d.text).1, fun line => ?_, hrenamed, fun line => ?_⟩
  · rw [apply_headerGuard_of_find? hfind, hfault]
    rfl
  · have hagain := Guard.rename_rename hfind hword hrename
    have hname : guardName asked (d.withText (g.rename (guardName asked d) d.text).1)
        = guardName asked d := guardName_eq_of_find? hasked hrenamed.find rfl (.inl rfl)
    rw [apply_headerGuard_of_find? hrenamed.find, hname, Document.text_withText, hagain]
    rfl

/-- A header whose guard names itself in a comment and in its value, whose lines do not all end in
the same way, and which closes something before it. -/
def mixedHeader : Document :=
  ⟨"#endif // A_H\n # ifndef A_H // A_H\r\n\n#define A_H (A_H,A_HX)\nint x;\n# endif\r\n".toList,
    none, none, []⟩

/-- Only the guard and its last closing line change. -/
theorem apply_headerGuard_renames_mixedHeader :
    (Guard.find? (lineTexts mixedHeader.text) = some ⟨1, 3, "A_H".toList⟩
      ∧ ("A_H".toList ≠ "define".toList ∧ "A_H".toList ≠ "ifndef".toList)
      ∧ ∀ word ∈ some "B_H_".toList, IsWord word)
    ∧ ∃ u, u = ("#endif // A_H\n # ifndef B_H_ // B_H_\r\n\n#define B_H_ (B_H_,A_HX)\nint x;\n"
          ++ "#endif  // B_H_\r\n").toList
      ∧ (∀ line, (headerGuard (some "B_H_".toList)).apply mixedHeader line
          = ⟨mixedHeader.withText u, none⟩)
      ∧ IsRenamed ⟨1, 3, "A_H".toList⟩ "B_H_".toList mixedHeader.text u := by
  have hfind : Guard.find? (lineTexts mixedHeader.text) = some ⟨1, 3, "A_H".toList⟩ := by
    decide +kernel
  have hkeyword : "A_H".toList ≠ "define".toList ∧ "A_H".toList ≠ "ifndef".toList := by decide
  have hasked : ∀ word ∈ some "B_H_".toList, IsWord word := by decide
  obtain ⟨u, happly, hrenamed, -⟩ := apply_headerGuard_renames hfind hkeyword hasked
  have hleft : (headerGuard (some "B_H_".toList)).apply mixedHeader 0 = ⟨mixedHeader.withText
      ("#endif // A_H\n # ifndef B_H_ // B_H_\r\n\n#define B_H_ (B_H_,A_HX)\nint x;\n"
        ++ "#endif  // B_H_\r\n").toList, none⟩ := by decide +kernel
  refine ⟨⟨hfind, hkeyword, hasked⟩, u, ?_, happly, hrenamed⟩
  exact congrArg (fun m : Mended => m.document.text) ((happly 0).symm.trans hleft)

end Fix

end LintMend

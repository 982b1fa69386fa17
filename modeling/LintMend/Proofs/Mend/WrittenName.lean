import LintMend.Proofs.Mend.Wrapping
import LintMend.Proofs.Text.Splicing

/-! # The name of a guard as it is asked for

A guard is named in three places. Around a file that had none, and on a closing line, the name that
is asked for is taken as it is; on the two lines of a guard that is there it is a replacement
template. So the three agree exactly for the names that as templates stand for themselves. Other
names put something else on the two lines, or the fix fails when the closing line has already been
written.
* `Guard.IsNamed.eq`, `Guard.weight_opened_lt`: only one text has the name of a guard written in it,
  and what stands for less than the name makes a text of less weight.
* `Guard.isNamed_rename_iff`: renaming writes the name exactly if it stands for itself.
* `Guard.IsClosed`: a text of which no more than the closing line has been written.
* `Fix.apply_headerGuard_writes`: what the fix of a header guard writes in the three places.
* `Fix.fault_apply_headerGuard_eq_some_iff`, `Fix.apply_headerGuard_fails`: when it fails, and what
  it leaves then. -/

namespace LintMend

open Text

/-! ## Weights -/

namespace Template

variable {heavy : Nat} {new other : Text}

/-- Runs weigh no more when what a word is replaced by weighs no more. -/
theorem weight_flatMap_le (h : weight heavy new ≤ weight heavy other) (old : Text)
    (rs : List Text) :
    weight heavy (rs.flatMap fun run => if run = old then new else run)
      ≤ weight heavy (rs.flatMap fun run => if run = old then other else run) := by
  induction rs with
  | nil => exact Nat.le_refl _
  | cons run others ih =>
      rw [List.flatMap_cons, List.flatMap_cons, weight_append, weight_append]
      refine Nat.add_le_add ?_ ih
      split
      · exact h
      · exact Nat.le_refl _

/-- A text weighs less when what a word in it is replaced by weighs less. -/
theorem weight_replaceWord_lt {old t : Text} (h : weight heavy new < weight heavy other)
    (hold : old ∈ runs t) :
    weight heavy (replaceWord old new t) < weight heavy (replaceWord old other t) := by
  -- one place of the word makes the difference, and no other place makes up for it
  obtain ⟨front, back, hruns⟩ := List.append_of_mem hold
  have hfront := weight_flatMap_le (Nat.le_of_lt h) old front
  have hback := weight_flatMap_le (Nat.le_of_lt h) old back
  rw [replaceWord, replaceWord, hruns, List.flatMap_append, List.flatMap_append, List.flatMap_cons,
    List.flatMap_cons, if_pos rfl, if_pos rfl]
  simp only [weight_append]
  omega

/-- The weight of a text with a line replaced: the new text stands for the line. -/
theorem weight_replaceLine (heavy : Nat) (t : Text) (n : Nat) (new : Text) :
    weight heavy (replaceLine t n new) + weight heavy (lineText t n)
      = weight heavy t + weight heavy new := by
  have hself := congrArg (weight heavy) (splice_slice (t := t) (lineStart_le_lineEnd t n))
  rw [splice, weight_append, weight_append] at hself
  rw [replaceLine, splice, weight_append, weight_append, lineText]
  omega

end Template

namespace Guard

variable {g : Guard} {name new t u v : Text} {n last : Nat}

/-! ## Renaming -/

/-- A closing line after the `#define` is written. -/
theorem renewEndif_of_lt (hlast : lastEndif? (lineTexts t) = some last)
    (hlt : g.defineLine < last) (name : Text) :
    g.renewEndif name t = replaceLine t last (endifLine name) := by
  rw [renewEndif, hlast]
  exact if_pos hlt

/-- If there is none, nothing is. -/
theorem renewEndif_of_forall_le
    (h : ∀ last, lastEndif? (lineTexts t) = some last → last ≤ g.defineLine) (name : Text) :
    g.renewEndif name t = t := by
  rw [renewEndif]
  split
  · rfl
  · next last hlast => exact if_neg (Nat.not_lt_of_le (h last hlast))

/-- The guard that is found has its two lines in order, and its name is a word and a run of the
first of them. -/
theorem lines_of_find? (hfind : find? (lineTexts t) = some g) :
    g.ifndefLine < g.defineLine ∧ g.defineLine < lineCount t ∧ IsWord g.name
      ∧ g.name ∈ runs (lineText t g.ifndefLine) := by
  obtain ⟨k, hlines, hnames, hguard⟩ := find?_eq_some_iff.1 hfind
  have hifndef := Cut.getElem?_ifndefLine k g.name
  have hdefine := Cut.getElem?_defineLine k g.name
  have horder := Cut.ifndefLine_lt_defineLine k g.name
  rw [hguard, hlines] at hifndef hdefine
  rw [hguard] at horder
  refine ⟨horder, ?_, hnames.isWord, ?_⟩
  · rw [← length_lineTexts]
    exact (List.getElem?_eq_some_iff.1 hdefine).1
  · rw [lineText_eq_getD, hifndef]
    exact hnames.mem_runs

/-! ## Names on the lines -/

/-- The lines say which text it is that has the name of a guard written in it. -/
theorem IsNamed.eq (hu : IsNamed g name t u) (hv : IsNamed g name t v) : u = v := by
  have hlines : ∀ n, lineText u n = lineText v n := by
    intro n
    by_cases hopening : n = g.ifndefLine ∨ n = g.defineLine
    · rw [hu.opening n hopening, hv.opening n hopening]
    · rw [not_or] at hopening
      by_cases hclosing : ∃ last, lastEndif? (lineTexts t) = some last ∧ g.defineLine < last
        ∧ n = last
      · obtain ⟨last, hlast, hlt, rfl⟩ := hclosing
        rw [hu.closing n hlast hlt, hv.closing n hlast hlt]
      · have hother : ∀ last, lastEndif? (lineTexts t) = some last → g.defineLine < last →
            n ≠ last := fun last hlast hlt hn => hclosing ⟨last, hlast, hlt, hn⟩
        rw [hu.others n hopening.1 hopening.2 hother, hv.others n hopening.1 hopening.2 hother]
  rw [← flatMap_lines u, ← flatMap_lines v, hu.lineCount, hv.lineCount]
  refine List.flatMap_congr fun n _ => ?_
  rw [hlines, hu.endings, hv.endings]

/-- Replacing a word on a line leaves the lines before it alone. -/
theorem lineText_renameOn_of_lt {m : Nat} (hm : m < n) (hn : n < lineCount t) (old new : Text) :
    lineText (renameOn n old new t) m = lineText t m := by
  have hkeeps := keepsLines_splice (t := t) (lineStart_le_lineEnd t n)
    (replaceWord old new (lineText t n))
  exact (hkeeps.before m (Nat.lt_of_le_of_lt hm hn) (lineStart_le_lineStart hm)).2.2.2.1

/-- What stands for less than another name makes a text of less weight on the two lines of a
guard. -/
theorem weight_opened_lt {heavy : Nat} (horder : g.ifndefLine < g.defineLine)
    (hdefine : g.defineLine < lineCount t) (hname : g.name ∈ runs (lineText t g.ifndefLine))
    (h : Template.weight heavy new < Template.weight heavy name) :
    Template.weight heavy (g.opened new t) < Template.weight heavy (g.opened name t) := by
  have hweight : ∀ word, Template.weight heavy (g.opened word t)
        + (Template.weight heavy (lineText t g.ifndefLine)
          + Template.weight heavy (lineText t g.defineLine))
      = Template.weight heavy t
        + (Template.weight heavy (replaceWord g.name word (lineText t g.defineLine))
          + Template.weight heavy (replaceWord g.name word (lineText t g.ifndefLine))) := by
    intro word
    have hsecond := Template.weight_replaceLine heavy t g.defineLine
      (replaceWord g.name word (lineText t g.defineLine))
    have hfirst := Template.weight_replaceLine heavy (renameOn g.defineLine g.name word t)
      g.ifndefLine (replaceWord g.name word (lineText t g.ifndefLine))
    have hline := lineText_renameOn_of_lt horder hdefine g.name word
    rw [hline] at hfirst
    rw [opened, renameOn, hline]
    rw [← renameOn] at hsecond
    omega
  have hnew := hweight new
  have hother := hweight name
  have hle := Template.weight_flatMap_le (Nat.le_of_lt h) g.name (runs (lineText t g.defineLine))
  rw [← replaceWord, ← replaceWord] at hle
  have hlt := Template.weight_replaceWord_lt h hname
  omega

/-- The two lines of the guard that is found are there when its closing line has been written. -/
theorem lines_renewEndif (hfind : find? (lineTexts t) = some g) (hname : IsName name) :
    g.defineLine < lineCount (g.renewEndif name t)
      ∧ g.name ∈ runs (lineText (g.renewEndif name t) g.ifndefLine) := by
  obtain ⟨horder, hdefine, -, hmem⟩ := lines_of_find? hfind
  obtain ⟨hclosed, -⟩ := renewEndif_lines g hname.plain t
  have hother : ∀ last, lastEndif? (lineTexts t) = some last → g.defineLine < last →
      g.ifndefLine ≠ last := fun last _ hlt => by omega
  constructor
  · have hlength : (g.closedLines name (lineTexts t)).length = lineCount t := by
      rw [closedLines, ← length_lineTexts]
      split
      · rfl
      · split
        · exact List.length_set
        · rfl
    rwa [← length_lineTexts, hclosed, hlength]
  · rwa [lineText_eq_getD, hclosed, getElem?_closedLines_of_ne hother, ← lineText_eq_getD]

/-- Renaming the guard that is found writes the name, and fails nowhere, exactly if the name stands
for itself as a template. -/
theorem isNamed_rename_iff (hfind : find? (lineTexts t) = some g) (hname : IsName name) :
    (g.rename name t).2 = none ∧ IsNamed g name t (g.rename name t).1
      ↔ Template.isLiteral name = true := by
  obtain ⟨horder, -, hword, -⟩ := lines_of_find? hfind
  constructor
  · rintro ⟨hfault, hnamed⟩
    obtain ⟨rfl, -⟩ | ⟨problem, -, -, hrename⟩ | ⟨new, -, hexpand, hrename⟩ :=
      cases_of_rename g name t
    · exact Template.isLiteral_of_isWord hword
    · rw [hrename] at hfault
      cases hfault
    · -- what the name stands for otherwise makes the text lighter than the name does
      by_contra hliteral
      rw [Bool.not_eq_true] at hliteral
      have hslash : '\\' ∉ g.name := fun hmem => absurd (hword.2 _ hmem) (by decide)
      have hlt := Template.weight_lt_of_expand hslash hexpand hliteral
      obtain ⟨hdefine, hmem⟩ := lines_renewEndif hfind hname
      have hlighter := weight_opened_lt horder hdefine hmem hlt
      rw [hrename] at hnamed
      have hsame : g.opened new (g.renewEndif name t) = g.written name t :=
        hnamed.eq (isNamed_written hfind hname)
      rw [hsame] at hlighter
      exact Nat.lt_irrefl _ hlighter
  · intro hliteral
    rw [rename_of_isLiteral hliteral]
    exact ⟨rfl, isNamed_written hfind hname⟩

/-! ## Closing lines -/

/-- What is put on the two lines of a guard leaves alone what is behind a line feed after them. -/
theorem exists_opened_eq_append {before : Text} (horder : g.ifndefLine < g.defineLine)
    (hdefine : g.defineLine ≤ before.count '\n') (new after : Text) :
    ∃ front, g.opened new (before ++ '\n' :: after) = front ++ '\n' :: after := by
  obtain ⟨middle, hmiddle, hdefined⟩ := exists_replaceLine_append_feed hdefine after
    (replaceWord g.name new (lineText (before ++ '\n' :: after) g.defineLine))
  have hifndef : g.ifndefLine ≤ middle.count '\n' := by omega
  obtain ⟨front, -, hopened⟩ := exists_replaceLine_append_feed hifndef after
    (replaceWord g.name new (lineText (middle ++ '\n' :: after) g.ifndefLine))
  refine ⟨front, ?_⟩
  rw [opened, renameOn, renameOn, hdefined, hopened]

/-- Whatever becomes of the two lines, a closing line after them names the guard as it is asked
for. -/
theorem exists_rename_eq_append (hfind : find? (lineTexts t) = some g)
    (hlast : lastEndif? (lineTexts t) = some last) (hlt : g.defineLine < last) (name : Text) :
    ∃ front, (g.rename name t).1
      = front ++ '\n' :: ("#endif  // ".toList ++ name ++ t.drop (lineEnd t last)) := by
  obtain ⟨horder, -, -, -⟩ := lines_of_find? hfind
  obtain ⟨m, rfl⟩ := Nat.exists_eq_succ_of_ne_zero (Nat.ne_of_gt (Nat.zero_lt_of_lt hlt))
  have hline := lt_length_of_lastEndif? hlast
  rw [length_lineTexts] at hline
  obtain ⟨before, hcount, hclosed⟩ := exists_replaceLine_eq_append hline (endifLine name)
  rw [← renewEndif_of_lt hlast hlt] at hclosed
  obtain ⟨-, hrename⟩ | ⟨problem, -, -, hrename⟩ | ⟨new, -, -, hrename⟩ :=
    cases_of_rename g name t
  · rw [hrename, hclosed]
    exact ⟨before, rfl⟩
  · rw [hrename, hclosed]
    exact ⟨before, rfl⟩
  · -- both lines are before the line feed that the closing line stands behind
    have hdefine : g.defineLine ≤ before.count '\n' := by omega
    rw [hrename, hclosed]
    exact exists_opened_eq_append horder hdefine new _

/-- Whether a text is another one of which no more than a closing line after the `#define` of a
guard has been written. -/
structure IsClosed (g : Guard) (name t u : Text) : Prop where
  /-- If there is no such line, nothing has changed. -/
  unclosed : (∀ last, lastEndif? (lineTexts t) = some last → last ≤ g.defineLine) → u = t
  /-- If there is one, it names the guard as it is asked for. -/
  closing : ∀ last, lastEndif? (lineTexts t) = some last → g.defineLine < last →
    u = t.take (lineStart t last) ++ ("#endif  // ".toList ++ name) ++ t.drop (lineEnd t last)
  /-- The lines before and after it are as they were. -/
  around : ∀ last, lastEndif? (lineTexts t) = some last → g.defineLine < last →
    KeepsLines (lineStart t last) (lineEnd t last) ("#endif  // ".toList ++ name) t u
  /-- So nothing has changed exactly if it named the guard already. -/
  same_iff : u = t ∧ lineTable u = lineTable t ↔
    ∀ last, lastEndif? (lineTexts t) = some last → g.defineLine < last →
      lineText t last = "#endif  // ".toList ++ name

/-- Writing the closing line gives such a text. -/
theorem isClosed_renewEndif (g : Guard) (name t : Text) :
    IsClosed g name t (g.renewEndif name t) where
  unclosed h := renewEndif_of_forall_le h name
  closing last hlast hlt := renewEndif_of_lt hlast hlt name
  around last hlast hlt := by
    rw [renewEndif_of_lt hlast hlt]
    exact keepsLines_splice (lineStart_le_lineEnd t last) _
  same_iff := by
    constructor
    · rintro ⟨hsame, -⟩ last hlast hlt
      rw [renewEndif_of_lt hlast hlt] at hsame
      exact (splice_eq_self_iff (lineStart_le_lineEnd t last)).1 hsame
    · intro h
      have hsame : g.renewEndif name t = t := by
        by_cases hclosing : ∃ last, lastEndif? (lineTexts t) = some last ∧ g.defineLine < last
        · obtain ⟨last, hlast, hlt⟩ := hclosing
          rw [renewEndif_of_lt hlast hlt]
          exact (splice_eq_self_iff (lineStart_le_lineEnd t last)).2 (h last hlast hlt)
        · refine renewEndif_of_forall_le (fun last hlast => ?_) name
          exact Nat.le_of_not_lt fun hlt => hclosing ⟨last, hlast, hlt⟩
      exact ⟨hsame, congrArg lineTable hsame⟩

end Guard

namespace Fix

open Guard (IsName IsNamed IsClosed)

variable {d : Document} {asked : Option Text} {g : Guard} {name : Text}

/-- The fix that is asked for a name renames the guard to it. -/
theorem apply_headerGuard_of_ne_nil (hfind : Guard.find? (lineTexts d.text) = some g)
    (hname : name ≠ []) (line : Int) :
    (headerGuard (some name)).apply d line
      = ⟨d.withText (g.rename name d.text).1, (g.rename name d.text).2.map .template⟩ := by
  rw [apply_headerGuard_of_find? hfind, guardName_some hname]

/-- Naming the guard of a document that has one fails nowhere and writes the name on its two lines
exactly if each backslash of the name comes before a character that makes no escape of it. On a
closing line after them, and around a document that has no guard, every name is written as it is. -/
theorem apply_headerGuard_writes (hfind : Guard.find? (lineTexts d.text) = some g)
    (hname : IsName name) :
    ((∃ u, (∀ line, (headerGuard (some name)).apply d line = ⟨d.withText u, none⟩)
        ∧ IsNamed g name d.text u) ↔ Template.isLiteral name = true)
    ∧ (∀ last, Guard.lastEndif? (lineTexts d.text) = some last → g.defineLine < last → ∀ line,
        ∃ front, ((headerGuard (some name)).apply d line).document.text
          = front ++ '\n' :: ("#endif  // ".toList ++ name ++ d.text.drop (lineEnd d.text last)))
    ∧ ∀ e : Document, Guard.find? (lineTexts e.text) = none → ∀ line,
        (headerGuard (some name)).apply e line = ⟨e.withText ("#ifndef ".toList ++ name
          ++ "\n#define ".toList ++ name ++ "\n\n".toList ++ e.text
          ++ (if e.text = [] ∨ e.text.getLast? = some '\n' then [] else ['\n'])
          ++ "\n#endif  // ".toList ++ name ++ ['\n']), none⟩ := by
  have happly := apply_headerGuard_of_ne_nil hfind hname.ne_nil
  refine ⟨?_, fun last hlast hlt line => ?_, fun e hnone line => ?_⟩
  · rw [← Guard.isNamed_rename_iff hfind hname]
    constructor
    · rintro ⟨u, hleft, hnamed⟩
      have hsame := (happly 0).symm.trans (hleft 0)
      have htext : (g.rename name d.text).1 = u :=
        congrArg (fun m : Mended => m.document.text) hsame
      have hfault := congrArg Mended.fault hsame
      rw [htext]
      exact ⟨Option.map_eq_none_iff.1 hfault, hnamed⟩
    · rintro ⟨hfault, hnamed⟩
      refine ⟨_, fun line => ?_, hnamed⟩
      rw [happly, hfault]
      rfl
  · rw [happly]
    exact Guard.exists_rename_eq_append hfind hlast hlt name
  · rw [apply, applyHeaderGuard, hnone, guardName_some hname.ne_nil, ← Guard.wrap_eq_append]

/-- A header with a guard and nothing in it. -/
def plainHeader : Document := ⟨"#ifndef A_H\n#define A_H\n#endif\n".toList, none, none, []⟩

/-- A name with a backslash before a hyphen is written in all three places. -/
theorem apply_headerGuard_writes_plainHeader :
    (Guard.find? (lineTexts plainHeader.text) = some ⟨0, 1, "A_H".toList⟩
      ∧ IsName "B\\-H".toList)
    ∧ ∃ u, u = "#ifndef B\\-H\n#define B\\-H\n#endif  // B\\-H\n".toList
      ∧ (∀ line, (headerGuard (some "B\\-H".toList)).apply plainHeader line
          = ⟨plainHeader.withText u, none⟩)
      ∧ IsNamed ⟨0, 1, "A_H".toList⟩ "B\\-H".toList plainHeader.text u := by
  have hfind : Guard.find? (lineTexts plainHeader.text) = some ⟨0, 1, "A_H".toList⟩ := by
    decide +kernel
  have hname : IsName "B\\-H".toList := ⟨by decide, by decide, by decide⟩
  obtain ⟨u, happly, hnamed⟩ := (apply_headerGuard_writes hfind hname).1.2 (by decide)
  have hleft : (headerGuard (some "B\\-H".toList)).apply plainHeader 0 = ⟨plainHeader.withText
      "#ifndef B\\-H\n#define B\\-H\n#endif  // B\\-H\n".toList, none⟩ := by decide +kernel
  refine ⟨⟨hfind, hname⟩, u, ?_, happly, hnamed⟩
  exact congrArg (fun m : Mended => m.document.text) ((happly 0).symm.trans hleft)

/-- A backslash before an `n` becomes a line feed on the two lines of the guard, and is written as
it is on the closing one. -/
theorem not_isNamed_plainHeader :
    (Guard.find? (lineTexts plainHeader.text) = some ⟨0, 1, "A_H".toList⟩
      ∧ IsName "SRC\\name_H".toList)
    ∧ ∃ u, u = "#ifndef SRC\name_H\n#define SRC\name_H\n#endif  // SRC\\name_H\n".toList
      ∧ (∀ line, (headerGuard (some "SRC\\name_H".toList)).apply plainHeader line
          = ⟨plainHeader.withText u, none⟩)
      ∧ ¬IsNamed ⟨0, 1, "A_H".toList⟩ "SRC\\name_H".toList plainHeader.text u := by
  have hfind : Guard.find? (lineTexts plainHeader.text) = some ⟨0, 1, "A_H".toList⟩ := by
    decide +kernel
  have happly : applyHeaderGuard (some "SRC\\name_H".toList) plainHeader = ⟨plainHeader.withText
      "#ifndef SRC\name_H\n#define SRC\name_H\n#endif  // SRC\\name_H\n".toList, none⟩ := by
    decide +kernel
  refine ⟨⟨hfind, by decide, by decide, by decide⟩, _, rfl, fun _ => happly, fun hnamed => ?_⟩
  exact absurd hnamed.lineCount (by decide +kernel)

/-- A name that is not the one of the guard that is found has been asked for. -/
theorem eq_some_of_guardName_ne (hfind : Guard.find? (lineTexts d.text) = some g)
    (h : g.name ≠ guardName asked d) : asked = some (guardName asked d) := by
  have hkept : guardName none d = g.name := by
    rw [guardName_none, hfind]
    rfl
  cases asked with
  | none => exact absurd hkept.symm h
  | some word =>
      cases word with
      | nil => exact absurd hkept.symm h
      | cons c word => rfl

/-- A name that is wrong as a template fails when the closing line has been written. -/
theorem apply_headerGuard_of_error {problem : Template.Fault}
    (hfind : Guard.find? (lineTexts d.text) = some g)
    (hexpand : Template.expand g.name name = .error problem) (line : Int) :
    (headerGuard (some name)).apply d line
      = ⟨d.withText (g.renewEndif name d.text), some (.template problem)⟩ := by
  have hname : name ≠ [] := by
    rintro rfl
    cases hexpand
  obtain ⟨-, -, hword, -⟩ := Guard.lines_of_find? hfind
  rw [apply_headerGuard_of_ne_nil hfind hname]
  obtain ⟨rfl, -⟩ | ⟨other, -, hother, hrename⟩ | ⟨new, -, hnew, -⟩ :=
    g.cases_of_rename name d.text
  · -- the name that the guard has is a word, and no word is wrong
    rw [Template.expand_of_isLiteral (Template.isLiteral_of_isWord hword)] at hexpand
    cases hexpand
  · obtain rfl : other = problem := Except.error.inj (hother.symm.trans hexpand)
    rw [hrename]
    rfl
  · rw [hnew] at hexpand
    cases hexpand

/-- Naming a guard fails exactly if the document has one, and the name that is asked for is wrong as
a template. -/
theorem fault_apply_headerGuard_eq_some_iff {fault : FixFault} {line : Int} :
    ((headerGuard asked).apply d line).fault = some fault ↔
      ∃ g name problem, Guard.find? (lineTexts d.text) = some g ∧ asked = some name
        ∧ Template.expand g.name name = .error problem ∧ fault = .template problem := by
  constructor
  · intro h
    cases hfind : Guard.find? (lineTexts d.text) with
    | none =>
        rw [apply, applyHeaderGuard, hfind] at h
        cases h
    | some g =>
        rw [apply_headerGuard_of_find? hfind] at h
        obtain ⟨problem, hproblem, rfl⟩ := Option.map_eq_some_iff.1 h
        obtain ⟨-, hrename⟩ | ⟨other, hne, hexpand, hrename⟩ | ⟨new, -, -, hrename⟩ :=
          g.cases_of_rename (guardName asked d) d.text
        · rw [hrename] at hproblem
          cases hproblem
        · rw [hrename] at hproblem
          obtain rfl : other = problem := Option.some.inj hproblem
          exact ⟨g, _, other, rfl, eq_some_of_guardName_ne hfind hne, hexpand, rfl⟩
        · rw [hrename] at hproblem
          cases hproblem
  · rintro ⟨g, name, problem, hfind, rfl, hexpand, rfl⟩
    rw [apply_headerGuard_of_error hfind hexpand]

/-- Naming a guard fails only if the document has one, and the name that is asked for is wrong as a
template. The document that is left then is as it was but for the closing line after the guard,
which has been written already. -/
theorem apply_headerGuard_fails {fault : FixFault} {line : Int}
    (h : ((headerGuard asked).apply d line).fault = some fault) :
    ∃ g name problem u, Guard.find? (lineTexts d.text) = some g ∧ asked = some name
      ∧ Template.expand g.name name = .error problem ∧ fault = .template problem
      ∧ (∀ other, (headerGuard asked).apply d other = ⟨d.withText u, some fault⟩)
      ∧ IsClosed g name d.text u := by
  obtain ⟨g, name, problem, hfind, rfl, hexpand, rfl⟩ := fault_apply_headerGuard_eq_some_iff.1 h
  exact ⟨g, name, problem, g.renewEndif name d.text, hfind, rfl, hexpand, rfl,
    apply_headerGuard_of_error hfind hexpand, g.isClosed_renewEndif name d.text⟩

/-- A header that does not close its guard. -/
def openHeader : Document := ⟨"#ifndef A_H\n#define A_H\n".toList, none, none, []⟩

/-- A name that ends in a backslash leaves it alone. -/
theorem apply_headerGuard_fails_openHeader :
    ((headerGuard (some "B\\".toList)).apply openHeader 0).fault
        = some (.template ⟨.danglingEscape, 1, "B\\".toList⟩)
      ∧ ∃ problem, Template.expand "A_H".toList "B\\".toList = .error problem
        ∧ ∀ line, (headerGuard (some "B\\".toList)).apply openHeader line
          = ⟨openHeader, some (.template problem)⟩ := by
  have hfault : ((headerGuard (some "B\\".toList)).apply openHeader 0).fault
      = some (.template ⟨.danglingEscape, 1, "B\\".toList⟩) := by decide +kernel
  have hopen : Guard.find? (lineTexts openHeader.text) = some ⟨0, 1, "A_H".toList⟩ := by
    decide +kernel
  have hnone : Guard.lastEndif? (lineTexts openHeader.text) = none := by decide +kernel
  obtain ⟨g, name, problem, u, hfind, hname, hexpand, hproblem, happly, hclosed⟩ :=
    apply_headerGuard_fails hfault
  obtain rfl : _ = g := Option.some.inj (hopen.symm.trans hfind)
  obtain rfl : _ = name := Option.some.inj hname
  have hsame : u = openHeader.text := hclosed.unclosed fun last hlast => by
    rw [hnone] at hlast
    cases hlast
  rw [hproblem, hsame] at happly
  exact ⟨hfault, problem, hexpand, happly⟩

/-- A backslash before an `A` is wrong, which is found when the closing line has been written. -/
theorem lineTable_ne_plainHeader :
    ∃ u fault, (∀ line, (headerGuard (some "SRC\\A_H".toList)).apply plainHeader line
          = ⟨plainHeader.withText u, some fault⟩)
      ∧ fault.message = "bad escape \\A at position 3".toList
      ∧ u = "#ifndef A_H\n#define A_H\n#endif  // SRC\\A_H\n".toList
      ∧ u ≠ plainHeader.text ∧ lineTable u ≠ lineTable plainHeader.text := by
  have happly : applyHeaderGuard (some "SRC\\A_H".toList) plainHeader = ⟨plainHeader.withText
      "#ifndef A_H\n#define A_H\n#endif  // SRC\\A_H\n".toList,
      some (.template ⟨.badEscape 'A', 3, "SRC\\A_H".toList⟩)⟩ := by
    decide +kernel
  exact ⟨_, _, fun _ => happly, by decide +kernel, rfl, by decide +kernel, by decide +kernel⟩

end Fix

end LintMend

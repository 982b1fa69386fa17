import LintMend.Proofs.Mend.Guard
import LintMend.Proofs.Mend.GuardName
import LintMend.Proofs.Mend.Template
import LintMend.Proofs.Text.PlainLines

/-! # Guards renamed and put around a file

What mending a guard does to the lines of a text. A guard that is there is renamed on its two
opening lines, and its closing line is renewed; a file without one is put inside a new one.
* `Cut.renamed`, `rename_lines`: renaming a guard, by the lines that it cuts; what ends the lines
  stays. `rename_unlines` says it of a text without carriage returns.
* `IsName`, `written`, `written_lines`: the same for a name that need not be a word, if it is
  written as it is. `cases_of_rename` says what renaming can come to, whatever the name is.
* `renamedLines`: the same by the numbers of the lines; `renamedLines_lines` says that it is.
* `wrapped`, `wrap_unlines`: the lines of a file that a guard has been put around.
* `Renamable`: when the directives of a guard are not lost in renaming; `Names.renamed` and
  `names_wrapped` say that the guard is found again under its new name. -/

namespace LintMend.Guard

open Text

variable {ls : List Text} {name old new t : Text} {k : Cut}

/-! ## Renaming -/

/-- Whether a guard can be renamed without its directives being lost: the old word is no keyword of
theirs, or nothing is renamed. -/
def Renamable (old new : Text) : Prop :=
  old = new ∨ old ≠ "define".toList ∧ old ≠ "ifndef".toList

/-- A directive whose word can be renamed names the new word after it. -/
theorem operand?_replaceWord_of_renamable {keyword line : Text}
    (hkeyword : keyword = "define".toList ∨ keyword = "ifndef".toList)
    (h : Directive.operand? keyword line = some old) (hword : IsWord new)
    (hnew : Renamable old new) :
    Directive.operand? keyword (replaceWord old new line) = some new := by
  rcases hnew with rfl | ⟨hdefine, hifndef⟩
  · rw [replaceWord_self]
    exact h
  · rcases hkeyword with rfl | rfl
    · exact Directive.operand?_replaceWord Directive.isWord_define h (Ne.symm hdefine) hword
    · exact Directive.operand?_replaceWord Directive.isWord_ifndef h (Ne.symm hifndef) hword

/-- A word is plain. -/
theorem isPlain_of_isWord {word : Text} (h : IsWord word) : IsPlain word where
  feed hmem := absurd (h.2 '\n' hmem) (by decide)
  carriage hmem := absurd (h.2 '\r' hmem) (by decide)

/-- Whether a text can be written where a guard is named: it is not empty, and does not break the
line. -/
structure IsName (name : Text) : Prop where
  /-- It has a character. -/
  ne_nil : name ≠ []
  /-- It is plain. -/
  plain : IsPlain name

/-- A word can. -/
theorem isName_of_isWord {word : Text} (h : IsWord word) : IsName word := ⟨h.1, isPlain_of_isWord h⟩

/-- A plain line stays plain when a word on it is replaced by a plain text. -/
theorem isPlain_replaceWord {l : Text} (h : IsPlain l) (hnew : IsPlain new) :
    IsPlain (replaceWord old new l) where
  feed hmem := (mem_of_mem_replaceWord hmem).elim h.feed hnew.feed
  carriage hmem := (mem_of_mem_replaceWord hmem).elim h.carriage hnew.carriage

/-- A closing line with a plain name is plain. -/
theorem isPlain_endifLine (h : IsPlain name) : IsPlain (endifLine name) where
  feed hmem := (List.mem_append.1 hmem).elim (absurd · (by decide)) h.feed
  carriage hmem := (List.mem_append.1 hmem).elim (absurd · (by decide)) h.carriage

/-- A closing line with a plain name can take the place of any line. -/
theorem fitsFor_endifLine (h : IsPlain name) (l : Text) : FitsFor (endifLine name) l where
  left := (isPlain_endifLine h).feed
  right hlast := absurd (List.mem_of_getLast? hlast) (isPlain_endifLine h).carriage

/-- A line on which a word is replaced by a name can take the place of that line. -/
theorem fitsFor_replaceWord {l : Text} (hfeed : '\n' ∉ l) (hnew : IsName new) :
    FitsFor (replaceWord old new l) l where
  left hmem := (mem_of_mem_replaceWord hmem).elim hfeed hnew.plain.feed
  right := getLast?_replaceWord hnew.ne_nil fun hlast =>
    hnew.plain.carriage (List.mem_of_getLast? hlast)

/-- What holds of some lines and of the closing line holds of the lines when that is renewed. -/
theorem forall_mem_renewed {holds : Text → Prop} (h : ∀ l ∈ ls, holds l)
    (hend : holds (endifLine name)) : ∀ l ∈ renewed name ls, holds l := by
  intro l hl
  rw [renewed] at hl
  split at hl
  · exact h l hl
  · rcases List.mem_or_eq_of_mem_set hl with hl | rfl
    · exact h l hl
    · exact hend

namespace Cut

/-- Lines with their guard renamed and its closing line renewed. -/
def renamed (k : Cut) (old new : Text) : Cut :=
  { k with
    ifndefLine := replaceWord old new k.ifndefLine
    defineLine := replaceWord old new k.defineLine
    back := Guard.renewed new k.back }

/-- Lines are cut at their guard after it has been renamed. -/
theorem Names.renamed (h : k.Names old) (hword : IsWord new) (hnew : Renamable old new) :
    (k.renamed old new).Names new where
  front := h.front
  ifndef := operand?_replaceWord_of_renamable (.inr rfl) h.ifndef hword hnew
  blank := h.blank
  define := operand?_replaceWord_of_renamable (.inl rfl) h.define hword hnew

/-- The guard that is found has a word for its name. -/
theorem Names.isWord (h : k.Names name) : IsWord name :=
  Directive.isWord_of_operand? Directive.isWord_ifndef h.ifndef

/-- The name is a run of its first line. -/
theorem Names.mem_runs (h : k.Names name) : name ∈ runs k.ifndefLine :=
  Directive.mem_runs_of_operand? Directive.isWord_ifndef h.ifndef

/-- Its `#ifndef` is not on an empty line. -/
theorem Names.ifndefLine_ne_nil (h : k.Names name) : k.ifndefLine ≠ [] :=
  Directive.ne_nil_of_operand? h.ifndef

/-- Neither is its `#define`. -/
theorem Names.defineLine_ne_nil (h : k.Names name) : k.defineLine ≠ [] :=
  Directive.ne_nil_of_operand? h.define

/-- Renaming a guard again to the name that it has changes nothing. -/
theorem renamed_renamed_self (k : Cut) (old new : Text) :
    (k.renamed old new).renamed new new = k.renamed old new := by
  simp [Cut.renamed, renewed_renewed]

/-- Renaming a guard to the name that it has comes to nothing when it is renamed after that. -/
theorem renamed_self_renamed (k : Cut) (old new : Text) :
    (k.renamed old old).renamed old new = k.renamed old new := by
  simp [Cut.renamed, renewed_renewed]

/-- There are as many lines as before when the closing line is renewed. -/
theorem length_lines_renamed (k : Cut) (old new : Text) :
    (k.renamed old new).lines.length = k.lines.length := by
  have hback : (Guard.renewed new k.back).length = k.back.length := by
    rw [Guard.renewed]
    split
    · rfl
    · exact List.length_set
  simp [lines, renamed, hback]

/-- There are at least two lines. -/
theorem lines_ne_singleton (k : Cut) : k.lines ≠ [[]] := by
  intro heq
  have hlength := congrArg List.length heq
  simp only [lines, List.length_append, List.length_cons, List.length_nil] at hlength
  omega

/-- Lines are plain if those in each part of the cut are. -/
theorem arePlain_iff :
    ArePlain k.lines ↔ (∀ l ∈ k.front, IsPlain l) ∧ IsPlain k.ifndefLine
      ∧ (∀ l ∈ k.blank, IsPlain l) ∧ IsPlain k.defineLine ∧ ∀ l ∈ k.back, IsPlain l := by
  have hparts : (∀ l ∈ k.lines, IsPlain l) ↔ (∀ l ∈ k.front, IsPlain l) ∧ IsPlain k.ifndefLine
      ∧ (∀ l ∈ k.blank, IsPlain l) ∧ IsPlain k.defineLine ∧ ∀ l ∈ k.back, IsPlain l := by
    rw [lines, List.forall_mem_append, List.forall_mem_cons, List.forall_mem_append,
      List.forall_mem_cons]
  rw [← hparts]
  exact ⟨fun h => h.plain, fun h => ⟨by simp [lines], h⟩⟩

/-- Plain lines stay plain when their guard is renamed to a word. -/
theorem arePlain_renamed (h : ArePlain k.lines) (hword : IsWord new) :
    ArePlain (k.renamed old new).lines := by
  obtain ⟨hfront, hifndef, hblank, hdefine, hback⟩ := arePlain_iff.1 h
  refine arePlain_iff.2 ⟨hfront, ?_, hblank, ?_, ?_⟩
  · exact isPlain_replaceWord hifndef (isPlain_of_isWord hword)
  · exact isPlain_replaceWord hdefine (isPlain_of_isWord hword)
  · exact forall_mem_renewed hback (isPlain_endifLine (isPlain_of_isWord hword))

/-- The lines up to the `#define`. -/
def before (k : Cut) : List Text := k.front ++ k.ifndefLine :: k.blank

/-- The lines, cut at the `#define` only. -/
theorem lines_eq_before_append (k : Cut) : k.lines = k.before ++ k.defineLine :: k.back := by
  simp [lines, before]

@[simp] theorem ifndefLine_guard (k : Cut) (name : Text) :
    (k.guard name).ifndefLine = k.front.length := Nat.zero_add _

@[simp] theorem defineLine_guard (k : Cut) (name : Text) :
    (k.guard name).defineLine = k.before.length := by
  simp only [guard, guardFrom, before, List.length_append, List.length_cons]
  omega

@[simp] theorem name_guard (k : Cut) (name : Text) : (k.guard name).name = name := rfl

/-- The `#ifndef` of a guard comes before its `#define`. -/
theorem ifndefLine_lt_defineLine (k : Cut) (name : Text) :
    (k.guard name).ifndefLine < (k.guard name).defineLine := by
  rw [ifndefLine_guard, defineLine_guard, before, List.length_append, List.length_cons]
  omega

/-- The line of the `#ifndef`, by its number. -/
theorem getElem?_ifndefLine (k : Cut) (name : Text) :
    k.lines[(k.guard name).ifndefLine]? = some k.ifndefLine := by
  rw [ifndefLine_guard, lines, List.getElem?_append_right (Nat.le_refl _), Nat.sub_self]
  rfl

/-- The line of the `#define`, by its number. -/
theorem getElem?_defineLine (k : Cut) (name : Text) :
    k.lines[(k.guard name).defineLine]? = some k.defineLine := by
  rw [defineLine_guard, lines_eq_before_append, List.getElem?_append_right (Nat.le_refl _),
    Nat.sub_self]
  rfl

/-- A line between others is changed by its number. -/
theorem modify_append_cons (change : Text → Text) (front : List Text) (l : Text)
    (back : List Text) :
    (front ++ l :: back).modify front.length change = front ++ change l :: back :=
  List.modifyTailIdx_add (List.modifyHead change) 0 front (l :: back)

/-- The line of the `#ifndef` is changed by its number. -/
theorem modify_ifndefLine (k : Cut) (name : Text) (change : Text → Text) :
    k.lines.modify (k.guard name).ifndefLine change
      = { k with ifndefLine := change k.ifndefLine }.lines := by
  rw [ifndefLine_guard, lines, modify_append_cons]
  rfl

/-- The line of the `#define` is changed by its number. -/
theorem modify_defineLine (k : Cut) (name : Text) (change : Text → Text) :
    k.lines.modify (k.guard name).defineLine change
      = { k with defineLine := change k.defineLine }.lines := by
  rw [defineLine_guard, lines_eq_before_append, lines_eq_before_append, modify_append_cons]
  rfl

end Cut

/-- Some lines with the last closing one renewed, if it comes after the `#define` of a guard. -/
def closedLines (g : Guard) (name : Text) (ls : List Text) : List Text :=
  match lastEndif? ls with
  | none => ls
  | some last => if g.defineLine < last then ls.set last (endifLine name) else ls

/-- Some lines with a guard renamed on its two lines, and the closing one renewed. -/
def renamedLines (g : Guard) (name : Text) (ls : List Text) : List Text :=
  ((g.closedLines name ls).modify g.defineLine (replaceWord g.name name)).modify g.ifndefLine
    (replaceWord g.name name)

/-- The closing line of a guard is the last one that closes, if it comes after the `#define`. -/
theorem closedLines_lines (k : Cut) (old new : Text) :
    (k.guard old).closedLines new k.lines = { k with back := renewed new k.back }.lines := by
  rw [closedLines]
  rcases forall_not_or_exists_last k.back with hnone | ⟨front, l, back, hback, hl, hafter⟩
  · -- Nothing after the `#define` closes, so the last line that closes is not after it.
    have hsplit : k.lines = (k.before ++ [k.defineLine]) ++ k.back := by
      rw [Cut.lines_eq_before_append, List.append_assoc, List.singleton_append]
    have hlast : lastEndif? k.lines = lastEndif? (k.before ++ [k.defineLine]) := by
      rw [hsplit]
      exact lastEndifFrom_append_of_forall_not hnone 0 _
    rw [renewed_of_forall_not hnone, hlast]
    split
    · rfl
    · next last hfound =>
        refine if_neg fun hlt => ?_
        have hle := lt_length_of_lastEndif? hfound
        rw [List.length_append, List.length_singleton] at hle
        rw [Cut.defineLine_guard] at hlt
        omega
  · -- The last one after the `#define` is the last one of all lines.
    have hsplit : k.lines = (k.before ++ k.defineLine :: front) ++ l :: back := by
      rw [Cut.lines_eq_before_append, hback]
      simp
    have hlast : lastEndif? k.lines = some (k.before ++ k.defineLine :: front).length := by
      rw [hsplit, lastEndif?, lastEndifFrom_append_cons hl hafter, Nat.zero_add]
    have hlt : (k.guard old).defineLine < (k.before ++ k.defineLine :: front).length := by
      rw [Cut.defineLine_guard, List.length_append, List.length_cons]
      omega
    rw [hlast]
    dsimp only
    rw [if_pos hlt, hback, renewed_append_cons hl hafter, hsplit]
    simp [Cut.lines, Cut.before]

/-- Renaming a guard by the numbers of its lines is renaming it where the lines are cut. -/
theorem renamedLines_lines (k : Cut) (old new : Text) :
    (k.guard old).renamedLines new k.lines = (k.renamed old new).lines := by
  have hdefine := Cut.modify_defineLine { k with back := renewed new k.back } old
    (replaceWord old new)
  have hifndef := Cut.modify_ifndefLine
    { k with defineLine := replaceWord old new k.defineLine, back := renewed new k.back } old
    (replaceWord old new)
  rw [renamedLines, closedLines_lines, Cut.name_guard]
  exact (congrArg (List.modify · _ _) hdefine).trans hifndef

/-- Renewing the closing line of a text, by its lines. What ends them stays. -/
theorem renewEndif_lines (g : Guard) (hname : IsPlain name) (t : Text) :
    lineTexts (g.renewEndif name t) = g.closedLines name (lineTexts t)
      ∧ lineEndings (g.renewEndif name t) = lineEndings t := by
  rw [renewEndif, closedLines]
  cases hlast : lastEndif? (lineTexts t) with
  | none => exact ⟨rfl, rfl⟩
  | some last =>
      dsimp only
      split
      · have hline : last < lineCount t := by
          have hlt := lt_length_of_lastEndif? hlast
          rwa [length_lineTexts] at hlt
        have hfit := fitsFor_endifLine hname (lineText t last)
        have hne : endifLine name ≠ [] := by
          rw [endifLine_eq]
          exact List.cons_ne_nil _ _
        exact ⟨lineTexts_replaceLine hline hfit hne, lineEndings_replaceLine hline hfit⟩
      · exact ⟨rfl, rfl⟩

/-- Replacing a word on a line of a text, by its lines. What ends them stays. -/
theorem renameOn_lines {n : Nat} {l : Text} (hline : (lineTexts t)[n]? = some l) (hne : l ≠ [])
    (hnew : IsName new) :
    lineTexts (renameOn n old new t) = (lineTexts t).modify n (replaceWord old new)
      ∧ lineEndings (renameOn n old new t) = lineEndings t := by
  have hn : n < lineCount t := by
    rw [← length_lineTexts]
    exact (List.getElem?_eq_some_iff.1 hline).1
  obtain rfl : lineText t n = l := by
    rw [getElem?_lineTexts hn] at hline
    exact Option.some.inj hline
  have hfit : FitsFor (replaceWord old new (lineText t n)) (lineText t n) :=
    fitsFor_replaceWord (feed_not_mem_lineText t n) hnew
  refine ⟨?_, lineEndings_replaceLine hn hfit⟩
  rw [renameOn, lineTexts_replaceLine hn hfit (replaceWord_ne_nil hne hnew.ne_nil)]
  refine List.ext_getElem? fun m => ?_
  rw [List.getElem?_set, List.getElem?_modify]
  by_cases hm : n = m
  · subst hm
    rw [if_pos rfl, hline, length_lineTexts, if_pos hn]
    simp
  · simp [hm]

/-- Replacing a word on a line by itself changes nothing. -/
theorem renameOn_self (n : Nat) (word t : Text) : renameOn n word word t = t := by
  rw [renameOn, replaceWord_self, replaceLine, lineText, splice_slice (lineStart_le_lineEnd t n)]

/-- A text with the name of a guard replaced on its two lines. -/
def opened (g : Guard) (new t : Text) : Text :=
  renameOn g.ifndefLine g.name new (renameOn g.defineLine g.name new t)

/-- Renaming a guard writes its closing line. Unless it has the name already, the name is then read
as a template, and what that stands for is put on the two lines. -/
theorem cases_of_rename (g : Guard) (name t : Text) :
    (g.name = name ∧ g.rename name t = (g.renewEndif name t, none))
      ∨ (∃ problem, g.name ≠ name ∧ Template.expand g.name name = .error problem
        ∧ g.rename name t = (g.renewEndif name t, some problem))
      ∨ ∃ new, g.name ≠ name ∧ Template.expand g.name name = .ok new
        ∧ g.rename name t = (g.opened new (g.renewEndif name t), none) := by
  rw [rename]
  by_cases hname : g.name = name
  · rw [if_pos hname]
    exact .inl ⟨hname, rfl⟩
  · rw [if_neg hname]
    cases hexpand : Template.expand g.name name with
    | error problem => exact .inr (.inl ⟨problem, hname, rfl, rfl⟩)
    | ok new => exact .inr (.inr ⟨new, hname, rfl, rfl⟩)

/-- A text with a guard named on its two lines as on the closing one, whatever the name stands for
as a template. -/
def written (g : Guard) (name t : Text) : Text := g.opened name (g.renewEndif name t)

/-- Renaming a guard to a name that as a template stands for itself writes the name, and fails
nowhere. -/
theorem rename_of_isLiteral (h : Template.isLiteral name = true) (g : Guard) (t : Text) :
    g.rename name t = (g.written name t, none) := by
  rw [rename, Template.expand_of_isLiteral h, written, opened]
  by_cases hname : g.name = name
  · rw [if_pos hname, hname, renameOn_self, renameOn_self]
  · rw [if_neg hname]

/-- Writing the name of a guard renames it where the lines of the text are cut, and leaves alone
what ends them. -/
theorem written_lines (hlines : lineTexts t = k.lines) (hnames : k.Names old) (hnew : IsName new) :
    lineTexts ((k.guard old).written new t) = (k.renamed old new).lines
      ∧ lineEndings ((k.guard old).written new t) = lineEndings t := by
  obtain ⟨hclosed, hclosedEnds⟩ := renewEndif_lines (k.guard old) hnew.plain t
  rw [hlines, closedLines_lines] at hclosed
  rw [written, opened, Cut.name_guard]
  generalize (k.guard old).renewEndif new t = closed at hclosed hclosedEnds ⊢
  have hrenameOn : ∀ {n l u}, (lineTexts u)[n]? = some l → l ≠ [] →
      lineTexts (renameOn n old new u) = (lineTexts u).modify n (replaceWord old new)
        ∧ lineEndings (renameOn n old new u) = lineEndings u :=
    fun hline hne => renameOn_lines hline hne hnew
  -- first the second line of the guard is renamed, then the first one
  have hsecond : (lineTexts closed)[(k.guard old).defineLine]? = some k.defineLine := by
    rw [hclosed]
    exact Cut.getElem?_defineLine { k with back := renewed new k.back } old
  obtain ⟨hdefined, hdefinedEnds⟩ := hrenameOn hsecond hnames.defineLine_ne_nil
  rw [hclosed] at hdefined
  replace hdefined := hdefined.trans (Cut.modify_defineLine _ old _)
  generalize renameOn (k.guard old).defineLine old new closed = defined at hdefined hdefinedEnds ⊢
  have hfirst : (lineTexts defined)[(k.guard old).ifndefLine]? = some k.ifndefLine := by
    rw [hdefined]
    exact Cut.getElem?_ifndefLine _ old
  obtain ⟨hrenamed, hrenamedEnds⟩ := hrenameOn hfirst hnames.ifndefLine_ne_nil
  rw [hdefined] at hrenamed
  exact ⟨hrenamed.trans (Cut.modify_ifndefLine _ old _),
    by rw [hrenamedEnds, hdefinedEnds, hclosedEnds]⟩

/-- Renaming a guard to a word writes the word. -/
theorem rename_of_isWord (hword : IsWord name) (g : Guard) (t : Text) :
    g.rename name t = (g.written name t, none) :=
  rename_of_isLiteral (Template.isLiteral_of_isWord hword) g t

/-- Renaming a guard to a word renames it where the lines of the text are cut, leaves alone what
ends them, and fails nowhere. -/
theorem rename_lines (hlines : lineTexts t = k.lines) (hnames : k.Names old) (hword : IsWord new) :
    ((k.guard old).rename new t).2 = none
      ∧ lineTexts ((k.guard old).rename new t).1 = (k.renamed old new).lines
      ∧ lineEndings ((k.guard old).rename new t).1 = lineEndings t := by
  rw [rename_of_isWord hword]
  exact ⟨rfl, written_lines hlines hnames (isName_of_isWord hword)⟩

/-- Renaming a guard leaves a text alone in which it has the name already and is closed by it. -/
theorem rename_eq_self (hlines : lineTexts t = k.lines) (hnames : k.Names name)
    (hsame : k.renamed name name = k) : (k.guard name).rename name t = (t, none) := by
  obtain ⟨hfault, htexts, hends⟩ := rename_lines hlines hnames hnames.isWord
  rw [hsame, ← hlines] at htexts
  exact Prod.ext (eq_of_lineTexts_eq htexts hends) hfault

/-- Renaming the guard of a text without carriage returns renames it where its lines are cut. -/
theorem rename_unlines (h : ArePlain k.lines) (hnames : k.Names old) (hword : IsWord new) :
    (k.guard old).rename new (unlines k.lines) = (unlines (k.renamed old new).lines, none) := by
  obtain ⟨hfault, htexts, hends⟩ :=
    rename_lines (lineTexts_unlines h k.lines_ne_singleton) hnames hword
  have hplain : ArePlain (k.renamed old new).lines := Cut.arePlain_renamed h hword
  refine Prod.ext (eq_of_lineTexts_eq ?_ ?_) hfault
  · rw [htexts, lineTexts_unlines hplain (Cut.lines_ne_singleton _)]
  · rw [hends, lineEndings_unlines h, lineEndings_unlines hplain, Cut.length_lines_renamed]

/-! ## Wrapping -/

/-- The lines of a file that a guard has been put around. -/
def wrapped (name : Text) (ls : List Text) : Cut where
  front := []
  ifndefLine := '#' :: ("ifndef".toList ++ ' ' :: name)
  blank := []
  defineLine := '#' :: ("define".toList ++ ' ' :: name)
  back := [] :: (ended ls ++ [endifLine name, []])

/-- The guard that has been put around a file is found. -/
theorem names_wrapped (hword : IsWord name) (ls : List Text) : (wrapped name ls).Names name where
  front := by simp [wrapped]
  ifndef := Directive.operand?_written Directive.isWord_ifndef hword
  blank := by simp [wrapped]
  define := Directive.operand?_written Directive.isWord_define hword

/-- A directive that is written is renamed as it would be written. -/
theorem replaceWord_written {keyword old new : Text} (hkeyword : IsWord keyword)
    (hold : IsWord old) (hnew : IsWord new) (hne : keyword ≠ old) :
    replaceWord old new ('#' :: (keyword ++ ' ' :: old)) = '#' :: (keyword ++ ' ' :: new) := by
  have hspells : Directive.Spells keyword old ('#' :: (keyword ++ ' ' :: old)) [] [] [' '] [] :=
    ⟨by simp, by simp, by simp, List.forall_mem_singleton.2 rfl, by simp, hold, by simp⟩
  have heq := (Directive.spells_replaceWord hkeyword hspells hne hnew).eq_append
  rw [heq]
  simp [replaceWord]

/-- Renaming the guard that has been put around a file is putting the other guard around it. -/
theorem renamed_wrapped {old new : Text} (hold : IsWord old) (hnew : IsWord new)
    (hrename : Renamable old new) (ls : List Text) :
    (wrapped old ls).renamed old new = wrapped new ls := by
  -- The last line that closes is the one that was written, whatever else the file closes.
  have hback : renewed new ([] :: (ended ls ++ [endifLine old, []]))
      = [] :: (ended ls ++ [endifLine new, []]) := by
    have hlast : ∀ m ∈ [([] : Text)], Directive.isEndif m = false := by decide
    have hsplit : [] :: (ended ls ++ [endifLine old, []])
        = ([] :: ended ls) ++ endifLine old :: [[]] := rfl
    rw [hsplit, renewed_append_cons (isEndif_endifLine old) hlast]
    rfl
  have hdirective : ∀ keyword : Text, IsWord keyword →
      keyword = "define".toList ∨ keyword = "ifndef".toList →
      replaceWord old new ('#' :: (keyword ++ ' ' :: old)) = '#' :: (keyword ++ ' ' :: new) := by
    intro keyword hkeyword hcases
    rcases hrename with rfl | ⟨hdefine, hifndef⟩
    · rw [replaceWord_self]
    · refine replaceWord_written hkeyword hold hnew ?_
      rcases hcases with rfl | rfl
      · exact Ne.symm hdefine
      · exact Ne.symm hifndef
  simp only [Cut.renamed, wrapped, hback, hdirective _ Directive.isWord_ifndef (.inr rfl),
    hdirective _ Directive.isWord_define (.inl rfl)]

/-- A directive that is written is plain. -/
theorem isPlain_written {keyword : Text} (hkeyword : IsWord keyword) (hword : IsWord name) :
    IsPlain ('#' :: (keyword ++ ' ' :: name)) where
  feed := by simp [(isPlain_of_isWord hkeyword).feed, (isPlain_of_isWord hword).feed]
  carriage := by simp [(isPlain_of_isWord hkeyword).carriage, (isPlain_of_isWord hword).carriage]

/-- A file that a guard has been put around has plain lines. -/
theorem arePlain_wrapped (h : ArePlain ls) (hword : IsWord name) :
    ArePlain (wrapped name ls).lines := by
  refine Cut.arePlain_iff.2 ⟨by simp [wrapped], ?_, by simp [wrapped], ?_, ?_⟩
  · exact isPlain_written Directive.isWord_ifndef hword
  · exact isPlain_written Directive.isWord_define hword
  · have hempty : IsPlain [] := ⟨List.not_mem_nil, List.not_mem_nil⟩
    refine List.forall_mem_cons.2 ⟨hempty, List.forall_mem_append.2 ⟨(arePlain_ended h).plain, ?_⟩⟩
    have hendif := isPlain_endifLine (isPlain_of_isWord hword)
    exact List.forall_mem_cons.2 ⟨hendif, List.forall_mem_singleton.2 hempty⟩

/-- The lines that open a guard that is put around a file. -/
theorem opening_eq (name : Text) :
    opening name = '#' :: ("ifndef".toList ++ ' ' :: name)
      ++ '\n' :: ('#' :: ("define".toList ++ ' ' :: name) ++ ['\n', '\n']) := by
  have hifndef : "#ifndef ".toList = '#' :: ("ifndef".toList ++ [' ']) := by decide
  have hdefine : "\n#define ".toList = '\n' :: '#' :: ("define".toList ++ [' ']) := by decide
  have hend : "\n\n".toList = ['\n', '\n'] := by decide
  change "#ifndef ".toList ++ name ++ "\n#define ".toList ++ name ++ "\n\n".toList = _
  rw [hifndef, hdefine, hend]
  simp only [List.append_assoc, List.cons_append, List.nil_append]

/-- A text with a line feed at its end, unless it is empty. -/
def filled (t : Text) : Text := t ++ if t = [] ∨ t.getLast? = some '\n' then [] else ['\n']

/-- A text with a guard around it, cut at the line feeds of the guard. -/
theorem wrap_eq (name t : Text) :
    wrap name t = ('#' :: ("ifndef".toList ++ ' ' :: name))
      ++ '\n' :: (('#' :: ("define".toList ++ ' ' :: name))
        ++ '\n' :: '\n' :: (filled t ++ '\n' :: (endifLine name ++ '\n' :: []))) := by
  rw [wrap, List.append_assoc (opening name), opening_eq, filled]
  simp only [List.append_assoc, List.cons_append, List.nil_append]

/-- Putting a guard around a text without carriage returns, by its lines. -/
theorem wrap_unlines (h : ArePlain ls) (hne : ls ≠ [[]]) (name : Text) :
    wrap name (unlines ls) = unlines (wrapped name ls).lines := by
  -- A line feed is filled in exactly where the last line is not ended.
  have hfilled : filled (unlines ls) = unlines (ended ls) := by
    rw [unlines_ended h hne, filled]
    simp only [unlines_ne_nil h hne, false_or]
    split
    · rw [List.append_nil]
    · rfl
  have hbody : unlines (ended ls ++ [endifLine name, []])
      = unlines (ended ls) ++ '\n' :: (endifLine name ++ '\n' :: []) := by
    rw [unlines_append (arePlain_ended h).ne_nil (List.cons_ne_nil _ _),
      unlines_cons _ (List.cons_ne_nil _ _)]
    rfl
  have hlines : (wrapped name ls).lines = ('#' :: ("ifndef".toList ++ ' ' :: name))
      :: ('#' :: ("define".toList ++ ' ' :: name)) :: []
      :: (ended ls ++ [endifLine name, []]) := rfl
  rw [wrap_eq, hfilled, hlines, unlines_cons _ (List.cons_ne_nil _ _),
    unlines_cons _ (List.cons_ne_nil _ _), unlines_cons [] (by simp), hbody]
  rfl

end LintMend.Guard

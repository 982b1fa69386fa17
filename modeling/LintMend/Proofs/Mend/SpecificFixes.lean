import LintMend.Proofs.Mend.Guarded
import LintMend.Proofs.Placed
import Mathlib.Data.List.Dedup

/-! # Mending with the specific fixes

What a document becomes when the specific fixes of findings are applied, each once. If all messages
that suggest a name for the guard suggest the same one, the order of the findings does not matter,
and mending again changes nothing. The reason is a closed form: the text depends only on the set of
fixes that have been applied.
* `Fix.settledText`: the text after a set of fixes; `settledText_congr` says that only membership
  counts.
* `Fix.apply_settled`: one more fix leads from the closed form to that of the larger set.
* `PlacedFinding.mendFrom_of_step`: a run that takes such steps ends in the closed form of all
  fixes, by induction on the findings; `mend_placed_of_step` says the same of findings in any
  order. -/

namespace LintMend

open Text

namespace Fix

/-! ## Single fixes -/

/-- Ending a file with a line feed never fails. -/
theorem apply_trailingNewline (d : Document) (line : Int) :
    trailingNewline.apply d line = ⟨d.withText (Guard.endFeed d.text), none⟩ := by
  rw [apply, applyTrailingNewline, Guard.endFeed]
  split
  · rw [Document.withText_text]
  · rfl

/-- Naming a guard by a word never fails on a text that a file can be read as. -/
theorem apply_headerGuard {d : Document} {asked : Option Text} (h : Guard.IsLoaded d.text)
    (hword : IsWord (guardName asked d)) (line : Int) :
    (headerGuard asked).apply d line
      = ⟨d.withText (Guard.guarded (guardName asked d) d.text), none⟩ := by
  rw [apply, applyHeaderGuard, Guard.guarded]
  obtain ⟨ls, hls, hplain, hne⟩ := h.exists_lines
  have htexts : lineTexts d.text = ls := by
    rw [hls, lineTexts_unlines hplain hne]
  dsimp only
  rw [htexts]
  rcases Guard.find?_eq_none_or_exists_cut ls with hnone | ⟨k, old, rfl, hnames⟩
  · rw [hnone]
  · rw [hnames.find?]
    dsimp only
    rw [hls, Guard.rename_unlines hplain hnames hword]
    rfl

/-- The name that the guard of a document has, or that its path gives. -/
theorem guardName_none (d : Document) :
    guardName none d = ((Guard.find? (lineTexts d.text)).map Guard.name).getD
      (GuardName.ofPath d.base d.path d.root) := by
  rw [guardName]
  · cases Guard.find? (lineTexts d.text) <;> rfl
  · exact fun c word h => by cases h

/-- What is asked for is the name if it has a character. -/
theorem guardName_some {word : Text} (h : word ≠ []) (d : Document) :
    guardName (some word) d = word := by
  obtain ⟨c, rest, rfl⟩ := List.exists_cons_of_ne_nil h
  rfl

/-- The name that a guard is to have is a word if the one that is asked for is. -/
theorem isWord_guardName (hasked : ∀ word ∈ asked, IsWord word) (d : Document) :
    IsWord (guardName asked d) := by
  cases asked with
  | some word =>
      rw [guardName_some (hasked word rfl).1]
      exact hasked word rfl
  | none =>
      rw [guardName_none]
      cases hfind : Guard.find? (lineTexts d.text) with
      | none => exact GuardName.isWord_ofPath _ _ _
      | some g =>
          obtain ⟨k, -, hnames, -⟩ := Guard.find?_eq_some_iff.1 hfind
          exact hnames.isWord

/-! ## The closed form -/

/-- Whether a fix is specific and asks for no guard name but `word`. -/
def IsSettling (word : Text) (fix : Fix) : Prop :=
  fix = trailingNewline ∨ fix = headerGuard none ∨ fix = headerGuard (some word)

/-- The text of a document with its guard named as some fixes ask for: by `word` if one of them
does, else by the name that it has by default. -/
def namedText (word : Text) (fixes : List Fix) (d : Document) : Text :=
  if headerGuard (some word) ∈ fixes then Guard.guarded word d.text
  else if headerGuard none ∈ fixes then Guard.guarded (guardName none d) d.text
  else d.text

/-- The text of a document after a set of fixes. -/
def settledText (word : Text) (fixes : List Fix) (d : Document) : Text :=
  if trailingNewline ∈ fixes then Guard.endFeed (namedText word fixes d)
  else namedText word fixes d

/-- Only which fixes there are counts. -/
theorem settledText_congr {word : Text} {fixes others : List Fix}
    (h : ∀ fix, fix ∈ fixes ↔ fix ∈ others) (d : Document) :
    settledText word fixes d = settledText word others d := by
  rw [settledText, settledText, namedText, namedText]
  simp only [h]

/-- Whether the guard of a document can be named `word`: the text is one that a file can be read as,
the name is a word, and the name of the guard, if there is one, is no keyword of its directives. -/
structure CanSettle (word : Text) (d : Document) : Prop where
  /-- The text can be read from a file. -/
  loaded : Guard.IsLoaded d.text
  /-- The name is a word. -/
  isWord : IsWord word
  /-- The name of the guard is no keyword. -/
  no_keyword : ∀ guard ∈ Guard.find? (lineTexts d.text),
    guard.name ≠ "define".toList ∧ guard.name ≠ "ifndef".toList

variable {word : Text} {fixes : List Fix} {d : Document}

/-- The guard of the document can be renamed to any name. -/
theorem CanSettle.renamable (h : CanSettle word d) (name : Text) :
    ∀ guard ∈ Guard.find? (lineTexts d.text), Guard.Renamable guard.name name :=
  fun guard hguard => .inr (h.no_keyword guard hguard)

/-- The name that a guard has by default is a word and no keyword. -/
theorem CanSettle.guardName_none (h : CanSettle word d) :
    IsWord (guardName none d) ∧ guardName none d ≠ "define".toList
      ∧ guardName none d ≠ "ifndef".toList := by
  refine ⟨isWord_guardName (by simp) d, ?_⟩
  rw [Fix.guardName_none]
  cases hfind : Guard.find? (lineTexts d.text) with
  | none => exact ⟨GuardName.ofPath_ne (by decide) _ _ _, GuardName.ofPath_ne (by decide) _ _ _⟩
  | some guard => exact h.no_keyword guard hfind

/-- The text stays one that a file can be read as. -/
theorem isLoaded_namedText (h : CanSettle word d) : Guard.IsLoaded (namedText word fixes d) := by
  rw [namedText]
  split
  · exact Guard.isLoaded_guarded h.loaded h.isWord
  · split
    · exact Guard.isLoaded_guarded h.loaded h.guardName_none.1
    · exact h.loaded

/-- So does the text of the closed form. -/
theorem isLoaded_settledText (h : CanSettle word d) :
    Guard.IsLoaded (settledText word fixes d) := by
  rw [settledText]
  split
  · exact Guard.isLoaded_endFeed (isLoaded_namedText h)
  · exact isLoaded_namedText h

/-- The default name in a text whose guard has been named is that name. -/
theorem guardName_withText_guarded {name : Text} (h : CanSettle word d) (hname : IsWord name) :
    guardName none (d.withText (Guard.guarded name d.text)) = name := by
  obtain ⟨guard, hfind, hguard⟩ := Guard.find?_guarded h.loaded hname (h.renamable name)
  rw [Fix.guardName_none, Document.text_withText, hfind]
  exact hguard

/-- The default name in the closed form. -/
theorem guardName_withText_namedText (h : CanSettle word d) :
    guardName none (d.withText (namedText word fixes d))
      = if headerGuard (some word) ∈ fixes then word else guardName none d := by
  rw [namedText]
  by_cases hsome : headerGuard (some word) ∈ fixes
  · rw [if_pos hsome, if_pos hsome, guardName_withText_guarded h h.isWord]
  · rw [if_neg hsome, if_neg hsome]
    by_cases hnone : headerGuard none ∈ fixes
    · rw [if_pos hnone, guardName_withText_guarded h h.guardName_none.1]
    · rw [if_neg hnone]
      rfl

/-- The default name does not depend on how the last line ends. -/
theorem guardName_withText_endFeed (t : Text) :
    guardName none (d.withText (Guard.endFeed t)) = guardName none (d.withText t) := by
  rw [Fix.guardName_none, Fix.guardName_none, Document.text_withText, Document.text_withText,
    Guard.find?_endFeed t]
  rfl

/-- Naming the guard as asked after other fixes is one more fix in the closed form. -/
theorem guarded_namedText_some (h : CanSettle word d) :
    Guard.guarded word (namedText word fixes d)
      = namedText word (headerGuard (some word) :: fixes) d := by
  have hright : namedText word (headerGuard (some word) :: fixes) d
      = Guard.guarded word d.text := if_pos List.mem_cons_self
  obtain ⟨hname, hdefine, hifndef⟩ := h.guardName_none
  have hown : ∀ guard ∈ Guard.find? (lineTexts d.text), guardName none d = guard.name := by
    intro guard hguard
    rw [Fix.guardName_none, Option.mem_def.1 hguard]
    rfl
  -- Whatever name was given before, the guard has the name that is asked for in the end.
  rw [hright, namedText]
  split
  · exact Guard.guarded_guarded h.loaded h.isWord h.isWord (.inl rfl) (.inl rfl) (h.renamable word)
  · split
    · exact Guard.guarded_guarded h.loaded hname h.isWord (.inr hown) (.inr ⟨hdefine, hifndef⟩)
        (h.renamable word)
    · rfl

/-- Naming the guard by default after other fixes is one more fix in the closed form. -/
theorem guarded_namedText_none (h : CanSettle word d) :
    Guard.guarded (if headerGuard (some word) ∈ fixes then word else guardName none d)
        (namedText word fixes d)
      = namedText word (headerGuard none :: fixes) d := by
  have hmem : headerGuard (some word) ∈ headerGuard none :: fixes
      ↔ headerGuard (some word) ∈ fixes := by simp
  have hname := h.guardName_none.1
  -- Once a name has been asked for, it is the one that the guard has by default.
  rw [namedText, namedText]
  by_cases hsome : headerGuard (some word) ∈ fixes
  · rw [if_pos hsome, if_pos hsome, if_pos (hmem.2 hsome)]
    exact Guard.guarded_guarded h.loaded h.isWord h.isWord (.inl rfl) (.inl rfl) (h.renamable word)
  · rw [if_neg hsome, if_neg hsome, if_neg fun hin => hsome (hmem.1 hin), if_pos List.mem_cons_self]
    split
    · exact Guard.guarded_guarded h.loaded hname hname (.inl rfl) (.inl rfl) (h.renamable _)
    · rfl

/-- The name that is asked for in the closed form, whether its last line is ended or not: naming the
guard so is one more fix in the closed form. -/
theorem exists_guardName_settled {asked : Option Text} (h : CanSettle word d)
    (hasked : asked = none ∨ asked = some word) :
    ∃ name, IsWord name
      ∧ Guard.guarded name (namedText word fixes d) = namedText word (headerGuard asked :: fixes) d
      ∧ ∀ t, t = namedText word fixes d ∨ t = Guard.endFeed (namedText word fixes d) →
          guardName asked (d.withText t) = name := by
  rcases hasked with rfl | rfl
  · refine ⟨_, ?_, guarded_namedText_none h, ?_⟩
    · split
      · exact h.isWord
      · exact h.guardName_none.1
    · rintro t (rfl | rfl)
      · exact guardName_withText_namedText h
      · rw [guardName_withText_endFeed, guardName_withText_namedText h]
  · exact ⟨word, h.isWord, guarded_namedText_some h, fun t _ => guardName_some h.isWord.1 _⟩

/-- Naming the guard leads from the closed form of some fixes to that of one more. -/
theorem apply_headerGuard_settled {asked : Option Text} (h : CanSettle word d)
    (hasked : asked = none ∨ asked = some word) (line : Int) :
    (headerGuard asked).apply (d.withText (settledText word fixes d)) line
      = ⟨d.withText (settledText word (headerGuard asked :: fixes) d), none⟩ := by
  have hloaded : Guard.IsLoaded (namedText word fixes d) := isLoaded_namedText h
  obtain ⟨name, hname, hguarded, hasksName⟩ := exists_guardName_settled h hasked
  have hmem : trailingNewline ∈ headerGuard asked :: fixes ↔ trailingNewline ∈ fixes := by simp
  rw [settledText, settledText]
  by_cases hfeed : trailingNewline ∈ fixes
  · -- The last line has been ended before, and might as well be ended after.
    have hasks := hasksName _ (.inr rfl)
    rw [if_pos hfeed, if_pos (hmem.2 hfeed), apply_headerGuard, hasks, Document.text_withText,
      ← Guard.endFeed_guarded hloaded hname, hguarded]
    · rfl
    · exact Guard.isLoaded_endFeed hloaded
    · rw [hasks]
      exact hname
  · have hasks := hasksName _ (.inl rfl)
    rw [if_neg hfeed, if_neg fun hin => hfeed (hmem.1 hin), apply_headerGuard, hasks,
      Document.text_withText, hguarded]
    · rfl
    · exact hloaded
    · rw [hasks]
      exact hname

/-- One more fix leads from the closed form of some fixes to that of all of them. -/
theorem apply_settled {fix : Fix} (h : CanSettle word d) (hfix : IsSettling word fix) (line : Int) :
    fix.apply (d.withText (settledText word fixes d)) line
      = ⟨d.withText (settledText word (fix :: fixes) d), none⟩ := by
  rcases hfix with rfl | rfl | rfl
  · rw [apply_trailingNewline, Document.text_withText, settledText, settledText,
      if_pos List.mem_cons_self]
    have hnamed : namedText word (trailingNewline :: fixes) d = namedText word fixes d := by
      simp [namedText]
    rw [hnamed]
    split
    · rw [Guard.endFeed_endFeed]
      rfl
    · rfl
  · exact apply_headerGuard_settled h (.inl rfl) line
  · exact apply_headerGuard_settled h (.inr rfl) line

end Fix

namespace PlacedFinding

/-! ## Runs -/

/-- A run in which every fix leads from the document of some fixes to that of one more ends in the
document of all fixes of the findings, each of which counts once. -/
theorem mendFrom_of_step {state : List Fix → Document} {ps : List PlacedFinding}
    (hstep : ∀ done, ∀ p ∈ ps, ∀ fix ∈ p.specificFix?,
      fix.apply (state done) p.line = ⟨state (fix :: done), none⟩)
    {done : List Fix} (hnodup : done.Nodup) :
    ∃ fixes : List Fix, fixes.Nodup
      ∧ (∀ fix, fix ∈ fixes ↔ fix ∈ done ∨ fix ∈ ps.filterMap specificFix?)
      ∧ mendFrom done (state done) ps = ⟨state fixes, fixes.length, none⟩ := by
  -- What the run has done is kept without repetitions, so its length is the count.
  induction ps generalizing done with
  | nil => exact ⟨done, hnodup, fun fix => by simp, rfl⟩
  | cons p others ih =>
      have hothers : ∀ done, ∀ q ∈ others, ∀ fix ∈ q.specificFix?,
          fix.apply (state done) q.line = ⟨state (fix :: done), none⟩ := fun done q hq =>
        hstep done q (List.mem_cons_of_mem p hq)
      cases hfix : p.specificFix? with
      | none =>
          rw [mendFrom, hfix, List.filterMap_cons_none hfix]
          exact ih hothers hnodup
      | some fix =>
          rw [mendFrom, hfix, List.filterMap_cons_some hfix]
          dsimp only
          by_cases hdone : fix ∈ done
          · -- a fix that was done is skipped
            rw [if_pos hdone]
            obtain ⟨fixes, hfixes, hmem, hrun⟩ := ih hothers hnodup
            refine ⟨fixes, hfixes, fun other => ?_, hrun⟩
            rw [hmem, List.mem_cons]
            constructor
            · exact Or.imp_right .inr
            · rintro (hin | rfl | hin)
              · exact .inl hin
              · exact .inl hdone
              · exact .inr hin
          · rw [if_neg hdone, hstep done p List.mem_cons_self fix hfix]
            obtain ⟨fixes, hfixes, hmem, hrun⟩ := ih hothers (List.nodup_cons.2 ⟨hdone, hnodup⟩)
            refine ⟨fixes, hfixes, fun other => ?_, hrun⟩
            rw [hmem, List.mem_cons, List.mem_cons, or_assoc, or_left_comm]

/-- The same for a run from the last line to the first: the order is lost, and the fixes are
counted. -/
theorem mend_of_step {state : List Fix → Document} {ps : List PlacedFinding}
    (hstep : ∀ done, ∀ p ∈ ps, ∀ fix ∈ p.specificFix?,
      fix.apply (state done) p.line = ⟨state (fix :: done), none⟩) :
    ∃ fixes : List Fix, (∀ fix, fix ∈ fixes ↔ fix ∈ ps.filterMap specificFix?)
      ∧ mend (state []) ps = ⟨state fixes, (ps.filterMap specificFix?).dedup.length, none⟩ := by
  -- Sorting permutes the findings, and neither which fixes there are nor how many depends on that.
  have hperm := fromLastLine_perm ps
  have hsorted : ∀ done, ∀ p ∈ fromLastLine ps, ∀ fix ∈ p.specificFix?,
      fix.apply (state done) p.line = ⟨state (fix :: done), none⟩ := fun done p hp =>
    hstep done p (hperm.mem_iff.1 hp)
  obtain ⟨fixes, hnodup, hmem, hrun⟩ := mendFrom_of_step hsorted List.nodup_nil
  have hfixes : ∀ fix, fix ∈ fixes ↔ fix ∈ ps.filterMap specificFix? := by
    intro fix
    rw [hmem, (hperm.filterMap specificFix?).mem_iff]
    simp
  have hcount : fixes.length = (ps.filterMap specificFix?).dedup.length := by
    refine ((List.perm_ext_iff_of_nodup hnodup (List.nodup_dedup _)).2 fun fix => ?_).length_eq
    rw [hfixes, List.mem_dedup]
  refine ⟨fixes, hfixes, ?_⟩
  rw [mend, hrun, hcount]

/-! ## Findings -/

/-- The specific fixes of some findings. -/
def fixesOf (fs : List Finding) : List Fix :=
  fs.filterMap fun f => Fix.specific? f.category f.message

/-- Placing findings in a document that is not empty loses no fix. -/
theorem filterMap_specificFix?_place? {d : Document} (h : d.text ≠ []) (fs : List Finding) :
    (fs.filterMap (place? d)).filterMap specificFix? = fixesOf fs := by
  rw [List.filterMap_filterMap, fixesOf]
  refine List.filterMap_congr fun f _ => ?_
  rw [place?]
  cases hline : d.lineIndex? f.line with
  | none => exact absurd (Document.lineIndex?_eq_none_iff.1 hline) h
  | some line => rfl

/-- A run over placed findings, in any order, in which their fixes lead from the document of some
fixes to that of one more ends in the document of all fixes of the findings. -/
theorem mend_placed_of_step (state : List Fix → Document) {d : Document} (hstart : state [] = d)
    {fs : List Finding} {ps : List PlacedFinding} (hne : d.text ≠ [])
    (hps : ps.Perm (fs.filterMap (place? d)))
    (hstep : ∀ done, ∀ fix ∈ fixesOf fs, ∀ line,
      fix.apply (state done) line = ⟨state (fix :: done), none⟩) :
    ∃ fixes : List Fix, (∀ fix, fix ∈ fixes ↔ fix ∈ fixesOf fs)
      ∧ mend d ps = ⟨state fixes, (fixesOf fs).dedup.length, none⟩
      ∧ (fixesOf fs).dedup.length = (ps.filterMap specificFix?).dedup.length := by
  have hperm : (ps.filterMap specificFix?).Perm (fixesOf fs) := by
    rw [← filterMap_specificFix?_place? hne]
    exact hps.filterMap specificFix?
  have hstepPlaced : ∀ done, ∀ p ∈ ps, ∀ fix ∈ p.specificFix?,
      fix.apply (state done) p.line = ⟨state (fix :: done), none⟩ := by
    intro done p hp fix hfix
    have hmem : fix ∈ ps.filterMap specificFix? := List.mem_filterMap.2 ⟨p, hp, hfix⟩
    exact hstep done fix (hperm.mem_iff.1 hmem) p.line
  have hcount := hperm.dedup.length_eq
  obtain ⟨fixes, hfixes, hrun⟩ := mend_of_step hstepPlaced
  rw [hcount, hstart] at hrun
  exact ⟨fixes, fun fix => (hfixes fix).trans hperm.mem_iff, hrun, hcount.symm⟩

/-- If all messages that suggest a guard name suggest the same one, it is a word. -/
theorem exists_isWord_suggested {fs : List Finding}
    (hsame : ∀ f ∈ fs, ∀ g ∈ fs, f.category = Fix.guardCategory → g.category = Fix.guardCategory →
      ∀ v ∈ GuardName.suggested? f.message, ∀ w ∈ GuardName.suggested? g.message, v = w) :
    ∃ word, IsWord word ∧ ∀ f ∈ fs, f.category = Fix.guardCategory →
      ∀ v ∈ GuardName.suggested? f.message, v = word := by
  by_cases hsome : ∃ f ∈ fs, f.category = Fix.guardCategory
      ∧ ∃ v, GuardName.suggested? f.message = some v
  · obtain ⟨f, hf, hcategory, word, hword⟩ := hsome
    refine ⟨word, GuardName.isWord_of_suggested? hword, fun g hg hguard v hv => ?_⟩
    exact hsame g hg f hf hguard hcategory v hv word hword
  · -- no message suggests a name, so any word will do
    refine ⟨['_'], by decide, fun f hf hguard v hv => ?_⟩
    exact absurd ⟨f, hf, hguard, v, hv⟩ hsome

/-- If there is only one name that messages suggest, the specific fixes ask for no other. -/
theorem isSettling_of_mem_fixesOf {fs : List Finding} {word : Text}
    (hall : ∀ f ∈ fs, f.category = Fix.guardCategory →
      ∀ v ∈ GuardName.suggested? f.message, v = word) {fix : Fix} (hfix : fix ∈ fixesOf fs) :
    Fix.IsSettling word fix := by
  obtain ⟨f, hf, hspecific⟩ := List.mem_filterMap.1 hfix
  rcases Fix.eq_of_specific? hspecific with ⟨hguard, rfl⟩ | rfl
  · cases hname : GuardName.suggested? f.message with
    | none => exact .inr (.inl rfl)
    | some v =>
        obtain rfl := hall f hf hguard v hname
        exact .inr (.inr rfl)
  · exact .inl rfl

/-- Mending with the specific fixes of findings does not depend on their order and converges. On a
text as a file is read, with a guard that can be renamed if there is one, and with at most one name
suggested for it, every order of the findings leaves the same text and counts each distinct fix
once; the same findings, placed in that text in any order, leave it as it is. -/
theorem mend_settles {d : Document} (hne : d.text ≠ []) (hcarriage : '\r' ∉ d.text)
    (hguard : ∀ guard ∈ Guard.find? (lineTexts d.text),
      guard.name ≠ "define".toList ∧ guard.name ≠ "ifndef".toList)
    (fs : List Finding)
    (hsame : ∀ f ∈ fs, ∀ g ∈ fs, f.category = Fix.guardCategory → g.category = Fix.guardCategory →
      ∀ v ∈ GuardName.suggested? f.message, ∀ w ∈ GuardName.suggested? g.message, v = w) :
    ∃ t n,
      (∀ ps, ps.Perm (fs.filterMap (place? d)) →
        mend d ps = ⟨d.withText t, n, none⟩ ∧ n = (ps.filterMap specificFix?).dedup.length)
      ∧ ∀ ps, ps.Perm (fs.filterMap (place? (d.withText t))) →
          mend (d.withText t) ps = ⟨d.withText t, n, none⟩ := by
  obtain ⟨word, hword, hall⟩ := exists_isWord_suggested hsame
  have hcan : Fix.CanSettle word d := ⟨⟨hne, hcarriage⟩, hword, hguard⟩
  refine ⟨Fix.settledText word (fixesOf fs) d, (fixesOf fs).dedup.length, fun ps hps => ?_,
    fun ps hps => ?_⟩
  · -- Each fix leads from one closed form to the next.
    have hstep : ∀ done, ∀ fix ∈ fixesOf fs, ∀ line,
        fix.apply (d.withText (Fix.settledText word done d)) line
          = ⟨d.withText (Fix.settledText word (fix :: done) d), none⟩ := fun done fix hfix line =>
      Fix.apply_settled hcan (isSettling_of_mem_fixesOf hall hfix) line
    obtain ⟨fixes, hfixes, hrun, hcount⟩ := mend_placed_of_step
      (fun done => d.withText (Fix.settledText word done d)) d.withText_text hne hps hstep
    rw [Fix.settledText_congr hfixes] at hrun
    exact ⟨hrun, hcount⟩
  · -- In the closed form of all fixes each of them is done already.
    have hnonempty : (d.withText (Fix.settledText word (fixesOf fs) d)).text ≠ [] :=
      (Fix.isLoaded_settledText hcan).ne_nil
    have hstep : ∀ _ : List Fix, ∀ fix ∈ fixesOf fs, ∀ line,
        fix.apply (d.withText (Fix.settledText word (fixesOf fs) d)) line
          = ⟨d.withText (Fix.settledText word (fixesOf fs) d), none⟩ := by
      intro _ fix hfix line
      have hsame : ∀ other, other ∈ fix :: fixesOf fs ↔ other ∈ fixesOf fs := fun other => by
        rw [List.mem_cons, or_iff_right_of_imp]
        rintro rfl
        exact hfix
      rw [Fix.apply_settled hcan (isSettling_of_mem_fixesOf hall hfix), Fix.settledText_congr hsame]
    obtain ⟨fixes, -, hrun, -⟩ := mend_placed_of_step
      (fun _ => d.withText (Fix.settledText word (fixesOf fs) d)) rfl hnonempty hps hstep
    exact hrun

/-- A header whose last line is its closing one, with nothing at its end. -/
def guardedHeader : Document :=
  ⟨"#ifndef A_H\n# define A_H // A_H\n#endif".toList, none, none, []⟩

/-- Findings on its guard, two of which suggest a name, and on its end. -/
def headerFindings : List Finding :=
  [⟨3, "No newline at the end".toList, Fix.newlineCategory, 5⟩,
    ⟨3, "The #endif names no guard".toList, Fix.guardCategory, 5⟩,
    ⟨0, "No guard found, please use: B_H_".toList, Fix.guardCategory, 5⟩,
    ⟨1, "Wrong guard, Please Use:  B_H_ instead".toList, Fix.guardCategory, 5⟩]

/-- Three distinct fixes of four findings settle the header in every order, and once. -/
theorem mend_settles_guardedHeader :
    (guardedHeader.text ≠ [] ∧ '\r' ∉ guardedHeader.text
      ∧ ∀ guard ∈ Guard.find? (lineTexts guardedHeader.text),
          guard.name ≠ "define".toList ∧ guard.name ≠ "ifndef".toList)
      ∧ ∃ t, t = "#ifndef B_H_\n# define B_H_ // B_H_\n#endif  // B_H_\n".toList
        ∧ (∀ ps, ps.Perm (headerFindings.filterMap (place? guardedHeader)) →
            mend guardedHeader ps = ⟨guardedHeader.withText t, 3, none⟩)
        ∧ ∀ ps, ps.Perm (headerFindings.filterMap (place? (guardedHeader.withText t))) →
            mend (guardedHeader.withText t) ps = ⟨guardedHeader.withText t, 3, none⟩ := by
  have hne : guardedHeader.text ≠ [] := by decide
  have hcarriage : '\r' ∉ guardedHeader.text := by decide
  have hguard : ∀ guard ∈ Guard.find? (lineTexts guardedHeader.text),
      guard.name ≠ "define".toList ∧ guard.name ≠ "ifndef".toList := by decide +kernel
  have hsame : ∀ f ∈ headerFindings, ∀ g ∈ headerFindings, f.category = Fix.guardCategory →
      g.category = Fix.guardCategory → ∀ v ∈ GuardName.suggested? f.message,
        ∀ w ∈ GuardName.suggested? g.message, v = w := by decide +kernel
  obtain ⟨t, n, hrun, hagain⟩ := mend_settles hne hcarriage hguard headerFindings hsame
  have hleft : mend guardedHeader (headerFindings.filterMap (place? guardedHeader))
      = ⟨guardedHeader.withText
          "#ifndef B_H_\n# define B_H_ // B_H_\n#endif  // B_H_\n".toList, 3, none⟩ := by
    have hsorted : fromLastLine (headerFindings.filterMap (place? guardedHeader))
        = headerFindings.filterMap (place? guardedHeader) :=
      List.mergeSort_of_pairwise (by decide +kernel)
    rw [mend, hsorted]
    decide +kernel
  have heq := (hrun _ (List.Perm.refl _)).1.symm.trans hleft
  obtain rfl : n = 3 := congrArg Mending.count heq
  exact ⟨⟨hne, hcarriage, hguard⟩, t, congrArg (fun m : Mending => m.document.text) heq,
    fun ps hps => (hrun ps hps).1, hagain⟩

end PlacedFinding

end LintMend

import LintMend.Proofs.Mend.FoundGuard

/-! # Texts with their guard named

Naming the guard of a text, or putting one around it, as one operation on texts, and how it goes
together with itself and with ending the last line. The texts are those that a file can be read as:
not empty, and without carriage returns.
* `guarded`, `endFeed`: a text with its guard named, and a text that a line feed ends.
* `find?_guarded`: the guard is found under its name.
* `guarded_guarded`: of two namings the last one counts, if the first gave the name that was there.
* `endFeed_guarded`: it does not matter whether the last line is ended before or after. -/

namespace LintMend.Guard

open Text

/-- A text with its guard named, or with one put around it. -/
def guarded (name t : Text) : Text :=
  match find? (lineTexts t) with
  | none => wrap name t
  | some guard => (guard.rename name t).1

/-- A text that a line feed ends. -/
def endFeed (t : Text) : Text := if t.getLast? = some '\n' then t else t ++ ['\n']

/-- Whether a text is not empty and holds no carriage return. -/
structure IsLoaded (t : Text) : Prop where
  /-- It has characters. -/
  ne_nil : t ≠ []
  /-- It holds no carriage return. -/
  carriage : '\r' ∉ t

/-! ## Lines -/

variable {ls : List Text} {k : Cut} {name old new t : Text}

/-- A text that is not empty and holds no carriage return is made of plain lines. -/
theorem IsLoaded.exists_lines (h : IsLoaded t) :
    ∃ ls, t = unlines ls ∧ ArePlain ls ∧ ls ≠ [[]] := by
  refine ⟨feedPieces t, (unlines_feedPieces t).symm, arePlain_feedPieces h.carriage, ?_⟩
  intro hpieces
  have ht := unlines_feedPieces t
  rw [hpieces] at ht
  exact h.ne_nil ht.symm

/-- Plain lines make such a text, unless there is only an empty one. -/
theorem isLoaded_unlines (h : ArePlain ls) (hne : ls ≠ [[]]) : IsLoaded (unlines ls) :=
  ⟨unlines_ne_nil h hne, not_mem_unlines h⟩

/-- Lines have no guard, or are cut at it. -/
theorem find?_eq_none_or_exists_cut (ls : List Text) :
    find? ls = none ∨ ∃ (k : Cut) (name : Text), ls = k.lines ∧ k.Names name := by
  cases h : find? ls with
  | none => exact .inl rfl
  | some g =>
      obtain ⟨k, hlines, hnames, -⟩ := find?_eq_some_iff.1 h
      exact .inr ⟨k, g.name, hlines.symm, hnames⟩

/-- A guard is put around lines that have none. -/
theorem guarded_unlines_of_none (h : ArePlain ls) (hne : ls ≠ [[]]) (hnone : find? ls = none)
    (name : Text) : guarded name (unlines ls) = unlines (wrapped name ls).lines := by
  rw [guarded, lineTexts_unlines h hne, hnone]
  exact wrap_unlines h hne name

/-- The guard of lines that are cut at one is renamed. -/
theorem guarded_unlines_of_names (h : ArePlain k.lines) (hnames : k.Names old)
    (hword : IsWord new) : guarded new (unlines k.lines) = unlines (k.renamed old new).lines := by
  rw [guarded, lineTexts_unlines h k.lines_ne_singleton, hnames.find?]
  exact congrArg Prod.fst (rename_unlines h hnames hword)

/-- Ending the last line of a text, by its lines. -/
theorem endFeed_unlines (h : ArePlain ls) (hne : ls ≠ [[]]) :
    endFeed (unlines ls) = unlines (ended ls) := by
  rw [endFeed, unlines_ended h hne]

/-- More than one empty line is left when lines are ended. -/
theorem ended_ne_singleton (hne : ls ≠ [[]]) (h : ls ≠ []) : ended ls ≠ [[]] := by
  rw [ended]
  split
  · exact hne
  · intro heq
    have hcancel : ls ++ [[]] = [] ++ [[]] := heq
    exact h (List.append_cancel_right hcancel)

/-! ## Ending the last line -/

/-- The lines of a cut that are ended are cut at the same guard. -/
theorem Cut.Names.ended (h : k.Names name) :
    Text.ended k.lines = { k with back := Text.ended k.back }.lines
      ∧ { k with back := Text.ended k.back }.Names name := by
  refine ⟨?_, h.front, h.ifndef, h.blank, h.define⟩
  rw [Cut.lines_eq_before_append, Cut.lines_eq_before_append, ended_append_cons h.defineLine_ne_nil]
  rfl

/-- Ending the last line changes nothing about the guard that is found. -/
theorem find?_ended (ls : List Text) : find? (ended ls) = find? ls := by
  rw [ended]
  split
  · rfl
  · exact find?_concat_nil ls

/-- Renewing the closing line and ending the last line do not meet. -/
theorem renewed_ended (name : Text) (ls : List Text) :
    renewed name (ended ls) = ended (renewed name ls) := by
  -- An empty line does not close, so the last closing line of the ended lines is the same one.
  have hnil : Directive.isEndif [] = false := by decide
  have hfeed : ∀ {back : List Text}, (∀ m ∈ back, Directive.isEndif m = false) →
      ∀ m ∈ ended back, Directive.isEndif m = false := by
    intro back hback
    rw [ended]
    split
    · exact hback
    · exact List.forall_mem_append.2 ⟨hback, List.forall_mem_singleton.2 hnil⟩
  rcases forall_not_or_exists_last ls with h | ⟨front, l, back, rfl, hl, hback⟩
  · rw [renewed_of_forall_not (hfeed h), renewed_of_forall_not h]
  · have hne : l ≠ [] := fun heq => absurd hl (by rw [heq, hnil]; decide)
    have hendif : endifLine name ≠ [] := by
      rw [endifLine_eq]
      exact List.cons_ne_nil _ _
    rw [ended_append_cons hne, renewed_append_cons hl (hfeed hback), renewed_append_cons hl hback,
      ended_append_cons hendif]

/-- A file that a guard has been put around ends with a line feed. -/
theorem ended_lines_wrapped (name : Text) (ls : List Text) :
    ended (wrapped name ls).lines = (wrapped name ls).lines := by
  have hsplit : (wrapped name ls).lines = (('#' :: ("ifndef".toList ++ ' ' :: name))
      :: ('#' :: ("define".toList ++ ' ' :: name)) :: [] :: (ended ls ++ [endifLine name]))
      ++ [[]] := by
    simp [wrapped, Cut.lines]
  have hlast : (wrapped name ls).lines.getLast? = some [] := by
    rw [hsplit, List.getLast?_concat]
  rw [ended, if_pos hlast]

/-- A text is ended once. -/
theorem endFeed_endFeed (t : Text) : endFeed (endFeed t) = endFeed t := by
  have hfeed : (endFeed t).getLast? = some '\n' := by
    rw [endFeed]
    split
    · next h => exact h
    · exact List.getLast?_concat
  rw [endFeed, if_pos hfeed]

/-- A text that has been ended is one that a file can be read as. -/
theorem isLoaded_endFeed (h : IsLoaded t) : IsLoaded (endFeed t) := by
  obtain ⟨ls, rfl, hplain, hne⟩ := h.exists_lines
  rw [endFeed_unlines hplain hne]
  exact isLoaded_unlines (arePlain_ended hplain) (ended_ne_singleton hne hplain.ne_nil)

/-! ## Naming -/

/-- A text with its guard named is one that a file can be read as. -/
theorem isLoaded_guarded (h : IsLoaded t) (hword : IsWord name) : IsLoaded (guarded name t) := by
  obtain ⟨ls, rfl, hplain, hne⟩ := h.exists_lines
  rcases find?_eq_none_or_exists_cut ls with hnone | ⟨k, old, rfl, hnames⟩
  · rw [guarded_unlines_of_none hplain hne hnone]
    exact isLoaded_unlines (arePlain_wrapped hplain hword) (Cut.lines_ne_singleton _)
  · rw [guarded_unlines_of_names hplain hnames hword]
    exact isLoaded_unlines (Cut.arePlain_renamed hplain hword) (Cut.lines_ne_singleton _)

/-- It does not matter whether the last line is ended before the guard is named or after. -/
theorem endFeed_guarded (h : IsLoaded t) (hword : IsWord name) :
    endFeed (guarded name t) = guarded name (endFeed t) := by
  obtain ⟨ls, rfl, hplain, hne⟩ := h.exists_lines
  rw [endFeed_unlines hplain hne]
  rcases find?_eq_none_or_exists_cut ls with hnone | ⟨k, old, rfl, hnames⟩
  · -- A guard is put around ended lines in either case.
    rw [guarded_unlines_of_none hplain hne hnone,
      guarded_unlines_of_none (arePlain_ended hplain) (ended_ne_singleton hne hplain.ne_nil)
        ((find?_ended ls).trans hnone),
      endFeed_unlines (arePlain_wrapped hplain hword) (Cut.lines_ne_singleton _),
      ended_lines_wrapped, wrapped, wrapped, ended_ended]
  · -- The line that is ended is behind the `#define`, where only the closing line is renewed.
    obtain ⟨hended, hnamesEnded⟩ := hnames.ended
    have hplainEnded := arePlain_ended hplain
    rw [hended] at hplainEnded ⊢
    rw [guarded_unlines_of_names hplain hnames hword,
      guarded_unlines_of_names hplainEnded hnamesEnded hword,
      endFeed_unlines (Cut.arePlain_renamed hplain hword) (Cut.lines_ne_singleton _)]
    have hdefine : replaceWord old name k.defineLine ≠ [] :=
      replaceWord_ne_nil hnames.defineLine_ne_nil hword.1
    have hback : (k.renamed old name).back = renewed name k.back := rfl
    have hbackEnded : ({ k with back := ended k.back }.renamed old name).back
        = ended (renewed name k.back) := renewed_ended name k.back
    rw [Cut.lines_eq_before_append, Cut.lines_eq_before_append, hback, hbackEnded]
    exact congrArg unlines (ended_append_cons hdefine)

/-- The guard of a text that a guard has been named in has that name. -/
theorem find?_guarded (h : IsLoaded t) (hword : IsWord name)
    (hrename : ∀ g ∈ find? (lineTexts t), Renamable g.name name) :
    ∃ g, find? (lineTexts (guarded name t)) = some g ∧ g.name = name := by
  obtain ⟨ls, rfl, hplain, hne⟩ := h.exists_lines
  rw [lineTexts_unlines hplain hne] at hrename
  rcases find?_eq_none_or_exists_cut ls with hnone | ⟨k, old, rfl, hnames⟩
  · rw [guarded_unlines_of_none hplain hne hnone,
      lineTexts_unlines (arePlain_wrapped hplain hword) (Cut.lines_ne_singleton _)]
    exact ⟨_, (names_wrapped hword ls).find?, rfl⟩
  · rw [guarded_unlines_of_names hplain hnames hword,
      lineTexts_unlines (Cut.arePlain_renamed hplain hword) (Cut.lines_ne_singleton _)]
    exact ⟨_, (hnames.renamed hword (hrename _ hnames.find?)).find?, rfl⟩

/-- The guard that is found is the same after the last line has been ended. -/
theorem find?_endFeed (t : Text) : find? (lineTexts (endFeed t)) = find? (lineTexts t) := by
  rw [endFeed]
  split
  · rfl
  · exact find?_append_feed t

/-- Of two namings the last one counts, if the first one gave the name that the guard had, or the
one that it gets. -/
theorem guarded_guarded (h : IsLoaded t) (hold : IsWord old) (hnew : IsWord new)
    (hfirst : old = new ∨ ∀ g ∈ find? (lineTexts t), old = g.name) (hrename : Renamable old new)
    (hrenames : ∀ g ∈ find? (lineTexts t), Renamable g.name new) :
    guarded new (guarded old t) = guarded new t := by
  obtain ⟨ls, rfl, hplain, hne⟩ := h.exists_lines
  rw [lineTexts_unlines hplain hne] at hfirst hrenames
  rcases find?_eq_none_or_exists_cut ls with hnone | ⟨k, name, rfl, hnames⟩
  · -- The first naming puts a guard around the lines, and the second one renames that guard.
    rw [guarded_unlines_of_none hplain hne hnone, guarded_unlines_of_none hplain hne hnone,
      guarded_unlines_of_names (arePlain_wrapped hplain hold) (names_wrapped hold ls) hnew,
      renamed_wrapped hold hnew hrename]
  · have hname := hrenames _ hnames.find?
    rw [guarded_unlines_of_names hplain hnames hold, guarded_unlines_of_names hplain hnames hnew]
    have hplainOld : ArePlain (k.renamed name old).lines := Cut.arePlain_renamed hplain hold
    rcases hfirst with rfl | hown
    · -- the guard has the new name already
      rw [guarded_unlines_of_names hplainOld (hnames.renamed hnew hname) hnew,
        Cut.renamed_renamed_self]
    · -- the guard kept the name that it had
      obtain rfl : old = name := hown _ hnames.find?
      rw [guarded_unlines_of_names hplainOld (hnames.renamed hold (.inl rfl)) hnew,
        Cut.renamed_self_renamed]

end LintMend.Guard

import LintMend.Proofs.Mend.Offered

/-! # The fixes that mending picks

Mending goes through the findings from the last line of the document to the first and picks the
specific fix of each, unless the same one was picked before. What it does to the document is the run
of these fixes, each on the line of its finding.
* `Fix.exists_withText_run`: fixes change nothing of a document but its text.
* `PlacedFinding.picked`: the fixes that are picked, with their lines.
* `PlacedFinding.ArePicked`: each specific fix of some findings once, from the last line to the
  first; `arePicked_picked` says that these are picked.
* `PlacedFinding.mend_eq_run`: mending is the run of the fixes that are picked, if no fix fails. -/

namespace LintMend

namespace Fix

/-- A fix changes nothing of a document but its text. -/
theorem exists_withText_apply (fix : Fix) (d : Document) (line : Int) :
    ∃ t, (fix.apply d line).document = d.withText t := by
  cases fix with
  | suppression category =>
      rw [apply, applySuppression]
      split
      · exact ⟨d.text, d.withText_text.symm⟩
      · split
        · exact ⟨d.text, d.withText_text.symm⟩
        · exact ⟨_, rfl⟩
  | headerGuard asked =>
      rw [apply, applyHeaderGuard]
      split
      · exact ⟨_, rfl⟩
      · exact ⟨_, rfl⟩
  | trailingNewline => exact ⟨_, congrArg Mended.document (apply_trailingNewline d line)⟩

/-- Neither does a run of fixes. -/
theorem exists_withText_run (steps : List (Fix × Int)) (d : Document) :
    ∃ t, (run d steps).document = d.withText t := by
  induction steps generalizing d with
  | nil => exact ⟨d.text, d.withText_text.symm⟩
  | cons step steps ih =>
      obtain ⟨fix, line⟩ := step
      obtain ⟨t, ht⟩ := exists_withText_apply fix d line
      rw [run]
      split
      · next mended happly =>
          rw [happly] at ht
          obtain ⟨u, hu⟩ := ih mended
          exact ⟨u, by rw [hu, show mended = d.withText t from ht]; rfl⟩
      · next left fault happly =>
          rw [happly] at ht
          exact ⟨t, ht⟩

end Fix

namespace PlacedFinding

variable {ps : List PlacedFinding} {done : List Fix} {d : Document}

/-- The specific fixes of findings that are not done yet, each with the line of the first finding
that it is made for. -/
def pickedFrom (done : List Fix) : List PlacedFinding → List (Fix × Int)
  | [] => []
  | p :: others =>
      match p.specificFix? with
      | none => pickedFrom done others
      | some fix =>
          if fix ∈ done then pickedFrom done others
          else (fix, p.line) :: pickedFrom (fix :: done) others

/-- The specific fixes of findings, from the last line to the first. -/
def picked (ps : List PlacedFinding) : List (Fix × Int) := pickedFrom [] (fromLastLine ps)

/-! ## What is picked -/

/-- A fix is picked if it is made for a finding and not done yet. -/
theorem mem_map_pickedFrom_iff {fix : Fix} :
    fix ∈ (pickedFrom done ps).map Prod.fst
      ↔ fix ∉ done ∧ ∃ p ∈ ps, p.specificFix? = some fix := by
  induction ps generalizing done with
  | nil => simp [pickedFrom]
  | cons p others ih =>
      rw [pickedFrom, List.exists_mem_cons_iff]
      cases hfix : p.specificFix? with
      | none => simpa using ih
      | some other =>
          dsimp only
          by_cases hdone : other ∈ done
          · rw [if_pos hdone, ih]
            refine and_congr_right fun hnew => (or_iff_right ?_).symm
            rintro ⟨⟩
            exact hnew hdone
          · rw [if_neg hdone, List.map_cons, List.mem_cons, ih, List.mem_cons, not_or]
            by_cases hsame : fix = other
            · subst hsame
              exact iff_of_true (.inl rfl) ⟨hdone, .inl rfl⟩
            · have hother : ¬some other = some fix := fun h => hsame (Option.some.inj h).symm
              rw [or_iff_right hsame, or_iff_right hother, and_iff_right hsame]

/-- No fix is picked twice. -/
theorem nodup_map_pickedFrom (done : List Fix) (ps : List PlacedFinding) :
    ((pickedFrom done ps).map Prod.fst).Nodup := by
  induction ps generalizing done with
  | nil => exact List.nodup_nil
  | cons p others ih =>
      rw [pickedFrom]
      split
      · exact ih done
      · next fix _ =>
          split
          · exact ih done
          · rw [List.map_cons, List.nodup_cons, mem_map_pickedFrom_iff]
            exact ⟨fun h => h.1 List.mem_cons_self, ih (fix :: done)⟩

/-- What is picked are fixes of findings, in their order, with their lines. -/
theorem pickedFrom_sublist (done : List Fix) (ps : List PlacedFinding) :
    (pickedFrom done ps).Sublist
      (ps.filterMap fun p => p.specificFix?.map fun fix => (fix, (p.line : Int))) := by
  induction ps generalizing done with
  | nil => exact List.Sublist.refl []
  | cons p others ih =>
      rw [pickedFrom]
      cases hfix : p.specificFix? with
      | none =>
          rw [List.filterMap_cons_none (by rw [hfix]; rfl)]
          exact ih done
      | some fix =>
          rw [List.filterMap_cons_some (by rw [hfix]; rfl)]
          dsimp only
          split
          · exact (ih done).cons _
          · exact (ih (fix :: done)).cons_cons _

/-- Whether steps take each specific fix of some findings once, from the last line to the first. -/
structure ArePicked (ps : List PlacedFinding) (steps : List (Fix × Int)) : Prop where
  /-- No fix is taken twice. -/
  nodup : (steps.map Prod.fst).Nodup
  /-- The specific fixes are taken, and no others. -/
  mem_iff : ∀ fix, fix ∈ steps.map Prod.fst ↔ ∃ p ∈ ps, p.specificFix? = some fix
  /-- Each is taken for a finding that it is made for, on its line. -/
  line : ∀ step ∈ steps, ∃ p ∈ ps, p.specificFix? = some step.1 ∧ step.2 = p.line
  /-- No step is on a line behind that of the step before. -/
  sorted : steps.Pairwise fun step next => next.2 ≤ step.2

/-- The steps that mending takes do so. -/
theorem arePicked_picked (ps : List PlacedFinding) : ArePicked ps (picked ps) := by
  have hmem : ∀ p, p ∈ fromLastLine ps ↔ p ∈ ps := fun p => (fromLastLine_perm ps).mem_iff
  have hsub := pickedFrom_sublist [] (fromLastLine ps)
  constructor
  · exact nodup_map_pickedFrom [] _
  · intro fix
    rw [picked, mem_map_pickedFrom_iff, and_iff_right List.not_mem_nil]
    simp only [hmem]
  · intro step hstep
    obtain ⟨p, hp, hmap⟩ := List.mem_filterMap.1 (hsub.subset hstep)
    obtain ⟨fix, hfix, rfl⟩ := Option.map_eq_some_iff.1 hmap
    exact ⟨p, (hmem p).1 hp, hfix, rfl⟩
  · refine List.Pairwise.sublist hsub ?_
    rw [List.pairwise_filterMap]
    have hsorted : (fromLastLine ps).Pairwise fun p q => q.line ≤ p.line := by
      refine (List.pairwise_mergeSort ?_ ?_ ps).imp of_decide_eq_true
      · intro p q r hpq hqr
        simp only [decide_eq_true_eq] at hpq hqr ⊢
        omega
      · intro p q
        simp only [Bool.or_eq_true, decide_eq_true_eq]
        omega
    refine hsorted.imp fun {p q} hle step hp next hq => ?_
    obtain ⟨-, -, rfl⟩ := Option.map_eq_some_iff.1 hp
    obtain ⟨-, -, rfl⟩ := Option.map_eq_some_iff.1 hq
    exact Int.ofNat_le.2 hle

/-- There are as many steps as distinct specific fixes. -/
theorem ArePicked.length_eq {steps : List (Fix × Int)} (h : ArePicked ps steps) :
    steps.length = (ps.filterMap specificFix?).dedup.length := by
  rw [← List.length_map Prod.fst]
  refine ((List.perm_ext_iff_of_nodup h.nodup (List.nodup_dedup _)).2 fun fix => ?_).length_eq
  rw [h.mem_iff, List.mem_dedup, List.mem_filterMap]

/-- The specific fix of a single finding is the only one. -/
theorem ArePicked.eq_singleton {p : PlacedFinding} {fix : Fix} {steps : List (Fix × Int)}
    (h : ArePicked [p] steps) (hfix : p.specificFix? = some fix) :
    steps = [(fix, (p.line : Int))] := by
  have hlength : steps.length = 1 := by
    rw [h.length_eq, List.filterMap_cons_some hfix]
    rfl
  obtain ⟨step, rfl⟩ := List.length_eq_one_iff.1 hlength
  obtain ⟨q, hq, hspecific, hline⟩ := h.line step (List.mem_singleton_self step)
  obtain rfl := List.mem_singleton.1 hq
  have hsame : step.1 = fix := Option.some.inj (hspecific.symm.trans hfix)
  rw [← hsame, ← hline]

/-- Mending runs the fixes that are picked, if none of them fails. -/
theorem mendFrom_eq_run (h : (Fix.run d (pickedFrom done ps)).fault = none) :
    mendFrom done d ps = ⟨(Fix.run d (pickedFrom done ps)).document,
      (pickedFrom done ps).length + done.length, none⟩ := by
  induction ps generalizing done d with
  | nil =>
      rw [mendFrom, pickedFrom, List.length_nil, Nat.zero_add]
      rfl
  | cons p others ih =>
      rw [mendFrom]
      rw [pickedFrom] at h ⊢
      cases hfix : p.specificFix? with
      | none =>
          rw [hfix] at h
          exact ih h
      | some fix =>
          rw [hfix] at h
          dsimp only at h ⊢
          by_cases hdone : fix ∈ done
          · rw [if_pos hdone] at h
            rw [if_pos hdone, if_pos hdone]
            exact ih h
          · rw [if_neg hdone] at h
            rw [if_neg hdone, if_neg hdone]
            rw [Fix.run] at h ⊢
            cases happly : fix.apply d p.line with
            | mk mended fault =>
                rw [happly] at h
                cases fault with
                | none =>
                    dsimp only
                    rw [ih h, List.length_cons, List.length_cons, Nat.add_assoc, Nat.add_comm 1]
                | some fault => cases h

/-- What is picked for findings that are in their places can be applied. -/
theorem areApplicable_picked (h : ∀ p ∈ ps, p.line < d.lineCount) :
    Fix.AreApplicable (picked ps) d := by
  intro step hstep
  obtain ⟨p, hp, hfix, hline⟩ := (arePicked_picked ps).line step hstep
  refine ⟨⟨p.finding.category, p.finding.message, ?_⟩, ?_⟩
  · rw [Fix.offered, List.mem_append, Option.mem_toList]
    exact .inl hfix
  · rw [hline]
    exact ⟨Int.natCast_nonneg _, Int.ofNat_lt.2 (h p hp)⟩

/-- Mending with findings that are in their places is the run of the fixes that are picked, and does
not fail. -/
theorem mend_eq_run (h : ∀ p ∈ ps, p.line < d.lineCount) :
    (Fix.run d (picked ps)).fault = none
      ∧ mend d ps = ⟨(Fix.run d (picked ps)).document, (picked ps).length, none⟩ := by
  have hfault := (Fix.run_of_areApplicable (areApplicable_picked h)).1
  exact ⟨hfault, mendFrom_eq_run hfault⟩

end PlacedFinding

end LintMend

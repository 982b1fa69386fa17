import LintMend.Mend.Fix
import LintMend.Proofs.Mend.Suppression
import LintMend.Proofs.Text.LineEdits

/-! # Runs of suppressions

What a document becomes when categories are asked for on its lines, one after another. Each step
reads the line as the steps before it left it, and changes the text of one row.
* `Fix.run`: a document after some fixes, in order.
* `Fix.suppressedRows`: the rows of a document, each with all that is asked for on its line.
* `Fix.apply_suppression`: what one step does to the rows.
* `Fix.rows_run_suppressions`: what a run does to them, by induction on its steps. -/

namespace LintMend.Fix

open Text

/-- A document after some fixes, each for a finding on a line, in order. None is tried after one
that fails. -/
def run (d : Document) : List (Fix × Int) → Mended
  | [] => ⟨d, none⟩
  | (fix, line) :: others =>
      match fix.apply d line with
      | ⟨mended, none⟩ => run mended others
      | ⟨left, some fault⟩ => ⟨left, some fault⟩

/-- A fix that does not fail is followed by the others. -/
theorem run_cons_of_apply {fix : Fix} {d mended : Document} {line : Int}
    (h : fix.apply d line = ⟨mended, none⟩) (others : List (Fix × Int)) :
    run d ((fix, line) :: others) = run mended others := by
  rw [run, h]

/-- The fixes that ask for categories on lines. -/
def suppressions (steps : List (Int × Text)) : List (Fix × Int) :=
  steps.map fun (line, category) => (suppression category, line)

/-- The categories that are asked for on a line, in order. -/
def askedOn (line : Int) (steps : List (Int × Text)) : List Text :=
  (steps.filter fun step => step.1 = line).map Prod.snd

@[simp] theorem askedOn_nil (line : Int) : askedOn line [] = [] := rfl

/-- What the first step asks for comes first. -/
theorem askedOn_cons (line : Int) (step : Int × Text) (steps : List (Int × Text)) :
    askedOn line (step :: steps) = askedOn line [step] ++ askedOn line steps := by
  rw [askedOn, askedOn, askedOn, ← List.map_append, ← List.filter_append, List.singleton_append]

/-- A category is asked for on a line by one of the steps. -/
theorem mem_askedOn_iff {line : Int} {category : Text} {steps : List (Int × Text)} :
    category ∈ askedOn line steps ↔ (line, category) ∈ steps := by
  rw [askedOn, List.mem_map]
  constructor
  · rintro ⟨⟨line', category⟩, hstep, rfl⟩
    obtain ⟨hmem, hline⟩ := List.mem_filter.1 hstep
    obtain rfl : line' = line := by simpa using hline
    exact hmem
  · intro hmem
    exact ⟨(line, category), List.mem_filter.2 ⟨hmem, by simp⟩, rfl⟩

/-! ## Rows -/

/-- Rows with all that is asked for on their lines. -/
def suppressedRows (steps : List (Int × Text)) (rs : List Row) : List Row :=
  rs.mapIdx fun n r => r.withText (suppressAll (askedOn n steps) r.text)

/-- Where nothing is asked for nothing changes. -/
@[simp] theorem suppressedRows_nil (rs : List Row) : suppressedRows [] rs = rs :=
  List.mapIdx_eq_iff.2 fun n => by cases rs[n]? <;> rfl

/-- The rows are those that the first step leaves, with what the others ask for. -/
theorem suppressedRows_cons (step : Int × Text) (steps : List (Int × Text)) (rs : List Row) :
    suppressedRows (step :: steps) rs = suppressedRows steps (suppressedRows [step] rs) := by
  rw [suppressedRows, suppressedRows, suppressedRows, List.mapIdx_mapIdx]
  congr 1
  funext n r
  change r.withText _ = r.withText _
  rw [askedOn_cons, suppressAll, List.foldl_append]
  rfl

@[simp] theorem length_suppressedRows (steps : List (Int × Text)) (rs : List Row) :
    (suppressedRows steps rs).length = rs.length := List.length_mapIdx

/-- A step changes the row of its line. -/
theorem suppressedRows_singleton (n : Nat) (category : Text) (rs : List Row) :
    suppressedRows [((n : Int), category)] rs
      = rs.modify n fun r => r.withText (suppress category r.text) := by
  refine List.mapIdx_eq_iff.2 fun m => ?_
  rw [List.getElem?_modify]
  congr 1
  funext r
  by_cases h : n = m
  · subst h
    simp [askedOn]
  · have hother : ¬(n : Int) = m := fun heq => h (Int.ofNat.inj heq)
    simp only [askedOn, List.filter_singleton, hother, h]
    rfl

/-! ## Documents -/

variable {d : Document} {steps : List (Int × Text)}

/-- Whether the steps ask for categories on lines that the document has. -/
def AreFor (steps : List (Int × Text)) (d : Document) : Prop :=
  ∀ step ∈ steps, (0 ≤ step.1 ∧ step.1 < d.lineCount) ∧ IsCategory step.2

/-- What the steps are for depends only on how many lines there are. -/
theorem AreFor.withText {t : Text} (h : AreFor steps d) (hcount : lineCount t = d.lineCount) :
    AreFor steps (d.withText t) := by
  intro step hstep
  rw [Document.lineCount_eq, Document.text_withText, hcount]
  exact h step hstep

/-- A step changes the row of its line and keeps the number of lines. -/
theorem apply_suppression {line : Int} {category : Text} (h : 0 ≤ line ∧ line < d.lineCount)
    (hcategory : IsCategory category) :
    ∃ t, (suppression category).apply d line = ⟨d.withText t, none⟩ ∧ lineCount t = d.lineCount
      ∧ rows t = suppressedRows [(line, category)] (rows d.text) := by
  obtain ⟨n, rfl⟩ := Int.eq_ofNat_of_zero_le h.1
  have hn : n < d.lineCount := Int.ofNat_lt.1 h.2
  obtain ⟨hd, hrow⟩ := ne_nil_and_lt_length_rows (d.lineCount_eq ▸ hn)
  have hrows := rows_replaceLine hrow (fitsFor_suppress hcategory.feed (not_mem_text hrow))
  refine ⟨replaceLine d.text n (suppress category (Text.lineText d.text n)), ?_, ?_, ?_⟩
  · rw [apply, applySuppression, if_neg hd, Document.checkLine_eq_ok_iff.2 ⟨rfl, hn⟩]
  · rw [lineText_eq hrow]
    -- the document stays one with lines, for the line that is asked on is not empty
    have hne : replaceLine d.text n (suppress category (rows d.text)[n].text) ≠ [] :=
      replaceLine_ne_nil (suppress_ne_nil category _) d.text n
    rw [lineCount_eq hne, hrows, List.length_modify, d.lineCount_eq, lineCount_eq hd]
  · rw [lineText_eq hrow, hrows, suppressedRows_singleton]
    refine List.ext_getElem? fun m => ?_
    rw [List.getElem?_modify, List.getElem?_modify]
    by_cases hm : n = m
    · subst hm
      rw [List.getElem?_eq_getElem hrow]
      rfl
    · simp [hm]

/-- A run of steps changes the rows of their lines and fails nowhere. -/
theorem rows_run_suppressions (h : AreFor steps d) :
    ∃ t, run d (suppressions steps) = ⟨d.withText t, none⟩ ∧ lineCount t = d.lineCount
      ∧ rows t = suppressedRows steps (rows d.text) := by
  induction steps generalizing d with
  | nil =>
      refine ⟨d.text, ?_, d.lineCount_eq.symm, (suppressedRows_nil _).symm⟩
      rw [Document.withText_text]
      rfl
  | cons step steps ih =>
      rw [AreFor, List.forall_mem_cons] at h
      obtain ⟨t, happly, hcount, hrows⟩ := apply_suppression h.1.1 h.1.2
      -- The other steps are for the document that the first one leaves.
      have hothers : AreFor steps (d.withText t) := AreFor.withText h.2 hcount
      obtain ⟨u, hrun, hcountu, hrowsu⟩ := ih hothers
      refine ⟨u, ?_, hcountu.trans hcount, ?_⟩
      · exact (run_cons_of_apply happly _).trans hrun
      · rw [hrowsu, Document.text_withText, hrows, ← suppressedRows_cons]

/-- A row after a run reads as the row before and what is asked for on its line say. -/
theorem suppresses_of_rows_eq {t : Text} (h : AreFor steps d)
    (hrows : rows t = suppressedRows steps (rows d.text)) {n : Nat} (hn : n < d.lineCount) :
    Suppresses (askedOn n steps) (lineText d.text n) (lineText t n)
      ∧ lineEnding t n = lineEnding d.text n := by
  have hold := (ne_nil_and_lt_length_rows (d.lineCount_eq ▸ hn)).2
  have hnew : n < (rows t).length := by
    rw [hrows, length_suppressedRows]
    exact hold
  have hrow : (rows t)[n] = (rows d.text)[n].withText
      (suppressAll (askedOn n steps) (rows d.text)[n].text) := by
    simp only [hrows, suppressedRows, List.getElem_mapIdx]
  rw [lineText_eq hold, lineText_eq hnew, lineEnding_eq hold, lineEnding_eq hnew, hrow]
  refine ⟨suppresses_suppressAll (fun category hcategory => ?_) _, rfl⟩
  exact (h _ (mem_askedOn_iff.1 hcategory)).2

/-- What has been asked for on every line can be asked for again. -/
theorem suppressedRows_suppressedRows (h : AreFor steps d) (rs : List Row) :
    suppressedRows steps (suppressedRows steps rs) = suppressedRows steps rs := by
  rw [suppressedRows, suppressedRows, List.mapIdx_mapIdx]
  congr 1
  funext n r
  change r.withText _ = r.withText _
  refine congrArg r.withText (suppressAll_suppressAll (fun category hcategory => ?_) r.text)
  exact (h _ (mem_askedOn_iff.1 hcategory)).2

/-- Steps that ask for the same on every line do the same to all rows. -/
theorem suppressedRows_congr {others : List (Int × Text)}
    (h : ∀ line, askedOn line others = askedOn line steps) (rs : List Row) :
    suppressedRows others rs = suppressedRows steps rs := by
  unfold suppressedRows
  congr 1
  funext n r
  rw [h]

/-- A run of suppressions has a closed form: every line keeps what ends it and reads as its old text
and the categories asked for on it say, whatever is asked for on other lines. So another order that
keeps the order on every line leaves the same document, and so does the run again. -/
theorem run_suppressions (h : AreFor steps d) :
    ∃ t, run d (suppressions steps) = ⟨d.withText t, none⟩
      ∧ lineCount t = d.lineCount
      ∧ (∀ n < d.lineCount,
          Suppresses (askedOn n steps) (lineText d.text n) (lineText t n)
            ∧ lineEnding t n = lineEnding d.text n)
      ∧ run (d.withText t) (suppressions steps) = ⟨d.withText t, none⟩
      ∧ ∀ others, (∀ line, askedOn line others = askedOn line steps) →
          run d (suppressions others) = ⟨d.withText t, none⟩ := by
  obtain ⟨t, hrun, hcount, hrows⟩ := rows_run_suppressions h
  refine ⟨t, hrun, hcount, fun n hn => suppresses_of_rows_eq h hrows hn, ?_, ?_⟩
  · -- The rows determine the text, and asking again leaves every row as it is.
    obtain ⟨u, hrunu, -, hrowsu⟩ := rows_run_suppressions (h.withText hcount)
    have hu : u = t := by
      refine eq_of_rows_eq ?_
      rw [hrowsu, Document.text_withText, hrows, suppressedRows_suppressedRows h]
    rw [hrunu, hu]
    rfl
  · -- Another order asks for the same on every line, so it leaves the same rows.
    intro others hothers
    have hfor : AreFor others d := fun step hstep => by
      have hasked : step.2 ∈ askedOn step.1 others := mem_askedOn_iff.2 hstep
      rw [hothers] at hasked
      exact h step (mem_askedOn_iff.1 hasked)
    obtain ⟨u, hrunu, -, hrowsu⟩ := rows_run_suppressions hfor
    have hu : u = t := by
      refine eq_of_rows_eq ?_
      rw [hrowsu, hrows, suppressedRows_congr hothers]
    rw [hrunu, hu]

/-- A document with an unmarked line, a marked one, and an empty one that nothing ends. -/
def threeLines : Document :=
  ⟨"int x;\r\nint y;  // NOLINT( a )\n".toList, none, none, []⟩

/-- Categories for the first two of three lines, some of them asked for twice. -/
def fiveSteps : List (Int × Text) :=
  [(0, ['b']), (1, ['a']), (0, ['c']), (1, ['b']), (0, ['b'])]

/-- The lines exist and the categories can be asked for. -/
theorem areFor_fiveSteps : AreFor fiveSteps threeLines := by
  have hcategory : ∀ c ∈ ['a', 'b', 'c'], IsCategory [c] := by
    intro c hc
    simp only [List.mem_cons, List.not_mem_nil, or_false] at hc
    rcases hc with rfl | rfl | rfl
    all_goals exact ⟨⟨by simp, by decide, by decide, by decide⟩, by decide, by decide⟩
  intro step hstep
  simp only [fiveSteps, List.mem_cons, List.not_mem_nil, or_false] at hstep
  rcases hstep with rfl | rfl | rfl | rfl | rfl
  all_goals exact ⟨by decide, hcategory _ (by decide)⟩

/-- Five steps on three lines leave a new marker and an extended one, and do so once. -/
theorem run_suppressions_fiveSteps :
    AreFor fiveSteps threeLines ∧
      ∃ t, t = "int x;  // NOLINT(b, c)\r\nint y;  // NOLINT(a, b)\n".toList
        ∧ run threeLines (suppressions fiveSteps) = ⟨threeLines.withText t, none⟩
        ∧ run (threeLines.withText t) (suppressions fiveSteps) = ⟨threeLines.withText t, none⟩ := by
  obtain ⟨t, hrun, -, -, hagain, -⟩ := run_suppressions areFor_fiveSteps
  have hleft : run threeLines (suppressions fiveSteps)
      = ⟨threeLines.withText
          "int x;  // NOLINT(b, c)\r\nint y;  // NOLINT(a, b)\n".toList, none⟩ := by
    decide +kernel
  refine ⟨areFor_fiveSteps, t, ?_, hrun, hagain⟩
  exact congrArg (fun m : Mended => m.document.text) (hrun.symm.trans hleft)

end LintMend.Fix

import LintMend.Proofs.Files.LongNames
import LintMend.Proofs.Lint.Report

/-! # What lint runs return

A run checks the settings, then the root of the project, then launches the checker and places what
it reports.
* `Settings.Seeks`, `Runner.Seeks`: the paths that are looked for on the way.
* `Runner.stages`: a run cannot look for a path, finds something wrong with the settings, gives up
  on the root, or is ready. A lemma for each says what the run does then.
* `Runner.value_run_eq_error_iff`: a run fails on a path that is too long, on a line number that is
  too long, and not otherwise. `Runner.value_run_longNamedRunner` is such a failure.
* `Runner.run_returns`: what a run returns if it does not fail.

The outcome of a launch is given, as one of the three that `Launch` has: the program is not there,
the system refuses, or the checker runs. In a tree of `Files` every directory can be searched. So
nothing is said of a launch that comes to none of the three, as with a null character in an
argument, nor of a directory that may not be searched. -/

namespace LintMend

open Text

/-! ## Checking the settings -/

namespace Settings

variable {fs : Files} {value : SettingKey → Option Text} {fault : FileFault}

/-- Whether a check of the settings looks for what stands at a path. -/
inductive Seeks (fs : Files) (value : SettingKey → Option Text) : Text → Prop
  /-- The script is looked for if it is set. -/
  | script {path : Text} (set : (value .script).getD [] = path) (named : path ≠ []) :
      Seeks fs value path
  /-- The interpreter is looked for if it is set, and if the script is there. -/
  | interpreter {script path : Text} (before : (value .script).getD [] = script)
      (scriptNamed : script ≠ []) (there : isThere fs script = .ok true)
      (set : (value .interpreter).getD [] = path) (named : path ≠ []) : Seeks fs value path

/-- The interpreter cannot be checked only if it cannot be looked for. -/
theorem interpreterProblem?_eq_error_iff {path : Option Text} :
    interpreterProblem? fs path = .error fault
      ↔ path.getD [] ≠ [] ∧ isThere fs (path.getD []) = .error fault := by
  unfold interpreterProblem?
  cases path.getD [] with
  | nil => simp
  | cons c others =>
      show (isThere fs (c :: others)).map _ = _ ↔ _
      cases isThere fs (c :: others) <;> simp [Except.map]

/-- The settings cannot be checked only if something cannot be looked for. -/
theorem problem?_eq_error_iff :
    problem? fs value = .error fault
      ↔ ∃ path, Seeks fs value path ∧ isThere fs path = .error fault := by
  constructor
  · intro h
    unfold problem? at h
    cases hset : (value .script).getD [] with
    | nil => simp [hset] at h
    | cons c others =>
        rw [hset] at h
        dsimp only at h
        have hnamed : c :: others ≠ [] := List.cons_ne_nil c others
        split at h
        · next hsought =>
            cases h
            exact ⟨c :: others, .script hset hnamed, hsought⟩
        · cases h
        · next hthere =>
            obtain ⟨hnext, hsought⟩ := interpreterProblem?_eq_error_iff.1 h
            exact ⟨_, .interpreter hset hnamed hthere rfl hnext, hsought⟩
  · rintro ⟨path, hseeks, hsought⟩
    unfold problem?
    cases hseeks with
    | script set named =>
        obtain ⟨c, others, rfl⟩ := List.exists_cons_of_ne_nil named
        simp [set, hsought]
    | interpreter before scriptNamed there set named =>
        subst set
        obtain ⟨c, others, rfl⟩ := List.exists_cons_of_ne_nil scriptNamed
        simp [before, there, interpreterProblem?_eq_error_iff, named, hsought]

end Settings

/-! ## Stages of a run -/

namespace Runner

/-- Whether a run looks for what stands at a path. -/
inductive Seeks (runner : Runner) (fs : Files) (root : Option Text) : Text → Prop
  /-- The script and the interpreter are looked for first. -/
  | setting {path : Text} (seeks : Settings.Seeks fs runner.setting path) :
      Seeks runner fs root path
  /-- The root of the project is looked for if it is not blank, and if the settings are right. -/
  | root {path : Text} (checked : Settings.problem? fs runner.setting = .ok none)
      (given : root.getD [] = path) (named : isAllBlank path = false) : Seeks runner fs root path

/-- Whether a run gets as far as launching the checker. -/
structure Ready (runner : Runner) (fs : Files) (root : Option Text) : Prop where
  /-- Nothing is wrong with the settings. -/
  checked : Settings.problem? fs runner.setting = .ok none
  /-- There is a root of the project. -/
  named : isAllBlank (root.getD []) = false
  /-- It is a directory. -/
  directory : fs.isDirectory (Path.ofText (root.getD [])).text = .ok true

/-- Whether a run gives up on the root of the project: it is blank, or no directory. -/
structure IsAstray (runner : Runner) (fs : Files) (root : Option Text) : Prop where
  /-- Nothing is wrong with the settings. -/
  checked : Settings.problem? fs runner.setting = .ok none
  /-- There is no root that is a directory. -/
  root : isAllBlank (root.getD []) = true
    ∨ fs.isDirectory (Path.ofText (root.getD [])).text = .ok false

variable {Time : Type} [Sub Time] [LT Time] [DecidableLT Time]
variable {runner : Runner} {fs : Files} {root : Option Text}

/-- A run that gets as far launches the checker in the root of the project. -/
theorem run_of_ready (h : runner.Ready fs root) (throttle : Throttle Time) (now : Time)
    (document : Document) (file : Text) (launch : Launch) :
    runner.run fs throttle now document file root launch
      = runner.execute throttle now document file (Path.ofText (root.getD [])).text launch := by
  simp [run, runIn, h.checked, h.named, h.directory]

/-- A run that cannot look for a path fails. -/
theorem run_of_seeks {path : Text} {fault : FileFault} (h : runner.Seeks fs root path)
    (hfault : fs.entry (Path.ofText path).text = .error fault) (throttle : Throttle Time)
    (now : Time) (document : Document) (file : Text) (launch : Launch) :
    runner.run fs throttle now document file root launch
      = ⟨.error (.file fault), .none, throttle⟩ := by
  cases h with
  | setting seeks =>
      have hproblem : Settings.problem? fs runner.setting = .error fault :=
        Settings.problem?_eq_error_iff.2 ⟨path, seeks, Files.pathExists_eq_error_iff.2 hfault⟩
      simp [run, hproblem]
  | root checked given named =>
      subst given
      simp [run, runIn, checked, named, Files.isDirectory_eq_error_iff.2 hfault]

/-- A run whose settings are wrong complains. -/
theorem run_of_problem {problem : SettingsProblem}
    (h : Settings.problem? fs runner.setting = .ok (some problem)) (throttle : Throttle Time)
    (now : Time) (document : Document) (file : Text) (launch : Launch) :
    runner.run fs throttle now document file root launch
      = runner.complain throttle now
          (.log .warning ("Cpplint configuration invalid: ".toList ++ problem.message))
          problem.message := by
  simp [run, h]

/-- A run without a root that is a directory finds nothing. -/
theorem run_of_isAstray (h : runner.IsAstray fs root) (throttle : Throttle Time) (now : Time)
    (document : Document) (file : Text) (launch : Launch) :
    ∃ message, runner.run fs throttle now document file root launch = giveUp throttle message := by
  obtain ⟨checked, hblank | hother⟩ := h
  -- a blank root is not looked for, even if a directory has that name
  · exact ⟨_, by simp [run, checked, hblank]; rfl⟩
  · by_cases hblank : isAllBlank (root.getD []) = true
    · exact ⟨_, by simp [run, checked, hblank]; rfl⟩
    · exact ⟨_, by simp [run, runIn, checked, hblank, hother]; rfl⟩

/-- How far a run gets. -/
theorem stages (runner : Runner) (fs : Files) (root : Option Text) :
    (∃ path fault, runner.Seeks fs root path ∧ fs.entry (Path.ofText path).text = .error fault)
      ∨ (∃ problem, Settings.problem? fs runner.setting = .ok (some problem))
      ∨ runner.IsAstray fs root ∨ runner.Ready fs root := by
  cases hproblem : Settings.problem? fs runner.setting with
  | error fault =>
      obtain ⟨path, hseeks, hfault⟩ := Settings.problem?_eq_error_iff.1 hproblem
      exact .inl ⟨path, fault, .setting hseeks, Files.pathExists_eq_error_iff.1 hfault⟩
  | ok found =>
      cases found with
      | some problem => exact .inr (.inl ⟨problem, rfl⟩)
      | none =>
          cases hblank : isAllBlank (root.getD []) with
          | true => exact .inr (.inr (.inl ⟨hproblem, .inl hblank⟩))
          | false =>
              cases hroot : fs.isDirectory (Path.ofText (root.getD [])).text with
              | error fault =>
                  exact .inl ⟨_, fault, .root hproblem rfl hblank,
                    Files.isDirectory_eq_error_iff.1 hroot⟩
              | ok there =>
                  cases there with
                  | false => exact .inr (.inr (.inl ⟨hproblem, .inr hroot⟩))
                  | true => exact .inr (.inr (.inr ⟨hproblem, hblank, hroot⟩))

/-! ## Failures -/

/-- The findings of a checker that was launched are those of the lines that are read. -/
theorem value_execute_started (runner : Runner) (throttle : Throttle Time) (now : Time)
    (document : Document) (file directory : Text) (child : Child) :
    (runner.execute throttle now document file directory (.started child)).value
      = placeLines document child.read.1 := by
  show (collect document file directory _ child).1 = _
  exact collect_fst document file directory _ child

/-- A run that complains finds nothing. -/
@[simp] theorem value_complain (runner : Runner) (throttle : Throttle Time) (now : Time)
    (before : Effects) (message : Text) :
    (runner.complain throttle now before message).value = .ok [] := rfl

/-- When a run fails, and how, if its launch has one of the three outcomes and every directory can
be searched. -/
theorem value_run_eq_error_iff (runner : Runner) (fs : Files) (throttle : Throttle Time)
    (now : Time) (document : Document) (file : Text) (root : Option Text) (launch : Launch)
    (fault : RunFault) :
    (runner.run fs throttle now document file root launch).value = .error fault
      ↔ (∃ path, runner.Seeks fs root path ∧ '\x00' ∉ (Path.ofText path).text
            ∧ fs.IsTooLong (Path.ofText path).text
            ∧ fault = .file (.mishap .nameTooLong (Path.ofText path).text))
        ∨ runner.Ready fs root ∧ ∃ child front line back, ∃ r : Reading,
            launch = .started child ∧ child.read.1 = front ++ line :: back
            ∧ (∀ l ∈ front, Finding.IsReadable l)
            ∧ r.CountsFor (Finding.trimLineEnd line) ∧ Numeral.maxDigits < r.line.length
            ∧ fault = .overlong ⟨r.line.length⟩ := by
  constructor
  · -- at the two stages between the first and the last a run returns an empty list
    intro h
    rcases runner.stages fs root with ⟨path, why, hseeks, hwhy⟩ | ⟨problem, hproblem⟩ | hastray
      | hready
    · left
      rw [run_of_seeks hseeks hwhy] at h
      cases h
      obtain ⟨hplain, hlong, rfl⟩ := Files.entry_eq_error_iff.1 hwhy
      exact ⟨path, hseeks, hplain, hlong, rfl⟩
    · rw [run_of_problem hproblem] at h
      cases h
    · obtain ⟨message, hrun⟩ := run_of_isAstray hastray throttle now document file launch
      rw [hrun] at h
      cases h
    · right
      rw [run_of_ready hready] at h
      cases launch with
      | notFound reason => cases h
      | refused reason => cases h
      | started child =>
          rw [value_execute_started] at h
          obtain ⟨front, line, back, r, hstops⟩ := placeLines_eq_error_iff.1 h
          exact ⟨hready, child, front, line, back, r, rfl, hstops⟩
  · rintro (⟨path, hseeks, hplain, hlong, rfl⟩
      | ⟨hready, child, front, line, back, r, rfl, hstops⟩)
    · rw [run_of_seeks hseeks (Files.entry_eq_error_iff.2 ⟨hplain, hlong, rfl⟩)]
    · rw [run_of_ready hready, value_execute_started]
      exact placeLines_eq_error_iff.2 ⟨front, line, back, r, hstops⟩

/-- A runner whose script has a name that no file can have. -/
def longNamedRunner : Runner where
  host := ⟨"linux".toList, ⟨[], []⟩, "/bin/bash".toList⟩
  setting
    | .interpreter => some "py".toList
    | .script => some (List.replicate 256 'n')
    | .options => none
  canOpenSettings := false

/-- It cannot be said whether that script is there, so the run fails. -/
theorem value_run_longNamedRunner :
    (longNamedRunner.run ⟨.empty, []⟩ (Throttle.new (60 : Int)) 0 ⟨['q'], none, none, []⟩
        "a.h".toList (some ['.']) (.started ⟨some [], none⟩)).value
      = .error (.file (.mishap .nameTooLong (List.replicate 256 'n'))) := by
  have hseeks : longNamedRunner.Seeks ⟨.empty, []⟩ (some ['.']) (List.replicate 256 'n') :=
    .setting (.script rfl (List.cons_ne_nil 'n' (List.replicate 255 'n')))
  have htext : (Path.ofText (List.replicate 256 'n')).text = List.replicate 256 'n' := by
    decide +kernel
  have hlong : Files.IsTooLong ⟨.empty, []⟩ (List.replicate 256 'n') := by
    -- the path has one name, looked for in the present directory, which is the root here
    right
    refine ⟨[], List.replicate 256 'n', [], [], ?_, rfl, rfl, ?_⟩
    · decide +kernel
    · decide +kernel
  rw [run_of_seeks hseeks]
  rw [htext, Files.entry_eq_error_iff]
  exact ⟨by decide, hlong, rfl⟩

/-! ## Findings -/

/-- A run that finds nothing but complains has launched no more than before. -/
theorem launches_complain (runner : Runner) (throttle : Throttle Time) (now : Time)
    (before : Effects) (message : Text) :
    (runner.complain throttle now before message).effects.launches = before.launches := by
  show before.launches ++ (runner.notify throttle now message).effects.launches = _
  unfold notify
  split <;> simp [Effects.none]

/-- Only a run that is ready launches anything. -/
theorem ready_of_launches_ne_nil {throttle : Throttle Time} {now : Time} {document : Document}
    {file : Text} {launch : Launch}
    (h : (runner.run fs throttle now document file root launch).effects.launches ≠ []) :
    runner.Ready fs root := by
  rcases runner.stages fs root with ⟨path, fault, hseeks, hfault⟩ | ⟨problem, hproblem⟩ | hastray
    | hready
  · rw [run_of_seeks hseeks hfault] at h
    exact absurd rfl h
  · rw [run_of_problem hproblem, launches_complain] at h
    exact absurd rfl h
  · obtain ⟨message, hrun⟩ := run_of_isAstray hastray throttle now document file launch
    rw [hrun] at h
    exact absurd rfl h
  · exact hready

/-- A run that is ready returns the findings of all lines that are read, if these can be read. -/
theorem value_run_of_readable (h : runner.Ready fs root) {child : Child}
    (hread : ∀ line ∈ child.read.1, Finding.IsReadable line) (throttle : Throttle Time)
    (now : Time) (document : Document) (file : Text) :
    (runner.run fs throttle now document file root (.started child)).value
      = .ok (PlacedFinding.ofLines document child.read.1) := by
  rw [run_of_ready h, value_execute_started, placeLines_of_readable document hread]

/-- A run that returns anything was ready and launched the checker, and these are its findings. -/
theorem eq_nil_or_ofLines_of_value_run {throttle : Throttle Time} {now : Time}
    {document : Document} {file : Text} {launch : Launch} {found : List PlacedFinding}
    (h : (runner.run fs throttle now document file root launch).value = .ok found) :
    found = [] ∨ runner.Ready fs root ∧ ∃ child, launch = .started child
      ∧ found = PlacedFinding.ofLines document child.read.1 := by
  rcases runner.stages fs root with ⟨path, fault, hseeks, hfault⟩ | ⟨problem, hproblem⟩ | hastray
    | hready
  · rw [run_of_seeks hseeks hfault] at h
    cases h
  · rw [run_of_problem hproblem, value_complain] at h
    cases h
    exact .inl rfl
  · obtain ⟨message, hrun⟩ := run_of_isAstray hastray throttle now document file launch
    rw [hrun] at h
    cases h
    exact .inl rfl
  · cases launch with
    | notFound reason =>
        rw [run_of_ready hready] at h
        cases h
        exact .inl rfl
    | refused reason =>
        rw [run_of_ready hready] at h
        cases h
        exact .inl rfl
    | started child =>
        rw [run_of_ready hready, value_execute_started] at h
        exact .inr ⟨hready, child, rfl, eq_ofLines_of_placeLines h⟩

/-- What a run returns.
* If it is ready, the checker runs and its lines can be read, then these are the findings that the
  lines state, in order and in their places; if reading on fails after some lines, those of these
  lines. A finding has no place only in the empty document.
* The findings of a report that goes on after another come after those of the other.
* Each is in its place, and in all other cases there are none.
* Nothing is launched unless the run is ready. -/
theorem run_returns (runner : Runner) (fs : Files) (throttle : Throttle Time) (now : Time)
    (document : Document) (file : Text) (root : Option Text) :
    (runner.Ready fs root → ∀ child : Child,
        (child.failure = none → (∀ line ∈ child.lines, Finding.IsReadable line) →
          (runner.run fs throttle now document file root (.started child)).value
            = .ok (PlacedFinding.ofLines document child.lines))
        ∧ ∀ failure, child.failure = some failure →
          (∀ line ∈ child.lines.take failure.after, Finding.IsReadable line) →
          (runner.run fs throttle now document file root (.started child)).value
            = .ok (PlacedFinding.ofLines document (child.lines.take failure.after)))
      ∧ (∀ ls, (PlacedFinding.ofLines document ls).map PlacedFinding.finding
          = if document.text = [] then [] else ls.filterMap Finding.ofLine?)
      ∧ (runner.Ready fs root → ∀ whole first second : Child,
          whole.failure = none → first.failure = none → second.failure = none →
          whole.lines = first.lines ++ second.lines →
          (∀ line ∈ whole.lines, Finding.IsReadable line) →
          ∃ found more,
            (runner.run fs throttle now document file root (.started first)).value = .ok found
              ∧ (runner.run fs throttle now document file root (.started second)).value = .ok more
              ∧ (runner.run fs throttle now document file root (.started whole)).value
                = .ok (found ++ more))
      ∧ ∀ launch,
        (∀ found, (runner.run fs throttle now document file root launch).value = .ok found →
            (∀ p ∈ found, p.FitsIn document)
              ∧ (¬ (runner.Ready fs root ∧ ∃ child, launch = .started child) → found = []))
          ∧ ((runner.run fs throttle now document file root launch).effects.launches ≠ [] →
            runner.Ready fs root) := by
  -- reports that go on after another use this three times
  have hwhole : ∀ child : Child, runner.Ready fs root → child.failure = none →
      (∀ line ∈ child.lines, Finding.IsReadable line) →
      (runner.run fs throttle now document file root (.started child)).value
        = .ok (PlacedFinding.ofLines document child.lines) := by
    intro child hready hnone hlines
    have hread : child.read.1 = child.lines := by rw [child.read_fst, hnone]
    rw [← hread] at hlines ⊢
    exact value_run_of_readable hready hlines throttle now document file
  refine ⟨?_, PlacedFinding.map_finding_ofLines document, ?_, ?_⟩
  · intro hready child
    refine ⟨hwhole child hready, ?_⟩
    intro failure hfailure hlines
    have hread : child.read.1 = child.lines.take failure.after := by rw [child.read_fst, hfailure]
    rw [← hread] at hlines ⊢
    exact value_run_of_readable hready hlines throttle now document file
  · intro hready whole first second hnone hfirst hsecond hlines hreadable
    have hparts := hreadable
    rw [hlines] at hparts
    obtain ⟨hfront, hback⟩ := List.forall_mem_append.1 hparts
    refine ⟨_, _, hwhole first hready hfirst hfront, hwhole second hready hsecond hback, ?_⟩
    rw [hwhole whole hready hnone hreadable, hlines, PlacedFinding.ofLines_append]
  · intro launch
    refine ⟨?_, ready_of_launches_ne_nil⟩
    intro found hfound
    constructor
    · intro p hp
      rcases eq_nil_or_ofLines_of_value_run hfound with rfl | ⟨-, child, -, rfl⟩
      · exact absurd hp List.not_mem_nil
      · exact PlacedFinding.fitsIn_of_mem_ofLines hp
    · intro hother
      rcases eq_nil_or_ofLines_of_value_run hfound with hnil | ⟨hready, child, hlaunch, -⟩
      · exact hnil
      · exact absurd ⟨hready, child, hlaunch⟩ hother

/-- A tree in which one file stands. -/
def smallTree : Files := Files.put ⟨.empty, []⟩ ["py".toList] (.file [] true)

/-- A runner with that file as interpreter and script. -/
def smallRunner : Runner where
  host := ⟨"linux".toList, ⟨[], []⟩, "/bin/bash".toList⟩
  setting
    | .interpreter | .script => some "py".toList
    | .options => none
  canOpenSettings := false

/-- With these, the present directory will do as the root of the project. -/
theorem ready_smallRunner : smallRunner.Ready smallTree (some ['.']) where
  checked := rfl
  named := rfl
  directory := rfl

/-- A line that states a finding on line 9. -/
def farLine : Text := "a.h:9:  m  [c] [5]".toList

/-- The finding of that line in a document of two lines, of which the last has one character. -/
def farFinding : PlacedFinding := ⟨⟨9, "m ".toList, ['c'], 5⟩, 1, ⟨2, 3, by decide⟩⟩

/-- A report of three lines, of which the second one states no finding. -/
def farReport : List Text := [farLine, "Done".toList, farLine]

/-- All of these lines can be read, and each is a line. -/
theorem farReport_lines {l : Text} (h : l ∈ farReport) : Finding.IsReadable l ∧ IsPlain l := by
  have hall : ∀ l ∈ farReport, l.length ≤ Numeral.maxDigits ∧ '\n' ∉ l ∧ '\r' ∉ l := by
    decide +kernel
  obtain ⟨hlength, hfeed, hcarriage⟩ := hall l h
  exact ⟨Finding.isReadable_of_length_le hlength, hfeed, hcarriage⟩

/-- If reading that report fails after two lines, one finding is left; else there are those of the
first two lines, and those of the last line after them. -/
theorem run_returns_farReport :
    smallRunner.Ready smallTree (some ['.'])
      ∧ (smallRunner.run smallTree (Throttle.new (60 : Int)) 0 ⟨"q\nr".toList, none, none, []⟩
          "a.h".toList (some ['.'])
          (.started { Child.printing farReport with failure := some ⟨2, ['!']⟩ })).value
        = .ok [farFinding]
      ∧ (smallRunner.run smallTree (Throttle.new (60 : Int)) 0 ⟨"q\nr".toList, none, none, []⟩
          "a.h".toList (some ['.']) (.started (.printing farReport))).value
        = .ok ([farFinding] ++ [farFinding]) := by
  have htake : ∀ l ∈ farReport.take 2, l ∈ farReport := fun l => List.mem_of_mem_take
  have hdrop : ∀ l ∈ farReport.drop 2, l ∈ farReport := fun l => List.mem_of_mem_drop
  have hall : (Child.printing farReport).lines = farReport :=
    Child.lines_printing fun l hl => (farReport_lines hl).2
  have hfirst : (Child.printing (farReport.take 2)).lines = farReport.take 2 :=
    Child.lines_printing fun l hl => (farReport_lines (htake l hl)).2
  have hsecond : (Child.printing (farReport.drop 2)).lines = farReport.drop 2 :=
    Child.lines_printing fun l hl => (farReport_lines (hdrop l hl)).2
  obtain ⟨hread, -, happend, -⟩ := run_returns smallRunner smallTree (Throttle.new (60 : Int)) 0
    ⟨"q\nr".toList, none, none, []⟩ "a.h".toList (some ['.'])
  refine ⟨ready_smallRunner, ?_, ?_⟩
  · have hbroken : Child.lines { Child.printing farReport with failure := some ⟨2, ['!']⟩ }
        = farReport := hall
    rw [(hread ready_smallRunner _).2 ⟨2, ['!']⟩ rfl, hbroken]
    · exact congrArg Except.ok (by decide +kernel)
    · intro line hline
      rw [hbroken] at hline
      exact (farReport_lines (htake line hline)).1
  · have hread₁ : ∀ line ∈ (Child.printing (farReport.take 2)).lines, Finding.IsReadable line := by
      rw [hfirst]
      exact fun line hline => (farReport_lines (htake line hline)).1
    have hread₂ : ∀ line ∈ (Child.printing (farReport.drop 2)).lines, Finding.IsReadable line := by
      rw [hsecond]
      exact fun line hline => (farReport_lines (hdrop line hline)).1
    obtain ⟨found, more, hfound, hmore, hwhole⟩ := happend ready_smallRunner (.printing farReport)
      (.printing (farReport.take 2)) (.printing (farReport.drop 2)) rfl rfl rfl
      (by rw [hall, hfirst, hsecond, List.take_append_drop])
      (by rw [hall]; exact fun line hline => (farReport_lines hline).1)
    rw [(hread ready_smallRunner _).1 rfl hread₁, hfirst, Except.ok.injEq] at hfound
    rw [(hread ready_smallRunner _).1 rfl hread₂, hsecond, Except.ok.injEq] at hmore
    rw [hwhole, ← hfound, ← hmore]
    exact congrArg Except.ok (by decide +kernel)

end Runner

end LintMend

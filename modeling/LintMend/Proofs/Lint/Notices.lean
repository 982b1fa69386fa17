import LintMend.Proofs.Lint.Run
import Mathlib.Algebra.Order.Ring.Rat
import Mathlib.Order.Interval.Set.Defs
import Mathlib.Tactic.Linarith

/-! # Notifications over many runs

Runs, other attempts to notify and resets share a throttle; the clock may go backwards between them.
* `Runner.Complains`: the messages that a run attempts to show. A run does with the throttle and the
  user what one attempt to show such a message does, and nothing if there is none.
* `NoticeBoard`: the throttle, and what was shown when, cut into stretches by the resets.
* `NoticeBoard.Fair`: within a stretch what was shown is a window apart, and the throttle remembers
  the last of it. `Fair.next` says that a step keeps this, `fair_run` that a run does.
* `NoticeBoard.notices_run`: what is shown, what is dropped, and which runs attempt to show
  anything. -/

namespace LintMend

/-! ## Complaints of a run -/

namespace Runner

/-- Whether a run attempts to show a notification with that message. -/
inductive Complains (runner : Runner) (fs : Files) (root : Option Text) : Launch → Text → Prop
  /-- Something is wrong with the settings. -/
  | problem {problem : SettingsProblem} {launch : Launch}
      (wrong : Settings.problem? fs runner.setting = .ok (some problem)) :
      Complains runner fs root launch problem.message
  /-- The program is not there. -/
  | notFound {reason : Text} (ready : runner.Ready fs root) :
      Complains runner fs root (.notFound reason) notFoundMessage
  /-- The system refuses to launch it. -/
  | refused {reason : Text} (ready : runner.Ready fs root) :
      Complains runner fs root (.refused reason) (refusedMessage reason)

variable {runner : Runner} {fs : Files} {root : Option Text} {launch : Launch}

/-- A run complains if the settings are wrong or the launch fails, and not otherwise. -/
theorem exists_complains_iff :
    (∃ message, runner.Complains fs root launch message)
      ↔ (∃ problem, Settings.problem? fs runner.setting = .ok (some problem))
        ∨ runner.Ready fs root
          ∧ ∃ reason, launch = .notFound reason ∨ launch = .refused reason := by
  constructor
  · rintro ⟨message, hcomplains⟩
    cases hcomplains with
    | problem wrong => exact .inl ⟨_, wrong⟩
    | @notFound reason ready => exact .inr ⟨ready, reason, .inl rfl⟩
    | @refused reason ready => exact .inr ⟨ready, reason, .inr rfl⟩
  · rintro (⟨problem, hproblem⟩ | ⟨hready, reason, rfl | rfl⟩)
    · exact ⟨_, .problem hproblem⟩
    · exact ⟨_, .notFound hready⟩
    · exact ⟨_, .refused hready⟩

variable {Time : Type} [Sub Time] [LT Time] [DecidableLT Time]

/-- An attempt to notify succeeds if the throttle permits it. -/
theorem value_notify (runner : Runner) (throttle : Throttle Time) (now : Time) (message : Text) :
    (runner.notify throttle now message).value = throttle.permits now := by
  unfold notify
  cases h : throttle.permits now with
  | false => rw [Throttle.attempt_of_not_permits h]
  | true => rw [Throttle.attempt_of_permits h]

/-- A run that complains shows what an attempt to show the message shows. -/
theorem run_of_complains {message : Text} (h : runner.Complains fs root launch message)
    (throttle : Throttle Time) (now : Time) (document : Document) (file : Text) :
    (runner.run fs throttle now document file root launch).effects.notifications
        = (runner.notify throttle now message).effects.notifications
      ∧ (runner.run fs throttle now document file root launch).throttle
        = (runner.notify throttle now message).throttle := by
  cases h with
  | problem wrong =>
      rw [run_of_problem wrong]
      exact ⟨rfl, rfl⟩
  | notFound ready =>
      rw [run_of_ready ready]
      exact ⟨rfl, rfl⟩
  | refused ready =>
      rw [run_of_ready ready]
      exact ⟨rfl, rfl⟩

/-- A run that does not complain shows nothing, and leaves the throttle alone. -/
theorem run_of_not_complains (h : ∀ message, ¬ runner.Complains fs root launch message)
    (throttle : Throttle Time) (now : Time) (document : Document) (file : Text) :
    (runner.run fs throttle now document file root launch).effects.notifications = []
      ∧ (runner.run fs throttle now document file root launch).throttle = throttle := by
  rcases runner.stages fs root with ⟨path, fault, hseeks, hfault⟩ | ⟨problem, hproblem⟩ | hastray
    | hready
  · rw [run_of_seeks hseeks hfault]
    exact ⟨rfl, rfl⟩
  · exact absurd (.problem hproblem) (h problem.message)
  · obtain ⟨message, hrun⟩ := run_of_isAstray hastray throttle now document file launch
    rw [hrun]
    exact ⟨rfl, rfl⟩
  · cases launch with
    | notFound reason => exact absurd (.notFound hready) (h _)
    | refused reason => exact absurd (.refused hready) (h _)
    | started child =>
        rw [run_of_ready hready]
        exact ⟨notifications_collect document file _ _ child, rfl⟩

end Runner

/-! ## Steps -/

/-- Something that may show a notification, or let the next one through. -/
inductive NoticeStep
  /-- A run. -/
  | run (runner : Runner) (fs : Files) (now : ℚ) (document : Document) (file : Text)
      (root : Option Text) (launch : Launch)
  /-- An attempt to show a notification about the configuration. -/
  | notify (runner : Runner) (now : ℚ) (message : Text)
  /-- The throttle forgets the last notification. -/
  | reset

/-- A throttle, and what was shown with it and when. -/
structure NoticeBoard where
  /-- The throttle. -/
  throttle : Throttle ℚ
  /-- What was shown before each reset, back to the reset before it. -/
  past : List (List (ℚ × Notification))
  /-- What was shown since the last reset. -/
  current : List (ℚ × Notification)

namespace NoticeBoard

/-- The board on which nothing has been shown. -/
def start (window : ℚ) : NoticeBoard := ⟨.new window, [], []⟩

/-- The board after something that was done at a time. -/
def afterOutcome {α : Type} (b : NoticeBoard) (now : ℚ) (outcome : Outcome ℚ α) : NoticeBoard :=
  ⟨outcome.throttle, b.past, b.current ++ outcome.effects.notifications.map fun n => (now, n)⟩

/-- The board after a step. -/
def next (b : NoticeBoard) : NoticeStep → NoticeBoard
  | .run runner fs now document file root launch =>
      b.afterOutcome now (runner.run fs b.throttle now document file root launch)
  | .notify runner now message => b.afterOutcome now (runner.notify b.throttle now message)
  | .reset => ⟨b.throttle.reset, b.past ++ [b.current], []⟩

/-- The board after some steps. -/
def run (b : NoticeBoard) (steps : List NoticeStep) : NoticeBoard := steps.foldl next b

/-- What was shown, cut into stretches by the resets. -/
def stretches (b : NoticeBoard) : List (List (ℚ × Notification)) := b.past ++ [b.current]

/-! ## Single steps -/

variable {b : NoticeBoard} {runner : Runner} {now : ℚ} {message : Text}

/-- Whether an attempt to show a notification at that time is dropped: something was shown since the
last reset, and the last of it less than a window ago. -/
def Drops (b : NoticeBoard) (window now : ℚ) : Prop :=
  ∃ last ∈ b.current.getLast?, now - last.1 < window

/-- An attempt that comes too soon leaves everything as it was. -/
theorem next_notify_of_not_permits (h : b.throttle.permits now = false) :
    b.next (.notify runner now message) = b := by
  simp [next, afterOutcome, Runner.notify, Throttle.attempt_of_not_permits h, Effects.none]

/-- An attempt that does not come too soon is shown and remembered. -/
theorem next_notify_of_permits (h : b.throttle.permits now = true) :
    b.next (.notify runner now message)
      = ⟨{ b.throttle with last := some now }, b.past,
          b.current ++ [(now, .configurationError message runner.canOpenSettings)]⟩ := by
  simp [next, afterOutcome, Runner.notify, Throttle.attempt_of_permits h]

/-- A run that complains is an attempt to notify. -/
theorem next_run_of_complains {fs : Files} {root : Option Text} {launch : Launch}
    (h : runner.Complains fs root launch message) (b : NoticeBoard) (now : ℚ)
    (document : Document) (file : Text) :
    b.next (.run runner fs now document file root launch)
      = b.next (.notify runner now message) := by
  obtain ⟨hshown, hthrottle⟩ := Runner.run_of_complains h b.throttle now document file
  simp [next, afterOutcome, hshown, hthrottle]

/-- A run that does not complain leaves everything as it was. -/
theorem next_run_of_not_complains {fs : Files} {root : Option Text} {launch : Launch}
    (h : ∀ message, ¬ runner.Complains fs root launch message) (b : NoticeBoard) (now : ℚ)
    (document : Document) (file : Text) :
    b.next (.run runner fs now document file root launch) = b := by
  obtain ⟨hshown, hthrottle⟩ := Runner.run_of_not_complains h b.throttle now document file
  simp [next, afterOutcome, hshown, hthrottle]

/-! ## The invariant -/

/-- Whether what was shown in a stretch is a window apart. -/
def Spaced (window : ℚ) (stretch : List (ℚ × Notification)) : Prop :=
  stretch.Pairwise fun p q => p.1 + window ≤ q.1

/-- Whether a board is one that some steps may have left. -/
structure Fair (w : ℚ) (b : NoticeBoard) : Prop where
  /-- The window is that of the throttle. -/
  window : b.throttle.window = w
  /-- The throttle remembers what was shown last since the last reset. -/
  last : b.throttle.last = b.current.getLast?.map Prod.fst
  /-- What was shown in one stretch before the last reset is a window apart. -/
  past : ∀ stretch ∈ b.past, Spaced w stretch
  /-- So is what was shown since then. -/
  current : Spaced w b.current

/-- At first nothing has been shown. -/
theorem fair_start (w : ℚ) : Fair w (start w) where
  window := rfl
  last := rfl
  past := by simp [start]
  current := .nil

/-- The throttle permits what is not dropped. -/
theorem Fair.permits_eq_false_iff {w : ℚ} (h : Fair w b) :
    b.throttle.permits now = false ↔ b.Drops w now := by
  rw [Throttle.permits, h.last, h.window, Drops]
  cases b.current.getLast? <;> simp

/-- What comes at least a window after the last notification of a stretch comes at least a window
after each. -/
theorem Spaced.concat {w : ℚ} (hw : 0 ≤ w) {stretch : List (ℚ × Notification)}
    (h : Spaced w stretch) {n : Notification}
    (hlast : ∀ last ∈ stretch.getLast?, last.1 + w ≤ now) : Spaced w (stretch ++ [(now, n)]) := by
  have hall : ∀ p ∈ stretch, p.1 + w ≤ now := by
    intro p hp
    rcases List.eq_nil_or_concat stretch with rfl | ⟨front, last, rfl⟩
    · exact absurd hp List.not_mem_nil
    rw [List.concat_eq_append] at h hp hlast
    have hnow : last.1 + w ≤ now := hlast last (by simp)
    rcases List.mem_append.1 hp with hfront | hself
    · -- it is a window before the last notification, and a window is not negative
      have hbefore : p.1 + w ≤ last.1 := (List.pairwise_append.1 h).2.2 p hfront last (by simp)
      linarith
    · rw [List.mem_singleton.1 hself]
      exact hnow
  refine List.pairwise_append.2 ⟨h, List.pairwise_singleton _ _, ?_⟩
  intro p hp q hq
  rw [List.mem_singleton.1 hq]
  exact hall p hp

/-- A step keeps a board fair. -/
theorem Fair.next {w : ℚ} (hw : 0 ≤ w) (h : Fair w b) (step : NoticeStep) :
    Fair w (b.next step) := by
  -- a run is an attempt to notify or changes nothing, so these attempts and resets are all
  have hnotify : ∀ runner now message, Fair w (b.next (.notify runner now message)) := by
    intro runner now message
    cases hpermits : b.throttle.permits now with
    | false =>
        rw [next_notify_of_not_permits hpermits]
        exact h
    | true =>
        rw [next_notify_of_permits hpermits]
        refine ⟨h.window, by simp, h.past, h.current.concat hw ?_⟩
        intro last hlast
        have hkeeps : ¬ b.Drops w now := by
          rw [← h.permits_eq_false_iff, hpermits]
          exact Bool.noConfusion
        have hdistance : ¬ now - last.1 < w := fun hlt => hkeeps ⟨last, hlast, hlt⟩
        linarith
  cases step with
  | run runner fs now document file root launch =>
      by_cases hcomplains : ∃ message, runner.Complains fs root launch message
      · obtain ⟨message, hmessage⟩ := hcomplains
        rw [next_run_of_complains hmessage]
        exact hnotify runner now message
      · rw [next_run_of_not_complains (not_exists.1 hcomplains)]
        exact h
  | notify runner now message => exact hnotify runner now message
  | reset =>
      refine ⟨h.window, rfl, ?_, .nil⟩
      intro stretch hstretch
      rcases List.mem_append.1 hstretch with hpast | hcurrent
      · exact h.past stretch hpast
      · rw [List.mem_singleton.1 hcurrent]
        exact h.current

/-- Any steps leave a fair board. -/
theorem fair_run {w : ℚ} (hw : 0 ≤ w) (steps : List NoticeStep) :
    Fair w ((start w).run steps) := by
  have hrun : ∀ b : NoticeBoard, Fair w b → Fair w (b.run steps) := by
    induction steps with
    | nil => exact fun b hb => hb
    | cons step steps ih => exact fun b hb => ih (b.next step) (hb.next hw step)
  exact hrun (start w) (fair_start w)

/-- Within each stretch of a fair board what was shown is a window apart. -/
theorem Fair.spaced {w : ℚ} (h : Fair w b) {stretch : List (ℚ × Notification)}
    (hstretch : stretch ∈ b.stretches) : Spaced w stretch := by
  rcases List.mem_append.1 hstretch with hpast | hcurrent
  · exact h.past stretch hpast
  · rw [List.mem_singleton.1 hcurrent]
    exact h.current

/-! ## Any steps -/

/-- What is shown by any steps that share a throttle.
* Between two resets it is at least a window apart, and what is shown later is not earlier, so no
  half-open interval as long as the window holds two notifications.
* An attempt to notify is dropped exactly if something was shown since the last reset, and the last
  of it less than a window ago. Then everything stays as it was, else it is shown and remembered.
* A run attempts to notify once if the settings are wrong or the launch fails. Any other run leaves
  everything as it was. -/
theorem notices_run {w : ℚ} (hw : 0 ≤ w) (steps : List NoticeStep) :
    (∀ stretch ∈ ((start w).run steps).stretches,
        stretch.Pairwise fun p q => w ≤ q.1 - p.1 ∧ p.1 ≤ q.1
          ∧ ∀ first, ¬ (p.1 ∈ Set.Ico first (first + w) ∧ q.1 ∈ Set.Ico first (first + w)))
      ∧ (∀ (runner : Runner) (now : ℚ) (message : Text),
        ((runner.notify ((start w).run steps).throttle now message).value = false
            ↔ ((start w).run steps).Drops w now)
          ∧ (((start w).run steps).Drops w now →
            ((start w).run steps).next (.notify runner now message) = (start w).run steps)
          ∧ (¬ ((start w).run steps).Drops w now →
            ((start w).run steps).next (.notify runner now message)
              = ⟨⟨w, some now⟩, ((start w).run steps).past, ((start w).run steps).current
                ++ [(now, .configurationError message runner.canOpenSettings)]⟩))
      ∧ ∀ (b : NoticeBoard) (runner : Runner) (fs : Files) (now : ℚ) (document : Document)
          (file : Text) (root : Option Text) (launch : Launch),
        (∀ message, runner.Complains fs root launch message →
            b.next (.run runner fs now document file root launch)
              = b.next (.notify runner now message))
          ∧ ((¬ ∃ message, runner.Complains fs root launch message) →
            b.next (.run runner fs now document file root launch) = b)
          ∧ ((∃ message, runner.Complains fs root launch message)
            ↔ (∃ problem, Settings.problem? fs runner.setting = .ok (some problem))
              ∨ runner.Ready fs root
                ∧ ∃ reason, launch = .notFound reason ∨ launch = .refused reason) := by
  have hfair := fair_run hw steps
  -- how the board came about does not matter any more
  generalize (start w).run steps = b at hfair ⊢
  refine ⟨?_, ?_, ?_⟩
  · intro stretch hstretch
    refine (hfair.spaced hstretch).imp ?_
    intro p q hapart
    refine ⟨by linarith, by linarith, ?_⟩
    rintro first ⟨⟨hfirst, -⟩, ⟨-, hlast⟩⟩
    linarith
  · intro runner now message
    refine ⟨?_, ?_, ?_⟩
    · rw [Runner.value_notify, hfair.permits_eq_false_iff]
    · intro hdrops
      exact next_notify_of_not_permits (hfair.permits_eq_false_iff.2 hdrops)
    · intro hkeeps
      have hpermits : b.throttle.permits now = true := by
        rw [← Bool.not_eq_false, hfair.permits_eq_false_iff]
        exact hkeeps
      rw [next_notify_of_permits hpermits, ← hfair.window]
  · intro b runner fs now document file root launch
    refine ⟨?_, ?_, Runner.exists_complains_iff⟩
    · exact fun message hmessage => next_run_of_complains hmessage b now document file
    · exact fun hnone => next_run_of_not_complains (not_exists.1 hnone) b now document file

/-- A runner without settings. -/
def bareRunner : Runner := ⟨⟨"linux".toList, ⟨[], []⟩, "/bin/bash".toList⟩, fun _ => none, false⟩

/-- Three attempts to notify of which the second comes too soon, and one after a reset, when the
clock has gone backwards. -/
def fourAttempts : List NoticeStep :=
  [.notify bareRunner 0 ['a'],
    .run bareRunner ⟨.empty, []⟩ 59 ⟨.ofText [], none, none, []⟩ [] none (.started ⟨none, none⟩),
    .notify bareRunner 60 ['b'], .reset, .notify bareRunner (-5) ['c']]

/-- Three of them are shown, in two stretches, and half a minute later nothing would be. -/
theorem notices_run_fourAttempts :
    (0 : ℚ) ≤ 60
      ∧ ((start 60).run fourAttempts).stretches
        = [[(0, .configurationError ['a'] false), (60, .configurationError ['b'] false)],
          [(-5, .configurationError ['c'] false)]]
      ∧ ((start 60).run fourAttempts).next (.notify bareRunner 25 ['d'])
        = (start 60).run fourAttempts := by
  have hwindow : (0 : ℚ) ≤ 60 := by decide +kernel
  have hstretches : ((start 60).run fourAttempts).stretches
      = [[(0, .configurationError ['a'] false), (60, .configurationError ['b'] false)],
        [(-5, .configurationError ['c'] false)]] := by
    decide +kernel
  have hdrops : ((start 60).run fourAttempts).Drops 60 25 :=
    ⟨(-5, .configurationError ['c'] false), by decide +kernel, by decide +kernel⟩
  obtain ⟨-, hattempts, -⟩ := notices_run hwindow fourAttempts
  exact ⟨hwindow, hstretches, (hattempts bareRunner 25 ['d']).2.1 hdrops⟩

end NoticeBoard

end LintMend

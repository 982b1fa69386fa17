import LintMend.Proofs.Settings.Saved
import Mathlib.Data.List.Induction

/-! # Sessions with settings

A session looks up settings, changes them, saves them and loads them again, in any order, and some
of its steps may fail.
* `StoreSession.step`: what a step does, and what it answers.
* `StoreSession.run`, `StoreSession.passed`: the session after some steps, and those of the steps
  that have not failed.
* `StoreSession.Filed`: the settings that the file holds, which are those that were saved last.
  `Filed.save` and `Filed.next` say what one step does to them, `Filed.run` what a run does.
* `StoreSession.get_run`: what is stored after a run in which nothing is loaded again.
* `StoreSession.run_withEnvironment`: the environment changes neither the file nor what is stored.
* `StoreSession.stored_run`: what is stored, answered and written in every session. -/

namespace LintMend

/-! ## Steps -/

/-- A step of a session. -/
inductive StoreStep
  /-- Look up the setting of that name. -/
  | get (name : Text)
  /-- Change the setting of that name. -/
  | set (name : Text) (value : Json)
  /-- List all settings. -/
  | list
  /-- Write the settings to their file. -/
  | save
  /-- Load the settings from their file. -/
  | reload

/-- What a step answers. -/
inductive StoreAnswer
  | value (value : Option Text)
  | values (values : List (Text × Option Text))
  | done
  deriving DecidableEq

/-- Why a step fails. -/
inductive StoreFault
  | get (e : UnknownSetting)
  | set (fault : SetFault)
  | save (fault : FileFault)
  | reload (fault : LoadFault)
  deriving DecidableEq

/-- The values that count, under the names of the settings. -/
def SettingsStore.values (store : SettingsStore) : List (Text × Option Text) :=
  SettingKey.all.map fun key => (key.name, store.get key)

/-- A store, and the file tree in which its file is. -/
structure StoreSession where
  /-- The store. -/
  store : SettingsStore
  /-- The file tree. -/
  files : Files

/-- The value that a step gives to a setting, if it is a change of that setting. -/
def StoreStep.assigns? (key : SettingKey) : StoreStep → Option (Option Text)
  | set name value => if name = key.name then (Settings.valueOf key value).toOption else none
  | _ => none

/-- The last value that some steps give to a setting. -/
def StoreStep.lastAssigned? (key : SettingKey) (steps : List StoreStep) : Option (Option Text) :=
  (steps.filterMap (assigns? key)).getLast?

/-- The last step gives the last value, if it gives any. -/
theorem StoreStep.lastAssigned?_concat (key : SettingKey) (steps : List StoreStep)
    (step : StoreStep) :
    lastAssigned? key (steps ++ [step]) = (step.assigns? key).or (lastAssigned? key steps) := by
  rw [lastAssigned?, List.filterMap_append, List.getLast?_append]
  cases hassigns : step.assigns? key <;> simp [hassigns, lastAssigned?]

namespace StoreSession

/-- The session of a new store. -/
def start (fs : Files) (path : Path) (env : Environment) : Except LoadFault StoreSession :=
  (SettingsStore.ofFile fs path env).map fun store => ⟨store, fs⟩

/-- What a step leaves, and what it answers. -/
def step (s : StoreSession) : StoreStep → StoreSession × Except StoreFault StoreAnswer
  | .get name =>
      match s.store.getNamed name with
      | .error e => (s, .error (.get e))
      | .ok value => (s, .ok (.value value))
  | .set name value =>
      match s.store.setNamed name value with
      | .error fault => (s, .error (.set fault))
      | .ok store => ({ s with store := store }, .ok .done)
  | .list => (s, .ok (.values s.store.values))
  | .save =>
      match s.store.save s.files with
      -- the directories that were made stay there even if the file could not be written
      | ⟨files, some fault⟩ => ({ s with files := files }, .error (.save fault))
      | ⟨files, none⟩ => ({ s with files := files }, .ok .done)
  | .reload =>
      match SettingsStore.ofFile s.files s.store.path s.store.environment with
      | .error fault => (s, .error (.reload fault))
      | .ok store => ({ s with store := store }, .ok (.values store.values))

/-- What a step leaves. -/
def next (s : StoreSession) (step : StoreStep) : StoreSession := (s.step step).1

/-- Whether a step does not fail. -/
def passes (s : StoreSession) (step : StoreStep) : Bool := (s.step step).2.isOk

/-- What some steps leave. -/
def run (s : StoreSession) (steps : List StoreStep) : StoreSession := steps.foldl next s

/-- Those of some steps that do not fail. -/
def passed (s : StoreSession) : List StoreStep → List StoreStep
  | [] => []
  | step :: steps => (if s.passes step then [step] else []) ++ (s.next step).passed steps

variable {s : StoreSession} {step : StoreStep}

/-- Steps are taken one after the other. -/
theorem run_append (s : StoreSession) (front back : List StoreStep) :
    s.run (front ++ back) = (s.run front).run back := List.foldl_append

/-- The last step is taken last. -/
theorem run_concat (s : StoreSession) (steps : List StoreStep) (step : StoreStep) :
    s.run (steps ++ [step]) = (s.run steps).next step := run_append s steps [step]

/-- Whether a step fails is settled where the steps before it lead. -/
theorem passed_concat (s : StoreSession) (steps : List StoreStep) (step : StoreStep) :
    s.passed (steps ++ [step])
      = s.passed steps ++ if (s.run steps).passes step then [step] else [] := by
  induction steps generalizing s with
  | nil => exact List.append_nil _
  | cons first steps ih =>
      rw [List.cons_append, passed, passed, ih, List.append_assoc]
      rfl

/-! ## What one step does -/

/-- Looking up a setting changes nothing. -/
theorem next_get (s : StoreSession) (name : Text) : s.next (.get name) = s := by
  rw [next, step]
  split <;> rfl

/-- A change gives a text or nothing to a setting, or it fails and changes nothing. -/
theorem next_set (s : StoreSession) (name : Text) (value : Json) :
    (∃ key v, name = key.name ∧ Settings.valueOf key value = .ok v
        ∧ s.passes (.set name value) = true
        ∧ s.next (.set name value) = { s with store := s.store.set key v })
      ∨ (s.passes (.set name value) = false ∧ s.next (.set name value) = s) := by
  rw [passes, next, step, SettingsStore.setNamed]
  cases hkey : SettingKey.ofName? name with
  | none => exact .inr ⟨rfl, rfl⟩
  | some key =>
      rw [SettingKey.ofName?] at hkey
      have hname := List.find?_some hkey
      dsimp only
      cases hvalue : Settings.valueOf key value with
      | error fault => exact .inr ⟨rfl, rfl⟩
      | ok v => exact .inl ⟨key, v, (beq_iff_eq.1 hname).symm, hvalue, rfl, rfl⟩

/-- A save leaves the store alone, and the file tree that it makes. -/
theorem next_save (s : StoreSession) :
    s.next .save = ⟨s.store, (s.store.save s.files).files⟩
      ∧ (s.passes .save = true ↔ (s.store.save s.files).fault = none) := by
  rw [next, passes, step]
  rcases s.store.save s.files with ⟨files, _ | fault⟩
  · exact ⟨rfl, iff_of_true rfl rfl⟩
  · exact ⟨rfl, iff_of_false nofun nofun⟩

/-- Loading again stores what the file holds, or it fails and changes nothing. -/
theorem next_reload (s : StoreSession) :
    (∃ settings, Settings.load s.files s.store.path = .ok settings
        ∧ s.passes .reload = true ∧ s.next .reload = { s with store.settings := settings })
      ∨ (s.passes .reload = false ∧ s.next .reload = s) := by
  rw [passes, next, step, SettingsStore.ofFile]
  cases Settings.load s.files s.store.path with
  | ok settings => exact .inl ⟨settings, rfl, rfl, rfl⟩
  | error fault => exact .inr ⟨rfl, rfl⟩

/-- Only a save changes more than the settings that are stored. -/
theorem exists_next_eq (hstep : step ≠ .save) :
    ∃ settings, s.next step = { s with store.settings := settings } := by
  cases step with
  | get name => exact ⟨s.store.settings, s.next_get name⟩
  | set name value =>
      rcases s.next_set name value with ⟨key, v, -, -, -, hnext⟩ | ⟨-, hnext⟩
      · exact ⟨s.store.settings.set key v, hnext⟩
      · exact ⟨s.store.settings, hnext⟩
  | list => exact ⟨s.store.settings, rfl⟩
  | save => exact absurd rfl hstep
  | reload =>
      rcases s.next_reload with ⟨settings, -, -, hnext⟩ | ⟨-, hnext⟩
      · exact ⟨settings, hnext⟩
      · exact ⟨s.store.settings, hnext⟩

/-- The path stays what it is. -/
theorem path_next (s : StoreSession) (step : StoreStep) :
    (s.next step).store.path = s.store.path := by
  by_cases hstep : step = .save
  · rw [hstep, s.next_save.1]
  · obtain ⟨settings, hnext⟩ := exists_next_eq hstep
    rw [hnext]

/-- The value that a step gives to a setting is kept if the step does not fail; the other settings,
and all settings if it fails or is no change, keep their values. -/
theorem get_next (hstep : step ≠ .reload ∨ s.passes step = false) (key : SettingKey) :
    (s.next step).store.settings.get key
      = (if s.passes step then step.assigns? key else none).getD
        (s.store.settings.get key) := by
  cases step with
  | get name =>
      rw [next_get]
      split <;> rfl
  | set name value =>
      rcases s.next_set name value with ⟨other, v, rfl, hvalue, hpasses, hnext⟩ | ⟨hpasses, hnext⟩
      · rw [hnext, hpasses, if_pos rfl, StoreStep.assigns?]
        change (s.store.settings.set other v).get key = _
        rw [Settings.get_set]
        by_cases hkey : key = other
        · subst hkey
          rw [if_pos rfl, if_pos rfl, hvalue]
          rfl
        · -- two settings never go by the same name
          have hname : other.name ≠ key.name := by
            intro hname
            have hfound := SettingKey.ofName?_name key
            rw [← hname, SettingKey.ofName?_name, Option.some.injEq] at hfound
            exact hkey hfound.symm
          rw [if_neg hkey, if_neg hname]
          rfl
      · rw [hnext, hpasses]
        rfl
  | list => rfl
  | save =>
      rw [s.next_save.1]
      split <;> rfl
  | reload =>
      rcases hstep with hstep | hpasses
      · exact absurd rfl hstep
      · rcases s.next_reload with ⟨settings, -, hpasses', -⟩ | ⟨-, hnext⟩
        · exact nomatch hpasses.symm.trans hpasses'
        · rw [hnext, hpasses]
          rfl

/-! ## What is stored -/

/-- After a run in which nothing is loaded again, a setting has the value that was given to it
last, or else the one that it had before. -/
theorem get_run (s : StoreSession) {steps : List StoreStep} (h : .reload ∉ s.passed steps)
    (key : SettingKey) :
    (s.run steps).store.settings.get key
      = (StoreStep.lastAssigned? key (s.passed steps)).getD (s.store.settings.get key) := by
  induction steps using List.reverseRecOn with
  | nil => rfl
  | append_singleton steps step ih =>
      rw [passed_concat, List.mem_append, not_or] at h
      -- a step that does not fail is among those that have passed, so it is no loading
      have hstep : step ≠ .reload ∨ (s.run steps).passes step = false := by
        by_cases hpasses : (s.run steps).passes step = true
        · refine .inl fun hreload => h.2 ?_
          rw [if_pos hpasses, hreload]
          exact List.mem_singleton_self _
        · exact .inr (Bool.eq_false_iff.2 hpasses)
      rw [run_concat, get_next hstep, ih h.1, passed_concat]
      split
      · rw [StoreStep.lastAssigned?_concat]
        cases step.assigns? key <;> rfl
      · rw [List.append_nil]
        rfl

/-- The path stays what it is in a whole run. -/
theorem path_run (s : StoreSession) (steps : List StoreStep) :
    (s.run steps).store.path = s.store.path := by
  induction steps using List.reverseRecOn with
  | nil => rfl
  | append_singleton steps step ih => rw [run_concat, path_next, ih]

/-! ## What the file holds -/

end StoreSession

/-- Whether settings are held at a path: they have been saved there, or there is no file and they
are empty. -/
def Settings.HeldAt (settings : Settings) (fs : Files) (path : Path) : Prop :=
  (∃ executable,
      fs.entry path.text = .ok (some (.file (Text.encode settings.text) executable)))
    ∨ settings = .empty
      ∧ ∀ content executable, fs.entry path.text ≠ .ok (some (.file content executable))

namespace StoreSession

variable {s : StoreSession} {step : StoreStep} {settings filed : Settings}

/-- Whether the file of a session holds these settings. -/
structure Filed (s : StoreSession) (settings : Settings) : Prop where
  /-- What stands in the file tree stands in directories. -/
  sound : s.files.Sound
  /-- The path has no name that could not be one. -/
  path : s.store.path.WellFormed
  /-- What stands at the path. -/
  held : settings.HeldAt s.files s.store.path

/-- What is loaded is what the file holds. -/
theorem Filed.eq_of_load (hfiled : s.Filed filed)
    (hload : Settings.load s.files s.store.path = .ok settings) : settings = filed := by
  rcases hfiled.held with ⟨executable, hentry⟩ | ⟨rfl, hnone⟩
  · rw [Settings.load_of_file hentry, Settings.ofOctets_encode_text] at hload
    exact (Except.ok.inj hload).symm
  · rcases Settings.load_of_ne_file hnone with hempty | ⟨fault, hfault⟩
    · exact Except.ok.inj (hload.symm.trans hempty)
    · exact nomatch hload.symm.trans hfault

/-- After a save the file holds what is stored. -/
theorem Filed.save (hfiled : s.Filed filed) (h : s.passes .save = true) :
    (s.next .save).Filed s.store.settings := by
  rw [s.next_save.1]
  exact ⟨(SettingsStore.sound_save hfiled.sound hfiled.path).1, hfiled.path,
    .inl (SettingsStore.entry_save hfiled.sound hfiled.path (s.next_save.2.1 h))⟩

/-- After any other step, and after a save that fails, it holds what it held. -/
theorem Filed.next (hfiled : s.Filed filed) (h : step ≠ .save ∨ s.passes step = false) :
    (s.next step).Filed filed := by
  by_cases hstep : step = .save
  · subst hstep
    have hfault : (s.store.save s.files).fault ≠ none := by
      intro hnone
      have hpasses := s.next_save.2.2 hnone
      exact h.elim (fun hne => hne rfl) fun hfails => nomatch hfails.symm.trans hpasses
    have hne := SettingsStore.entry_save_ne_file hfiled.sound hfiled.path hfault
    obtain ⟨hsound, hkeeps⟩ := SettingsStore.sound_save hfiled.sound hfiled.path
    rw [s.next_save.1]
    refine ⟨hsound, hfiled.path, .inr ?_⟩
    rcases hfiled.held with ⟨executable, hentry⟩ | ⟨hempty, -⟩
    · -- a file that was there would still be there
      obtain ⟨content, executable', hafter⟩ := hkeeps.entry_file hentry
      exact absurd hafter (hne content executable')
    · exact ⟨hempty, hne⟩
  · obtain ⟨settings, hnext⟩ := exists_next_eq hstep
    rw [hnext]
    exact ⟨hfiled.sound, hfiled.path, hfiled.held⟩

/-- Whether the settings have just been loaded after some steps: before all of them, or by the last
one. -/
def LoadedAfter (s : StoreSession) (steps : List StoreStep) : Prop :=
  steps = [] ∨ ∃ earlier, steps = earlier ++ [.reload] ∧ (s.run earlier).passes .reload = true

/-- Whether the settings `saved` were stored when some steps saved last; if they did not, whether
those are the settings `first`. -/
def LastSaved (s : StoreSession) (first : Settings) (steps : List StoreStep) (saved : Settings) :
    Prop :=
  .save ∉ s.passed steps ∧ saved = first
    ∨ ∃ front back, steps = front ++ .save :: back ∧ (s.run front).passes .save = true
      ∧ .save ∉ (s.run (front ++ [.save])).passed back
      ∧ saved = (s.run front).store.settings

/-- Every run has a last step that has loaded the settings, or none has. -/
theorem exists_loadedAfter (s : StoreSession) (steps : List StoreStep) :
    ∃ before since, steps = before ++ since ∧ s.LoadedAfter before
      ∧ .reload ∉ (s.run before).passed since := by
  induction steps using List.reverseRecOn with
  | nil => exact ⟨[], [], rfl, .inl rfl, List.not_mem_nil⟩
  | append_singleton steps step ih =>
      -- either the last step of all has loaded, or the one that did is among the others
      by_cases hstep : step = .reload ∧ (s.run steps).passes step = true
      · obtain ⟨rfl, hpasses⟩ := hstep
        exact ⟨steps ++ [.reload], [], (List.append_nil _).symm, .inr ⟨steps, rfl, hpasses⟩,
          List.not_mem_nil⟩
      · obtain ⟨before, since, rfl, hloaded, hsince⟩ := ih
        refine ⟨before, since ++ [step], List.append_assoc _ _ _, hloaded, ?_⟩
        rw [passed_concat, ← run_append, List.mem_append, not_or]
        refine ⟨hsince, fun hmem => hstep ?_⟩
        split at hmem
        · next hpasses => exact ⟨(List.mem_singleton.1 hmem).symm, hpasses⟩
        · exact absurd hmem List.not_mem_nil

/-- Where the settings have just been loaded they are what is loaded from the file. -/
theorem load_run (hload : Settings.load s.files s.store.path = .ok s.store.settings)
    {steps : List StoreStep} (h : s.LoadedAfter steps) :
    Settings.load (s.run steps).files s.store.path = .ok (s.run steps).store.settings := by
  rcases h with rfl | ⟨earlier, rfl, hpasses⟩
  · exact hload
  · rcases (s.run earlier).next_reload with ⟨settings, hsettings, -, hnext⟩ | ⟨hfails, -⟩
    · rw [path_run] at hsettings
      rw [run_concat, hnext]
      exact hsettings
    · exact nomatch hfails.symm.trans hpasses

/-- The file holds the settings that were saved last, all through a run. -/
theorem Filed.run {first : Settings} (hfirst : s.Filed first) (steps : List StoreStep) :
    ∃ saved, (s.run steps).Filed saved ∧ s.LastSaved first steps saved := by
  induction steps using List.reverseRecOn with
  | nil => exact ⟨first, hfirst, .inl ⟨List.not_mem_nil, rfl⟩⟩
  | append_singleton steps step ih =>
      obtain ⟨saved, hfiled, hlast⟩ := ih
      rw [run_concat]
      -- a save that passes is the last one from now on, and no other step changes what was saved
      by_cases hstep : step = .save ∧ (s.run steps).passes step = true
      · obtain ⟨rfl, hpasses⟩ := hstep
        exact ⟨_, hfiled.save hpasses, .inr ⟨steps, [], rfl, hpasses, List.not_mem_nil, rfl⟩⟩
      · have hother : step ≠ .save ∨ (s.run steps).passes step = false := by
          rw [not_and_or, Bool.not_eq_true] at hstep
          exact hstep
        have hnot : .save ∉ if (s.run steps).passes step then [step] else [] := by
          intro hmem
          split at hmem
          · next hpasses => exact hstep ⟨(List.mem_singleton.1 hmem).symm, hpasses⟩
          · exact absurd hmem List.not_mem_nil
        refine ⟨saved, hfiled.next hother, ?_⟩
        rcases hlast with ⟨hnone, hsaved⟩ | ⟨front, back, rfl, hpasses, hback, hsaved⟩
        · refine .inl ⟨?_, hsaved⟩
          rw [passed_concat, List.mem_append]
          exact not_or.2 ⟨hnone, hnot⟩
        · refine .inr ⟨front, back ++ [step], by simp, hpasses, ?_, hsaved⟩
          rw [passed_concat, ← run_append, List.append_assoc, List.singleton_append,
            List.mem_append]
          exact not_or.2 ⟨hback, hnot⟩

/-! ## Other environments -/

/-- The session in another environment. -/
def withEnvironment (s : StoreSession) (env : Environment) : StoreSession :=
  { s with store.environment := env }

/-- A step does the same in another environment, and fails in the same cases. -/
theorem next_withEnvironment (s : StoreSession) (env : Environment) (step : StoreStep) :
    (s.withEnvironment env).next step = (s.next step).withEnvironment env
      ∧ (s.withEnvironment env).passes step = s.passes step := by
  cases step with
  | get name =>
      rw [next_get, next_get, passes, passes, step, step, SettingsStore.getNamed,
        SettingsStore.getNamed]
      cases SettingKey.ofName? name <;> exact ⟨rfl, rfl⟩
  | set name value =>
      rw [next, next, passes, passes, step, step, SettingsStore.setNamed, SettingsStore.setNamed]
      cases SettingKey.ofName? name with
      | none => exact ⟨rfl, rfl⟩
      | some key =>
          dsimp only
          cases Settings.valueOf key value <;> exact ⟨rfl, rfl⟩
  | list => exact ⟨rfl, rfl⟩
  | save =>
      have hsame : (s.withEnvironment env).store.save (s.withEnvironment env).files
          = s.store.save s.files := rfl
      rw [next, next, passes, passes, step, step, hsame]
      rcases s.store.save s.files with ⟨files, _ | fault⟩ <;> exact ⟨rfl, rfl⟩
  | reload =>
      have hsame : Settings.load (s.withEnvironment env).files (s.withEnvironment env).store.path
          = Settings.load s.files s.store.path := rfl
      rw [next, next, passes, passes, step, step, SettingsStore.ofFile, SettingsStore.ofFile,
        hsame]
      cases Settings.load s.files s.store.path <;> exact ⟨rfl, rfl⟩

/-- A whole run does the same in another environment. -/
theorem run_withEnvironment (s : StoreSession) (env : Environment) (steps : List StoreStep) :
    (s.withEnvironment env).run steps = (s.run steps).withEnvironment env
      ∧ (s.withEnvironment env).passed steps = s.passed steps := by
  induction steps generalizing s with
  | nil => exact ⟨rfl, rfl⟩
  | cons step steps ih =>
      obtain ⟨hnext, hpasses⟩ := s.next_withEnvironment env step
      obtain ⟨hrun, hpassed⟩ := ih (s.next step)
      constructor
      · change ((s.withEnvironment env).next step).run steps = _
        rw [hnext, hrun]
        rfl
      · rw [passed, passed, hnext, hpasses, hpassed]

/-- The environment stays what it is in a whole run. -/
theorem environment_run (s : StoreSession) (steps : List StoreStep) :
    (s.run steps).store.environment = s.store.environment :=
  congrArg (fun s => s.store.environment) (s.run_withEnvironment s.store.environment steps).1

/-! ## Whole sessions -/

/-- A change of a setting that there is not fails and changes nothing. -/
theorem step_set_unknown (s : StoreSession) {name : Text}
    (h : name ∉ SettingKey.all.map SettingKey.name) (value : Json) :
    s.step (.set name value) = (s, .error (.set (.unknown ⟨name⟩))) := by
  have hnone : SettingKey.ofName? name = none := by
    rw [SettingKey.ofName?, List.find?_eq_none]
    intro key hkey hname
    exact h (List.mem_map.2 ⟨key, hkey, beq_iff_eq.1 hname⟩)
  rw [step, SettingsStore.setNamed, hnone]

/-- So does a change to a value that is neither a text nor null. -/
theorem step_set_notText (s : StoreSession) (key : SettingKey) {value : Json}
    (hnull : value ≠ .null) (htext : ∀ t, value ≠ .text t) :
    s.step (.set key.name value) = (s, .error (.set (.field (.notText key.fieldName)))) := by
  have hvalue : Settings.valueOf key value = .error (.notText key.fieldName) := by
    cases value with
    | null => exact absurd rfl hnull
    | text t => exact absurd rfl (htext t)
    | _ => rfl
  rw [step, SettingsStore.setNamed, SettingKey.ofName?_name]
  dsimp only
  rw [hvalue]

/-- A setting that is looked up has the value of its variable, if that is not empty, and else the
value that is stored. -/
theorem step_get (s : StoreSession) (key : SettingKey) :
    s.step (.get key.name) = (s, .ok (.value
      (if (s.store.environment.get? key.overrideName).getD [] = [] then s.store.settings.get key
        else s.store.environment.get? key.overrideName))) := by
  rw [step, SettingsStore.getNamed, SettingKey.ofName?_name]
  dsimp only
  rw [SettingsStore.get, Environment.nonempty?]
  cases s.store.environment.get? key.overrideName with
  | none => rfl
  | some value => cases value <;> rfl

/-- What a session does that starts where settings are held, or where there is no file.
* The settings were last loaded somewhere, which was at the start or in a step that did not fail,
  and they were those that had been saved last. Since then each setting has the value of the last
  change that did not fail, if there was one.
* A change fails and changes nothing if there is no such setting, or if its value is neither a text
  nor null.
* What is looked up is the value of the environment, if that is not empty, else the stored one.
* What is saved are the stored values, and in any other environment the session stores and saves
  the same. -/
theorem stored_run {fs : Files} {path : Path} {env : Environment} (hsound : fs.Sound)
    (hpath : path.WellFormed) {first : Settings} (hfirst : first.HeldAt fs path)
    (hstart : start fs path env = .ok s) (steps : List StoreStep) :
    (∃ before since loaded, steps = before ++ since ∧ s.LoadedAfter before
        ∧ .reload ∉ (s.run before).passed since
        ∧ Settings.load (s.run before).files path = .ok loaded
        ∧ s.LastSaved first before loaded
        ∧ ∀ key, (s.run steps).store.settings.get key
          = (StoreStep.lastAssigned? key ((s.run before).passed since)).getD (loaded.get key))
      ∧ (∀ name value, name ∉ SettingKey.all.map SettingKey.name →
        (s.run steps).step (.set name value) = (s.run steps, .error (.set (.unknown ⟨name⟩))))
      ∧ (∀ (key : SettingKey) value, value ≠ .null → (∀ t, value ≠ .text t) →
        (s.run steps).step (.set key.name value)
          = (s.run steps, .error (.set (.field (.notText key.fieldName)))))
      ∧ (∀ key : SettingKey, (s.run steps).step (.get key.name) = (s.run steps, .ok (.value
        (if (env.get? key.overrideName).getD [] = [] then (s.run steps).store.settings.get key
          else env.get? key.overrideName))))
      ∧ ((s.run steps).passes .save = true →
        ((s.run steps).next .save).files.read path.text
          = .ok (Text.encode (s.run steps).store.settings.text))
      ∧ ∀ other, ∃ s', start fs path other = .ok s' ∧ (s'.run steps).files = (s.run steps).files
        ∧ (s'.run steps).store.settings = (s.run steps).store.settings
        ∧ s'.passed steps = s.passed steps := by
  obtain ⟨loaded, hload, rfl⟩ : ∃ loaded, Settings.load fs path = .ok loaded
      ∧ s = ⟨⟨path, env, loaded⟩, fs⟩ := by
    rw [start, SettingsStore.ofFile] at hstart
    cases hload : Settings.load fs path with
    | error fault =>
        rw [hload] at hstart
        cases hstart
    | ok loaded =>
        rw [hload] at hstart
        cases hstart
        exact ⟨loaded, rfl, rfl⟩
  -- from here on only what is known of the start is used, so it gets its name back
  generalize hs : (⟨⟨path, env, loaded⟩, fs⟩ : StoreSession) = s
  have hfiled : s.Filed first := hs ▸ ⟨hsound, hpath, hfirst⟩
  have hloaded : Settings.load s.files s.store.path = .ok s.store.settings := hs ▸ hload
  have hpaths : s.store.path = path := hs ▸ rfl
  have henv : s.store.environment = env := hs ▸ rfl
  refine ⟨?_, fun name value hname => step_set_unknown _ hname value,
    fun key value => step_set_notText _ key, fun key => ?_, fun hpasses => ?_, fun other => ?_⟩
  · obtain ⟨before, since, rfl, hbefore, hsince⟩ := s.exists_loadedAfter steps
    obtain ⟨saved, hsaved, hlast⟩ := hfiled.run before
    have hnow := load_run hloaded hbefore
    rw [← path_run s before] at hnow
    have hsame := hsaved.eq_of_load hnow
    rw [path_run, hpaths] at hnow
    refine ⟨before, since, _, rfl, hbefore, hsince, hnow, hsame ▸ hlast, fun key => ?_⟩
    rw [run_append, get_run _ hsince]
  · rw [step_get, environment_run, henv]
  · obtain ⟨saved, hsaved, -⟩ := hfiled.run steps
    obtain ⟨executable, hentry⟩ := SettingsStore.entry_save hsaved.sound hsaved.path
      ((s.run steps).next_save.2.1 hpasses)
    rw [(s.run steps).next_save.1, ← hpaths, ← path_run s steps]
    exact Files.read_of_entry hentry
  · obtain ⟨hrun, hpassed⟩ := s.run_withEnvironment other steps
    refine ⟨s.withEnvironment other, ?_, ?_, ?_, hpassed⟩
    · rw [start, SettingsStore.ofFile, hload, ← hs]
      rfl
    · rw [hrun]
      rfl
    · rw [hrun]
      rfl

/-- A session in whose environment the interpreter is overridden. It starts without a file. -/
def overriddenSession : StoreSession :=
  ⟨⟨Path.ofText "conf/s.json".toList,
    ⟨[("CPPLINT_BRIDGE_PYTHON".toList, "py".toList)], []⟩, .empty⟩, ⟨.empty, []⟩⟩

/-- Some changes of which one is saved, some fail and the last one is lost. -/
def mixedSteps : List StoreStep :=
  [.set "python".toList (.text "a".toList), .save, .set "nope".toList .null, .list,
    .set "python".toList (.bool true), .set "python".toList (.text "b".toList),
    .set "cpplint".toList .null, .reload, .set "cpplint".toList (.text "c".toList)]

/-- In that session the saved value of the interpreter is stored, and the one of the environment is
looked up. It is not saved. -/
theorem stored_run_overriddenSession :
    (overriddenSession.run mixedSteps).store.settings = ⟨some "a".toList, some "c".toList, none⟩
      ∧ (overriddenSession.run mixedSteps).step (.get "python".toList)
        = (overriddenSession.run mixedSteps, .ok (.value (some "py".toList)))
      ∧ ((overriddenSession.run mixedSteps).next .save).files.read "conf/s.json".toList
        = .ok (Text.encode (Settings.text ⟨some "a".toList, some "c".toList, none⟩)) := by
  have hnone : Settings.HeldAt .empty overriddenSession.files overriddenSession.store.path :=
    .inr ⟨rfl, fun content executable hentry => nomatch hentry⟩
  have hstart : start overriddenSession.files overriddenSession.store.path
      overriddenSession.store.environment = .ok overriddenSession := rfl
  have hstored : (overriddenSession.run mixedSteps).store.settings
      = ⟨some "a".toList, some "c".toList, none⟩ := by decide +kernel
  have hpasses : (overriddenSession.run mixedSteps).passes .save = true := by decide +kernel
  obtain ⟨-, -, -, hget, hsave, -⟩ :=
    stored_run Files.sound_empty (Path.wellFormed_ofText _) hnone hstart mixedSteps
  refine ⟨hstored, hget .interpreter, ?_⟩
  rw [← hstored]
  exact hsave hpasses

end StoreSession

end LintMend

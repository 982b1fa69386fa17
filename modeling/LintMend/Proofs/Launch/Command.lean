import LintMend.Lint.Run
import LintMend.Proofs.Launch.ShellWords

/-! # What a command says

A command says the same words whether a shell runs it or not.
* `DrivePath.not_mem_toPosix`, `DrivePath.toPosix_toPosix`: the POSIX form of a path holds no
  backslash and is its own POSIX form.
* `Host.split?_shellLine`: the line for a shell is split into the words that are handed over
  without one.
* `Command.words?`: the words that a command says.
* `Runner.command_words`: the words that the command of a run says, whatever the system. -/

namespace LintMend

/-! ## Drive paths -/

namespace DrivePath

open Text (exchange)

variable {t : Text}

/-- A drive path may hold a line feed at its end, but nowhere else. -/
theorem afterDrive?_eq_none_iff : afterDrive? t = none ↔ '\n' ∈ t.dropLast := by
  have hbody : ∀ path : Text,
      '\n' ∈ (if path.getLast? = some '\n' then path.dropLast else path)
        ↔ '\n' ∈ path.dropLast := by
    intro path
    split
    · exact Iff.rfl
    · next hlast =>
        rcases List.eq_nil_or_concat path with rfl | ⟨front, last, rfl⟩
        · exact Iff.rfl
        · rw [List.concat_eq_append, List.getLast?_concat, Option.some.injEq] at hlast
          simp [eq_comm, hlast]
  have hnone : ∀ path : Text,
      (if '\n' ∈ path then none else some path) = none ↔ '\n' ∈ path := by
    intro path
    simp
  cases t with
  | nil => simp [afterDrive?]
  | cons c rest =>
      rw [afterDrive?, hnone, hbody]
      split
      · next hslash =>
          -- the slash that is dropped is no line feed
          have hc : '\n' ≠ c := by
            rintro rfl
            exact absurd hslash (by decide)
          cases rest with
          | nil => exact Iff.rfl
          | cons d rest => rw [List.dropLast_cons_cons, List.mem_cons, or_iff_right hc]
      · exact Iff.rfl

/-- Whether a path begins with a drive does not depend on the slashes that it uses. -/
theorem ofText?_exchange_eq_none_iff : ofText? (exchange '\\' '/' t) = none ↔ ofText? t = none := by
  have hkeeps : ∀ c d : Char, d ≠ '/' → d ≠ '\\' →
      ((if c = '\\' then '/' else c) = d ↔ c = d) := by
    intro c d hslash hback
    split
    · next hc =>
        rw [hc]
        exact ⟨fun h => absurd h.symm hslash, fun h => absurd h.symm hback⟩
    · exact Iff.rfl
  have hletter : ∀ c : Char, (if c = '\\' then '/' else c).isAlpha = c.isAlpha := by
    intro c
    split
    · next hc =>
        rw [hc]
        decide
    · rfl
  have hfeed : ∀ path : Text, '\n' ∈ (exchange '\\' '/' path).dropLast ↔ '\n' ∈ path.dropLast := by
    intro path
    rw [exchange, ← List.map_dropLast, List.mem_map]
    simp only [hkeeps _ '\n' (by decide) (by decide), exists_eq_right]
  obtain _ | ⟨letter, _ | ⟨colon, rest⟩⟩ := t
  · exact Iff.rfl
  · exact Iff.rfl
  · change ofText? (_ :: _ :: exchange '\\' '/' rest) = none ↔ _
    simp only [ofText?, hletter, hkeeps colon ':' (by decide) (by decide)]
    split
    · rw [Option.map_eq_none_iff, Option.map_eq_none_iff, afterDrive?_eq_none_iff,
        afterDrive?_eq_none_iff, hfeed]
    · exact Iff.rfl

/-- The POSIX form of a path holds no backslash. -/
theorem not_mem_toPosix (t : Text) : '\\' ∉ toPosix t := by
  rw [toPosix]
  split
  · exact Text.not_mem_exchange (by decide) t
  · next letter path hdrive =>
      -- the letter of a drive is none
      have hletter : letter.isAlpha = true := by
        obtain _ | ⟨first, _ | ⟨colon, rest⟩⟩ := t
        · exact absurd hdrive (by simp [ofText?])
        · exact absurd hdrive (by simp [ofText?])
        · rw [ofText?] at hdrive
          split at hdrive
          · next h =>
              obtain ⟨_, -, heq⟩ := Option.map_eq_some_iff.1 hdrive
              obtain ⟨rfl, -⟩ := Prod.mk.inj heq
              exact h.1
          · exact absurd hdrive (by simp)
      have hlower : letter.toLower ≠ '\\' :=
        Text.of_isAlphanum (P := fun c => c.toLower ≠ '\\') (by decide)
          (by rw [Char.isAlphanum, hletter, Bool.true_or])
      rw [List.mem_append, List.mem_cons, List.mem_cons]
      rintro (hmem | hmem | hmem | hmem)
      · exact absurd hmem (by decide)
      · exact hlower hmem.symm
      · exact absurd hmem (by decide)
      · exact Text.not_mem_exchange (by decide) path hmem

/-- The POSIX form of a path does not begin with a drive. -/
theorem ofText?_toPosix (t : Text) : ofText? (toPosix t) = none := by
  rw [toPosix]
  split
  · next hnone => exact ofText?_exchange_eq_none_iff.2 hnone
  · next letter path _ =>
      change ofText? ('/' :: 'c' :: _) = none
      rw [ofText?, if_neg (by decide)]

/-- The POSIX form of a path is its own POSIX form. -/
theorem toPosix_toPosix (t : Text) : toPosix (toPosix t) = toPosix t := by
  have hnone := ofText?_toPosix t
  have hback := not_mem_toPosix t
  rw [toPosix, hnone]
  exact Text.exchange_eq_self hback

end DrivePath

/-! ## Lines and words -/

namespace Host

/-- The line for a shell is split into the words that are handed over without one. -/
theorem split?_shellLine {options : Text} (h : Shell.IsOptions options)
    (interpreter script file : Text) :
    Shell.split? (shellLine interpreter script options file)
      = some (commandWords interpreter script options file) := by
  have hfile : Shell.splitFrom .open none (Shell.quote file) = ([file], .open) := by
    have hread := Shell.splitFrom_quote file []
    rwa [List.append_nil] at hread
  have hread : Shell.splitFrom .open none (shellLine interpreter script options file)
      = (commandWords interpreter script options file, .open) := by
    by_cases hnone : Text.trim options = []
    · have hwords : Text.words options = [] := by rw [← Text.words_trim, hnone, Text.words_nil]
      have hline : shellLine interpreter script options file
          = Shell.quote interpreter ++ ' ' :: (Shell.quote script ++ ' ' :: Shell.quote file) := by
        simp [shellLine, hnone, Text.join]
      rw [hline, Shell.splitFrom_quote_space, Shell.splitFrom_quote_space, hfile, commandWords,
        hwords]
      rfl
    · have htrim : Shell.IsOptions (Text.trim options) := fun c hc => h c (Text.mem_of_mem_trim hc)
      have hline : shellLine interpreter script options file
          = Shell.quote interpreter ++ ' ' :: (Shell.quote script ++ ' ' ::
              (Text.trim options ++ ' ' :: Shell.quote file)) := by
        simp [shellLine, hnone, Text.join]
      rw [hline, Shell.splitFrom_quote_space, Shell.splitFrom_quote_space,
        Shell.splitFrom_options htrim, hfile, Text.words_trim, commandWords]
      simp
  rw [Shell.split?, Shell.words, hread, if_pos rfl]

end Host

/-- The words that a command says: those of the line that its shell is given, or its own. -/
def Command.words? (c : Command) : Option (List Text) :=
  if c.wrapped then c.argv[2]?.bind Shell.split? else some c.argv

namespace Host

variable {h : Host} {options : Text}

/-- Without a shell the words are handed over. -/
theorem command_of_isNative (hn : h.isNative = true) (interpreter script options file : Text) :
    h.command interpreter script options file
      = ⟨commandWords interpreter script options file, false⟩ := if_pos hn

/-- Otherwise a shell is given the line. -/
theorem command_of_not_isNative (hn : h.isNative = false) (interpreter script options file : Text) :
    h.command interpreter script options file
      = ⟨[h.shell, "-c".toList, shellLine interpreter script options file], true⟩ := by
  rw [command, if_neg (by simp [hn])]

/-- With options that mean nothing to a shell, a command says the same words on every system. -/
theorem words?_command (hoptions : h.isNative = false → Shell.IsOptions options)
    (interpreter script file : Text) :
    (h.command interpreter script options file).words?
      = some (commandWords interpreter script options file) := by
  cases hn : h.isNative with
  | true => rw [command_of_isNative hn]; rfl
  | false =>
      rw [command_of_not_isNative hn]
      exact split?_shellLine (hoptions hn) interpreter script file

end Host

namespace Runner

/-- The value of a setting counts unless it is unset or empty. -/
theorem settingOr_eq (runner : Runner) (key : SettingKey) (other : Text) :
    runner.settingOr key other
      = ((runner.setting key).filter fun value => !value.isEmpty).getD other := by
  rw [settingOr]
  rcases runner.setting key with _ | _ | ⟨c, value⟩ <;> rfl

/-- An unset setting and an empty one are the same where nothing stands in for them. -/
theorem settingOr_nil (runner : Runner) (key : SettingKey) :
    runner.settingOr key [] = (runner.setting key).getD [] := by
  rw [settingOr]
  rcases runner.setting key with _ | _ | ⟨c, value⟩ <;> rfl

/-- **A command says the same words with and without a shell.** The line that a shell is given is
split into the words that are handed over without one, whatever the interpreter, the script and the
file are called. So the words of a run are the interpreter that is set, the script, the options, and
the file, whose path is in POSIX form where the system wants that. -/
theorem command_words :
    (∀ (shelled native : Host) (interpreter script options file : Text),
      shelled.isNative = false → native.isNative = true → Shell.IsOptions options →
        (shelled.command interpreter script options file).argv[2]?.bind Shell.split?
            = some (native.command interpreter script options file).argv
          ∧ (native.command interpreter script options file).argv
            = [interpreter, script] ++ Text.words options ++ [file])
      ∧ ∀ (runner : Runner) (file : Text),
          (runner.host.isNative = false →
            Shell.IsOptions ((runner.setting .options).getD [])) →
          ∃ target,
            (runner.command file).words?
                = some ([((runner.setting .interpreter).filter fun value => !value.isEmpty).getD
                      "python".toList, (runner.setting .script).getD []]
                    ++ Text.words ((runner.setting .options).getD []) ++ [target])
              ∧ (runner.host.isAlternate = false → target = file)
              ∧ (runner.host.isAlternate = true → target = DrivePath.toPosix file
                  ∧ '\\' ∉ target ∧ DrivePath.toPosix target = target) := by
  constructor
  · intro shelled native interpreter script options file hshelled hnative hoptions
    rw [Host.command_of_not_isNative hshelled, Host.command_of_isNative hnative]
    exact ⟨Host.split?_shellLine hoptions interpreter script file, rfl⟩
  · intro runner file hoptions
    refine ⟨runner.targetPath file, ?_, fun halternate => ?_, fun halternate => ?_⟩
    · rw [← settingOr_nil] at hoptions
      rw [command, Host.words?_command hoptions, settingOr_eq, settingOr_nil, settingOr_nil]
      rfl
    · rw [targetPath, halternate]
      rfl
    · have htarget : runner.targetPath file = DrivePath.toPosix file := by
        rw [targetPath, halternate]
        rfl
      rw [htarget]
      exact ⟨rfl, DrivePath.not_mem_toPosix file, DrivePath.toPosix_toPosix file⟩

/-- A system that wants POSIX paths, with an interpreter and a script whose names need quotes. -/
def posixRunner : Runner where
  host := ⟨"cygwin".toList, ⟨[], []⟩, "/bin/bash".toList⟩
  setting
    | .interpreter => some "it's py".toList
    | .script => none
    | .options => some " --v=3\t -x ".toList
  canOpenSettings := false

/-- A system without a shell. -/
def plainHost : Host := ⟨"win32".toList, ⟨[], []⟩, []⟩

/-- On that system a drive path is written with slashes, and the quotes are read as they were
meant. -/
theorem command_words_posixRunner :
    posixRunner.host.isNative = false ∧ plainHost.isNative = true
      ∧ Shell.IsOptions " --v=3\t -x ".toList
      ∧ (posixRunner.command "C:\\a b.h".toList).argv
        = ["/bin/bash".toList, "-c".toList,
            "'it'\"'\"'s py' '' --v=3\t -x '/cygdrive/c/a b.h'".toList]
      ∧ (posixRunner.command "C:\\a b.h".toList).words?
        = some ["it's py".toList, [], "--v=3".toList, "-x".toList, "/cygdrive/c/a b.h".toList]
      ∧ ((posixRunner.host.command "it's py".toList [] " --v=3\t -x ".toList
            "C:\\a b.h".toList).argv[2]?.bind Shell.split?)
        = some (plainHost.command "it's py".toList [] " --v=3\t -x ".toList
            "C:\\a b.h".toList).argv := by
  have hnative : posixRunner.host.isNative = false := by decide
  have hplain : plainHost.isNative = true := by decide
  have hoptions : Shell.IsOptions " --v=3\t -x ".toList := by decide
  obtain ⟨target, hwords, -, htarget⟩ :=
    command_words.2 posixRunner "C:\\a b.h".toList fun _ => hoptions
  have hposix : target = "/cygdrive/c/a b.h".toList := by
    rw [(htarget (by decide)).1]
    decide
  refine ⟨hnative, hplain, hoptions, by decide, ?_,
    (command_words.1 _ _ _ _ _ _ hnative hplain hoptions).1⟩
  rw [hwords, hposix]
  decide

end Runner

end LintMend

import LintMend.CommandLine.Completion
import LintMend.Display.Plain
import LintMend.Display.Report
import LintMend.Lint.Run
import LintMend.Settings.Store

/-! # The command line

The commands `lint`, `config show` and `config set` (§4.4), and the answers to a shell that
completes them.
* `Invocation`: the arguments, and what the program finds when it starts; `Call`: the same with the
  console that it writes to.
* `CommandLine.saying`: a command goes on when the console takes what it says, and ends otherwise.
* `CommandLine.lint`, `CommandLine.showSettings`, `CommandLine.changeSetting`: the commands.
* `CommandLine.run`: what the program does: its output, the files that it leaves, and its exit
  status.

The exit status is 0 if there is nothing to report, 1 if there are findings or something failed, and
2 if the arguments are wrong. -/

namespace LintMend

/-- What the program finds when it starts. -/
structure Invocation where
  /-- The arguments. -/
  arguments : List Text
  /-- The environment. -/
  environment : Environment
  /-- The name of the platform. -/
  platform : Text
  /-- The files. -/
  files : Files
  /-- What comes of launching the checker, if it is launched. -/
  launch : Launch

/-- A call of the program. -/
structure Call extends Invocation where
  /-- The console that it writes to. -/
  console : Console

/-- Why a command fails. -/
inductive CommandFault
  | file (fault : FileFault)
  | load (fault : LoadFault)
  | run (fault : RunFault)
  | fix (fault : FixFault)
  | save (fault : Document.SaveFault)
  | size (fault : SizeFault)
  | completion (fault : Completion.Fault)
  deriving DecidableEq, Repr

/-- How the failure of a command reads. -/
def CommandFault.message : CommandFault → Text
  | file fault => fault.message
  | load fault => fault.message
  | run fault => fault.message
  | fix fault => fault.message
  | save fault => fault.message
  | size fault => fault.message
  | completion fault => fault.message

/-- What a command leaves. -/
structure Conclusion where
  /-- The exit status. -/
  exit : Nat
  /-- What was written to the standard output. -/
  output : Text
  /-- The files. -/
  files : Files
  /-- Launches, notifications and records for the log. -/
  effects : Effects
  /-- Why the command failed, if it did. -/
  fault : Option CommandFault
  /-- The text that the console did not take, if there was one. The command ended there. -/
  unsaid : Option Text
  deriving DecidableEq, Repr

namespace CommandLine

/-! ## Conclusions -/

/-- What a command does after it has said some texts, behind what has been said before. If the
console does not take one of them, it ends with the files and effects that there are by then. -/
def saying (call : Call) (files : Files) (effects : Effects) (before : Text) (texts : List Text)
    (next : Text → Conclusion) : Conclusion :=
  match call.console.write before texts with
  | .error refusal => ⟨1, refusal.written, files, effects, none, some refusal.refused⟩
  | .ok said => next said

/-- What holds of the files that there are by then, and of those that are left when all is said,
holds of those that are left in any case. -/
theorem files_saying {P : Files → Prop} {call : Call} {files : Files} {effects : Effects}
    {next : Text → Conclusion} (hfiles : P files) (hnext : ∀ said, P (next said).files)
    (before : Text) (texts : List Text) :
    P (saying call files effects before texts next).files := by
  rw [saying]
  split
  · exact hfiles
  · exact hnext _

/-- A command that changes no file: it says some texts and ends with a status. -/
def ended (call : Call) (exit : Nat) (texts : List Text) : Conclusion :=
  saying call call.files .none [] texts fun said => ⟨exit, said, call.files, .none, none, none⟩

/-- The end of a command that failed before it wrote anything. -/
def failed (call : Call) (fault : CommandFault) : Conclusion :=
  ⟨1, [], call.files, .none, some fault, none⟩

/-- The end of a command that says something about the command line itself, which is set in boxes
across the whole output. -/
def advised (call : Call) (advice : Nat → Conclusion) : Conclusion :=
  match call.console.boxWidth call.environment with
  | .error fault => failed call (.size fault)
  | .ok width => advice width

/-- The end of a command whose arguments are wrong. -/
def misused (call : Call) : Conclusion := advised call fun _ => ended call 2 []

/-- What is written when help is asked for. -/
def helpText : Text :=
  ("Usage: cpplint-bridge [--verbose] COMMAND\n\n"
    ++ "  lint [--root DIR] [--settings FILE] [--fix] [--no-emoji] FILE\n"
    ++ "  config show [--settings FILE]\n"
    ++ "  config set [--settings FILE] KEY VALUE\n").toList

/-- The end of a command that was asked for help. An empty line follows it. -/
def helped (call : Call) : Conclusion :=
  advised call fun width => ended call 0 [(if width = 0 then [] else helpText) ++ ['\n']]

/-! ## Settings commands -/

/-- The settings file that is meant: the one that is named, or the usual one. -/
def settingsPath (call : Call) (named : Option Text) : Except LoadFault Path :=
  match named with
  | some written => .ok (Path.ofText written)
  | none => Settings.defaultPath call.environment

/-- The settings that are meant. -/
def openStore (call : Call) (named : Option Text) : Except LoadFault SettingsStore :=
  match settingsPath call named with
  | .error fault => .error fault
  | .ok path => SettingsStore.ofFile call.files path call.environment

/-- A line that is said as it is. Only a terminal gets the style codes in it. -/
def outputLine (con : Console) (t : Text) : Text :=
  (if con.terminal then t else Screen.withoutCodes t) ++ ['\n']

/-- The line that shows a setting. -/
def settingLine (con : Console) (store : SettingsStore) (key : SettingKey) : Text :=
  outputLine con (key.name ++ " = ".toList ++ (store.get key).getD "<unset>".toList)

/-- `config show`: the settings file and the values that count (`config_show`). -/
def showSettings (call : Call) (parsed : Parsed Switch) : Conclusion :=
  match openStore call (parsed.value? .settings) with
  | .error fault => failed call (.load fault)
  | .ok store =>
      ended call 0 (outputLine call.console ("settings file: ".toList ++ store.path.text)
        :: SettingKey.all.map (settingLine call.console store))

/-- The value to keep for an operand: the empty one clears the setting. -/
def keptValue (operand : Text) : Option Text := if operand = [] then none else some operand

/-- `config set`: another value for a setting (`config_set`). It is saved before anything is
said. -/
def changeSetting (call : Call) (parsed : Parsed Switch) (name value : Text) : Conclusion :=
  match openStore call (parsed.value? .settings) with
  | .error fault => failed call (.load fault)
  | .ok store =>
      match SettingKey.ofName? name with
      | none => misused call
      | some key =>
          let saved := (store.set key (keptValue value)).save call.files
          match saved.fault with
          | some fault => { failed call (.file fault) with files := saved.files }
          | none =>
              saying call saved.files .none []
                [outputLine call.console (name ++ " saved to ".toList ++ store.path.text)]
                fun said => ⟨0, said, saved.files, .none, none, none⟩

/-! ## Linting -/

/-- What the reports of `lint` are written to, in colour on a terminal, and with marks unless they
are declined. -/
def lintOutput (call : Call) (marks : Bool) : Except SizeFault Report.Output :=
  Report.Output.on call.console call.environment none marks

/-- Whether marks are wanted: the last option about them counts. -/
def wantsMarks (parsed : Parsed Switch) : Bool :=
  ((parsed.options.filter fun option => option.1 == .emoji || option.1 == .noEmoji).getLast?.map
    fun option => option.1 == .emoji).getD true

/-- How long notifications are kept apart, in seconds. -/
def noticeWindow : Nat := 60

/-- The system on which the program runs. -/
def host (call : Call) : Host :=
  ⟨call.platform, call.environment,
    Shell.find call.files ((call.environment.get? "PATH".toList).getD [])⟩

/-- The number of something, and what it is called. -/
def counted (n : Nat) (what : Text) : Text := Numeral.write n ++ ' ' :: what

/-- The texts that are written for the notifications of a run. -/
def noticeTexts (out : Report.Output) (effects : Effects) : List Text :=
  effects.notifications.flatMap (Report.noticeLines out)

/-- The line for a run that found nothing. -/
def cleanLine (out : Report.Output) : Text :=
  Report.status out .success "No cpplint findings".toList

/-- The texts that are written about findings: the findings and their number. -/
def findingTexts (out : Report.Output) (path : Text) (ps : List PlacedFinding) : List Text :=
  ps.flatMap (Report.findingLines out path)
    ++ [Report.status out .warning (counted ps.length "cpplint finding(s)".toList)]

/-- The line for a file that has been mended with so many fixes. -/
def mendedLine (out : Report.Output) (path : Text) (count : Nat) : Text :=
  Report.status out .info
    ("Applied ".toList ++ counted count "quick fix(es) to ".toList ++ path)

/-- Apply the specific fixes of findings and save the document if there were any; how many there
were, and the files that are left. -/
def mendFile (fs : Files) (document : Document) (ps : List PlacedFinding) :
    Except CommandFault (Nat × Files) :=
  let mending := PlacedFinding.mend document ps
  match mending.fault with
  | some fault => .error (.fix fault)
  | none =>
      if mending.count = 0 then .ok (0, fs)
      else
        match mending.document.save fs with
        | .error fault => .error (.save fault)
        | .ok saved => .ok (mending.count, saved)

/-- The conclusion of `lint` when the findings have been shown and are to be mended. -/
def concludeMending (call : Call) (out : Report.Output) (document : Document) (path : Text)
    (effects : Effects) (ps : List PlacedFinding) (shown : Text) : Conclusion :=
  match mendFile call.files document ps with
  | .error fault => ⟨1, shown, call.files, effects, some fault, none⟩
  | .ok (count, files) =>
      saying call files effects shown [mendedLine out path count] fun said =>
        ⟨1, said, files, effects, none, none⟩

/-- The conclusion of `lint` when the checker has been run. -/
def concludeLint (call : Call) (out : Report.Output) (fix : Bool) (document : Document)
    (path : Text) (outcome : Outcome Nat (Except RunFault (List PlacedFinding))) : Conclusion :=
  let effects := outcome.effects
  saying call call.files effects [] (noticeTexts out effects) fun noticed =>
    match outcome.value with
    | .error fault => ⟨1, noticed, call.files, effects, some (.run fault), none⟩
    | .ok [] =>
        saying call call.files effects noticed [cleanLine out] fun said =>
          ⟨0, said, call.files, effects, none, none⟩
    | .ok ps =>
        -- what is shown are the findings before mending, and they count even if all are mended
        saying call call.files effects noticed (findingTexts out path ps) fun shown =>
          if fix then concludeMending call out document path effects ps shown
          else ⟨1, shown, call.files, effects, none, none⟩

/-- The conclusion of `lint` when the checker has been run and nothing can be said about it, because
no console can be built. -/
def concludeUnsaid (call : Call) (unbuilt : SizeFault)
    (outcome : Outcome Nat (Except RunFault (List PlacedFinding))) : Conclusion :=
  let fault := match outcome.value with
    | .error fault => CommandFault.run fault
    | .ok _ => .size unbuilt
  ⟨1, [], call.files, outcome.effects, some fault, none⟩

/-- Lint the file at a place, in a project at another. -/
def lintPlace (call : Call) (parsed : Parsed Switch) (path : Path) (target root : Place) :
    Conclusion :=
  match openStore call (parsed.value? .settings) with
  | .error fault => failed call (.load fault)
  | .ok store =>
      match Document.load call.files (Path.ofPlace target) (some (Path.ofPlace root)) with
      | .error fault => failed call (.file fault)
      | .ok document =>
          let runner : Runner := ⟨host call, store.get, false⟩
          let outcome := runner.run call.files (Throttle.new noticeWindow) 0 document
            (Path.ofPlace target).text (some (Path.ofPlace root).text) call.launch
          match lintOutput call (wantsMarks parsed) with
          | .error fault => concludeUnsaid call fault outcome
          | .ok out => concludeLint call out (parsed.has .fix) document path.text outcome

/-- `lint`: run the checker on a file, which must be there, and is all that is named
(`lint_command`). Slashes at the end of its path make no difference. -/
def lint (call : Call) (parsed : Parsed Switch) (file : Text) (others : List Text) : Conclusion :=
  let path := Path.ofText file
  match call.files.isFile path.text, others with
  | .ok true, [] =>
      let root := Path.ofText ((parsed.value? .root).getD [])
      lintPlace call parsed path (path.resolve call.files.here) (root.resolve call.files.here)
  | _, _ => misused call

/-! ## Commands -/

/-- Whether the value of an option cannot be a path, because the null character stands in it. -/
def namesNoPath (parsed : Parsed Switch) : Bool :=
  [Switch.root, Switch.settings].any fun switch =>
    ((parsed.value? switch).map fun value => value.contains '\x00').getD false

/-- A command whose options are taken apart. Help goes first if it is asked for; then the paths
among the options must be such as can be. -/
def withOptions (call : Call) (verb : Verb) (arguments : List Text)
    (command : Parsed Switch → Conclusion) : Conclusion :=
  match verb.grammar.parse? arguments with
  | none => misused call
  | some parsed =>
      if parsed.has .help then helped call
      else if namesNoPath parsed then misused call
      else command parsed

/-- What is written when completion is to be installed, as the shell that is used is not known. -/
def noInstallation : Text := "Shell None is not supported.\n".toList

/-- The end of a command that is to do something for the shell that is used, if it is such a one.
That fails, as the shell is not known. -/
def servedShell? (call : Call) (parsed : Parsed Switch) : Option Conclusion :=
  parsed.options.findSome? fun option =>
    match option.1 with
    | .installCompletion => some (ended call 1 [noInstallation])
    | .showCompletion => some (ended call 1 [])
    | _ => none

/-- What a verb does with its options and operands. -/
def perform (call : Call) : Verb → Parsed Switch → Conclusion
  | .lint, parsed =>
      match parsed.operands with
      | [] => misused call
      | file :: others => lint call parsed file others
  | .showSettings, parsed =>
      match parsed.operands with
      | [] => showSettings call parsed
      | _ => misused call
  | .changeSetting, parsed =>
      match parsed.operands with
      | [name, value] => changeSetting call parsed name value
      | _ => misused call
  | .main, _ | .config, _ => misused call

/-- The end of a verb whose operands name no command below it. What stands after `--` is looked at
once more, and can still ask for what an option asks for. -/
def unnamed (call : Call) (verb : Verb) (parsed : Parsed Switch) : Conclusion :=
  match verb.grammar.parse? parsed.operands with
  | none => misused call
  | some again =>
      if again.has .help then helped call else (servedShell? call again).getD (misused call)

/-- The commands of `config`. -/
def runConfig (call : Call) (parsed : Parsed Switch) : Conclusion :=
  match Verb.config.named? parsed with
  | none => unnamed call .config parsed
  | some (verb, arguments) => withOptions call verb arguments (perform call verb)

/-- The commands of the program. -/
def runCommand (call : Call) (parsed : Parsed Switch) : Conclusion :=
  match servedShell? call parsed, Verb.main.named? parsed with
  | some served, _ => served
  | none, none => unnamed call .main parsed
  | none, some (.config, arguments) => withOptions call .config arguments (runConfig call)
  | none, some (verb, arguments) => withOptions call verb arguments (perform call verb)

/-- The end of a command that answers a shell. -/
def completed (call : Call) (instruction : Text) : Conclusion :=
  match Completion.answer call.console call.environment instruction with
  | .error fault => failed call (.completion fault)
  | .ok (exit, output) => ended call exit [output]

/-- What the program does in a call: answer the question of a shell, if there is one, or else what
it is told to do. -/
def answer (call : Call) : Conclusion :=
  match call.environment.nonempty? Completion.questionVariable with
  | some instruction => completed call instruction
  | none => withOptions call .main call.arguments (runCommand call)

/-- What the program does on a console. -/
def run (inv : Invocation) (console : Console := .plain false) : Conclusion :=
  answer { inv with console := console }

end CommandLine

end LintMend

import LintMend.Finding.Reading
import LintMend.Launch.Command
import LintMend.Lint.Child
import LintMend.Notice.Basic
import LintMend.Notice.Throttle
import LintMend.Placed
import LintMend.Settings.Check

/-! # Lint runs

Running the checker on a file and placing what it finds (§3.7).
* `Runner`: what a run needs to know.
* `Runner.run`: the findings of a run, and what it did on the way: launches, notifications, and
  records for the log. A run can fail on a name or a line number that is too long.
* `Runner.notify`: a notification about the configuration, unless it would come too soon. -/

namespace LintMend

/-- How serious a log record is. -/
inductive LogLevel
  | warning
  | error
  deriving DecidableEq, Repr

/-- A record for the log. -/
structure LogRecord where
  /-- How serious it is. -/
  level : LogLevel
  /-- What it says. -/
  message : Text
  deriving DecidableEq, Repr

/-- An attempt to launch the checker. -/
structure LaunchRecord where
  /-- The program and its arguments. -/
  argv : List Text
  /-- The directory in which it is run. -/
  directory : Text
  /-- Whether it was stopped. -/
  killed : Bool
  deriving DecidableEq, Repr

/-- What a run does besides finding things. -/
structure Effects where
  /-- The launches, failed ones included. -/
  launches : List LaunchRecord
  /-- The notifications that are shown. -/
  notifications : List Notification
  /-- The records for the log. -/
  logs : List LogRecord
  deriving DecidableEq, Repr

namespace Effects

/-- No effects. -/
def none : Effects := ⟨[], [], []⟩

/-- Effects one after the other. -/
def append (first second : Effects) : Effects :=
  ⟨first.launches ++ second.launches, first.notifications ++ second.notifications,
    first.logs ++ second.logs⟩

instance : Append Effects := ⟨append⟩

@[simp] theorem launches_append (first second : Effects) :
    (first ++ second).launches = first.launches ++ second.launches := rfl

@[simp] theorem notifications_append (first second : Effects) :
    (first ++ second).notifications = first.notifications ++ second.notifications := rfl

@[simp] theorem logs_append (first second : Effects) :
    (first ++ second).logs = first.logs ++ second.logs := rfl

/-- One record for the log. -/
def log (level : LogLevel) (message : Text) : Effects := ⟨[], [], [⟨level, message⟩]⟩

/-- One launch. -/
def launch (record : LaunchRecord) : Effects := ⟨[record], [], []⟩

end Effects

/-- Why a run fails. -/
inductive RunFault
  /-- A path cannot be looked for. -/
  | file (fault : FileFault)
  /-- A line number is too long. -/
  | overlong (e : OverlongNumeral)
  deriving DecidableEq, Repr

/-- How the failure of a run reads. -/
def RunFault.message : RunFault → Text
  | file fault => fault.message
  | overlong e => e.message

/-- What a run leaves. -/
structure Outcome (Time α : Type) where
  /-- What it comes to. -/
  value : α
  /-- What it did on the way. -/
  effects : Effects
  /-- The throttle afterwards. -/
  throttle : Throttle Time

/-- What a run needs to know (`CpplintRunner`). -/
structure Runner where
  /-- The system. -/
  host : Host
  /-- The settings that count. -/
  setting : SettingKey → Option Text
  /-- Whether the host can open the settings. -/
  canOpenSettings : Bool

namespace Runner

/-- The interpreter that is run if none is set. -/
def defaultInterpreter : Text := "python".toList

/-- The message about a program that is not there. -/
def notFoundMessage : Text :=
  ("Failed to execute cpplint: Python or cpplint executable not found.\n\n"
    ++ "Please verify your Python and cpplint paths in Settings.").toList

/-- The message about a launch that the system refuses. -/
def refusedMessage (reason : Text) : Text := "Failed to execute cpplint: ".toList ++ reason

/-- The value of a setting, or another text if it is unset or empty. -/
def settingOr (runner : Runner) (key : SettingKey) (other : Text) : Text :=
  match (runner.setting key).getD [] with
  | [] => other
  | value => value

/-- The path of a file as the host's shell wants it. -/
def targetPath (runner : Runner) (file : Text) : Text :=
  if runner.host.isAlternate then DrivePath.toPosix file else file

/-- The command that runs the checker on a file (`CpplintRunner.build_command`). -/
def command (runner : Runner) (file : Text) : Command :=
  runner.host.command (runner.settingOr .interpreter defaultInterpreter)
    (runner.settingOr .script []) (runner.settingOr .options []) (runner.targetPath file)

variable {Time : Type} [Sub Time] [LT Time] [DecidableLT Time]

/-- Show a notification about the configuration, unless it would come too soon; whether it was shown
(`notify_configuration_error`). -/
def notify (runner : Runner) (throttle : Throttle Time) (now : Time) (message : Text) :
    Outcome Time Bool :=
  match throttle.attempt now with
  | (true, after) =>
      ⟨true, ⟨[], [.configurationError message runner.canOpenSettings], []⟩, after⟩
  | (false, after) => ⟨false, .none, after⟩

/-- A run that finds nothing and shows a notification, after a record for the log. -/
def complain (runner : Runner) (throttle : Throttle Time) (now : Time) (before : Effects)
    (message : Text) : Outcome Time (Except RunFault (List PlacedFinding)) :=
  let shown := runner.notify throttle now message
  ⟨.ok [], before ++ shown.effects, shown.throttle⟩

/-- The record of a launch that failed. -/
def launchFailure (file reason : Text) : Effects :=
  .log .error ("Failed to run lint against file ".toList ++ file ++ ": ".toList ++ reason)

/-- The findings in the lines of a report, in their places. -/
def placeLines (document : Document) (lines : List Text) :
    Except RunFault (List PlacedFinding) :=
  match Finding.ofLines lines with
  | (_, some e) => .error (.overlong e)
  | (findings, none) => .ok (findings.filterMap (PlacedFinding.place? document))

/-- The findings in the report of a child, in their places. A failure to read on stops the child,
unless a line before it ended the run already. -/
def collect (document : Document) (file directory : Text) (argv : List Text) (child : Child) :
    Except RunFault (List PlacedFinding) × Effects :=
  let (lines, failure) := child.read
  match placeLines document lines, failure with
  | .error fault, _ => (.error fault, .launch ⟨argv, directory, false⟩)
  | .ok found, none => (.ok found, .launch ⟨argv, directory, false⟩)
  | .ok found, some reason =>
      (.ok found, .launch ⟨argv, directory, true⟩
        ++ .log .error ("Failed to read cpplint output for ".toList ++ file ++ ": ".toList
          ++ reason))

/-- Launch the checker on a file in a directory and collect its findings
(`CpplintRunner._execute`). -/
def execute (runner : Runner) (throttle : Throttle Time) (now : Time) (document : Document)
    (file directory : Text) (launch : Launch) :
    Outcome Time (Except RunFault (List PlacedFinding)) :=
  let argv := (runner.command file).argv
  match launch with
  | .notFound reason =>
      runner.complain throttle now
        (.launch ⟨argv, directory, false⟩ ++ launchFailure file reason) notFoundMessage
  | .refused reason =>
      runner.complain throttle now
        (.launch ⟨argv, directory, false⟩ ++ launchFailure file reason) (refusedMessage reason)
  | .started child =>
      let (value, effects) := collect document file directory argv child
      ⟨value, effects, throttle⟩

/-- A run that finds nothing, after a record for the log. -/
def giveUp (throttle : Throttle Time) (message : Text) :
    Outcome Time (Except RunFault (List PlacedFinding)) :=
  ⟨.ok [], .log .error message, throttle⟩

/-- A run in a directory that must be there. -/
def runIn (runner : Runner) (fs : Files) (throttle : Throttle Time) (now : Time)
    (document : Document) (file : Text) (root : Path) (launch : Launch) :
    Outcome Time (Except RunFault (List PlacedFinding)) :=
  match fs.isDirectory root.text with
  | .error fault => ⟨.error (.file fault), .none, throttle⟩
  | .ok false =>
      giveUp throttle ("Project root ".toList ++ root.text ++ " for ".toList ++ file
        ++ " is not a directory".toList)
  | .ok true => runner.execute throttle now document file root.text launch

/-- A run: the settings are checked first, then the root of the project, in which the checker is run
(`CpplintRunner.run`). -/
def run (runner : Runner) (fs : Files) (throttle : Throttle Time) (now : Time)
    (document : Document) (file : Text) (root : Option Text) (launch : Launch) :
    Outcome Time (Except RunFault (List PlacedFinding)) :=
  match Settings.problem? fs runner.setting with
  | .error fault => ⟨.error (.file fault), .none, throttle⟩
  | .ok (some problem) =>
      runner.complain throttle now
        (.log .warning ("Cpplint configuration invalid: ".toList ++ problem.message))
        problem.message
  | .ok none =>
      if Text.isAllBlank (root.getD []) then
        giveUp throttle ("No valid base directory found for ".toList ++ file)
      else runner.runIn fs throttle now document file (Path.ofText (root.getD [])) launch

end Runner

end LintMend

import LintMend.CommandLine.Basic

/-! # The program

The program `cpplint-bridge`. What the command line needs of the system is looked at first, and what
it leaves is carried out afterwards. The checker is run by someone else: its report is what the
standard input holds.
* `Program.snapshot`: the files that a run can concern.
* `Program.carryOut`: what a run wrote to files.
* `main`: a run.

Sections (§) are those of the specification of the program, and names given with them are those that
its parts have there. -/

namespace LintMend.Program

/-- The variables of the environment that count. -/
def variableNames : List Text :=
  ["HOME", "PATH", "OSTYPE", "MSYSTEM"].map String.toList
    ++ Terminal.variableNames ++ Completion.variableNames
    ++ Settings.pathVariable :: SettingKey.all.map SettingKey.overrideName

/-- The texts in an argument that can be paths: all of it, what follows its first equals sign, and
what follows its first two characters. -/
def pathsIn (argument : Text) : List Text :=
  [argument, (argument.dropWhile (· != '=')).drop 1, argument.drop 2]

/-- The paths at which a shell is looked for. -/
def shellPaths (env : Environment) : List Text :=
  (Text.pieces (· == ':') ((env.get? "PATH".toList).getD [])).map Shell.pathIn

/-- The paths of the programs that settings name, if they are kept in the file at a path. -/
def settingPaths (fs : Files) (env : Environment) (path : Path) : List Text :=
  match SettingsStore.ofFile fs path env with
  | .error _ => []
  | .ok store => SettingKey.all.filterMap store.get

/-- The places that a path leads through. -/
def placesOf (here : Place) (path : Path) : List Place :=
  (List.range (path.names.length + 1)).map fun n =>
    Path.resolve here ⟨path.anchor, path.names.take n⟩

/-- What a run wrote: the entries that were not there before, those above others first. -/
def written (before after : Files) : List (Place × Entry) :=
  (after.entries.filter fun e => before.standsAt? e.1 ≠ some e.2).mergeSort fun a b =>
    a.1.length ≤ b.1.length

/-! ## Input and output -/

/-- The variables that are set. -/
def environment : IO Environment := do
  let found ← variableNames.filterMapM fun name => do
    return (← IO.getEnv (String.ofList name)).map fun value => (name, value.toList)
  return ⟨found, []⟩

/-- What stands at a place. The content of a file is read only if it is wanted. -/
def entryAt (wanted : Bool) (place : Place) : IO (Option Entry) := do
  let path := String.ofList place.text
  try
    if wanted then
      return some (.file (← IO.FS.readBinFile path).toList true)
    else
      let handle ← IO.FS.Handle.mk path .read
      let _ ← handle.read 1
      return some (.file [] true)
  catch _ =>
    try
      let _ ← IO.FS.realPath path
      return some .directory
    catch _ => return none

/-- The file tree with what stands at a place, unless that is known. -/
def look (wanted : Bool) (fs : Files) (place : Place) : IO Files := do
  if (fs.standsAt? place).isSome then return fs
  match ← entryAt wanted place with
  | some entry => return fs.put place entry
  | none => return fs

/-- The file tree with what stands at paths and on the way to them. -/
def lookAlong (wanted : Bool) (fs : Files) (paths : List Path) : IO Files :=
  (paths.flatMap (placesOf fs.here)).foldlM (look wanted) fs

/-- The files that a run with these arguments can concern: those that arguments name, the usual
settings file, the programs that settings name, and shells. -/
def snapshot (arguments : List Text) (env : Environment) : IO Files := do
  let here := (Path.ofText (← IO.currentDir).toString.toList).names
  let usual := (Settings.defaultPath env).toOption.toList
  let named := (arguments.flatMap pathsIn).map Path.ofText ++ usual
  let start ← lookAlong true ⟨.empty, here⟩ (Path.ofPlace here :: named)
  let programs := named.flatMap (settingPaths start env) ++ shellPaths env
  lookAlong false start (programs.map Path.ofText)

/-- Read all that is left of a stream. -/
partial def readAll (input : IO.FS.Stream) (before : ByteArray) : IO ByteArray := do
  let chunk ← input.read 65536
  if chunk.isEmpty then return before else readAll input (before ++ chunk)

/-- What comes of launching the checker: its report is the standard input, unless that is a
terminal. -/
def launch : IO Launch := do
  let input ← IO.getStdin
  let report ← if ← input.isTty then pure ByteArray.empty else readAll input ByteArray.empty
  return .started ⟨some report.toList, none⟩

/-- Write what a run wrote. -/
def carryOut (before after : Files) : IO Unit :=
  (written before after).forM fun (place, entry) =>
    match entry with
    | .directory => IO.FS.createDirAll (String.ofList place.text)
    | .file content _ => IO.FS.writeBinFile (String.ofList place.text) ⟨content.toArray⟩

/-- How a record for the log reads. -/
def logLine (record : LogRecord) : Text :=
  let level := match record.level with
    | .warning => "WARNING"
    | .error => "ERROR"
  level.toList ++ ": ".toList ++ record.message

/-- Run the command line, and carry out what it leaves. -/
def run (arguments : List Text) : IO UInt32 := do
  let env ← environment
  let fs ← snapshot arguments env
  let asked := (env.nonempty? Completion.questionVariable).isSome
  let report ←
    if !asked && arguments.contains "lint".toList then launch else pure (.started ⟨none, none⟩)
  let console := Console.plain (← (← IO.getStdout).isTty)
  let done := CommandLine.run ⟨arguments, env, "linux".toList, fs, report⟩ console
  carryOut fs done.files
  IO.print (String.ofList done.output)
  if done.exit = 2 then IO.eprint (String.ofList CommandLine.helpText)
  done.effects.logs.forM fun record => IO.eprintln (String.ofList (logLine record))
  match done.fault with
  | some fault => IO.eprintln (String.ofList fault.message)
  | none => pure ()
  return done.exit.toUInt32

end LintMend.Program

/-- Run the command line with the arguments of the program. -/
def main (arguments : List String) : IO UInt32 :=
  LintMend.Program.run (arguments.map String.toList)

import LintMend.Environment
import LintMend.Files.Tree
import LintMend.Launch.DrivePath
import LintMend.Launch.Quote
import LintMend.Text.Blank

/-! # Launch commands

The command that runs the checker on a file (§3.9). On most systems it is a line for a shell; on
some the words are handed over as they are.
* `Host`: what is known of the system.
* `Host.command`: the command for an interpreter, a script, options and a file.
* `Shell.find`: the shell that is used. -/

namespace LintMend

open Text

/-- A command as it is handed to the system (`CommandSpec`). -/
structure Command where
  /-- The program and its arguments. -/
  argv : List Text
  /-- Whether the program is a shell that runs the command. -/
  wrapped : Bool
  deriving DecidableEq, Repr

/-- What is known of the system on which the checker is run (`HostShellAdapter`). -/
structure Host where
  /-- The name of the platform. -/
  platform : Text
  /-- The environment. -/
  environment : Environment
  /-- The shell. -/
  shell : Text
  deriving DecidableEq, Repr

namespace Shell

/-- The shell that is used if none is found. -/
def default : Text := "/bin/bash".toList

/-- The name of the shell that is looked for. -/
def program : Text := "bash".toList

/-- The path of the shell in a directory. -/
def pathIn (directory : Text) : Text :=
  if directory = [] then program
  else if directory.getLast? = some '/' then directory ++ program
  else directory ++ '/' :: program

/-- Whether a file that may be executed stands at a path. -/
def isExecutable (fs : Files) (path : Text) : Bool :=
  match fs.entry path with
  | .ok (some (.file _ executable)) => executable
  | _ => false

/-- The first shell in the directories of a search path, which are separated by colons
(`shell_executable`). -/
def find (fs : Files) (searchPath : Text) : Text :=
  if searchPath = [] then default
  else
    (((pieces (· == ':') searchPath).map pathIn).find? (isExecutable fs)).getD default

end Shell

namespace Host

/-- The capital form of a letter, as far as plain capitals go: the dotless i and the w with a ring
have capital forms that begin with plain letters. -/
def plainCapital (c : Char) : Char :=
  if c = 'ı' then 'I' else if c = 'ẘ' then 'W' else c.toUpper

/-- Whether paths have to be written in the POSIX form of drive paths
(`is_alt_shell_environment`). -/
def isAlternate (h : Host) : Bool :=
  h.platform == "cygwin".toList
    || ((h.environment.get? "OSTYPE".toList).getD []).map Char.toLower == "cygwin".toList

/-- Whether commands are handed over without a shell (`is_native_launch`). -/
def isNative (h : Host) : Bool :=
  !h.isAlternate
    && ("MINGW".toList.isPrefixOf
          (((h.environment.get? "MSYSTEM".toList).getD []).map plainCapital)
      || h.platform == "win32".toList)

/-- The line for a shell that runs the script on a file. Options are put in as they are written. -/
def shellLine (interpreter script options file : Text) : Text :=
  let trimmed := trim options
  join [' '] ([Shell.quote interpreter, Shell.quote script]
    ++ (if trimmed = [] then [] else [trimmed]) ++ [Shell.quote file])

/-- The words that run the script on a file. -/
def commandWords (interpreter script options file : Text) : List Text :=
  [interpreter, script] ++ words options ++ [file]

/-- The command that runs the script on a file (`HostShellAdapter.build_command`). -/
def command (h : Host) (interpreter script options file : Text) : Command :=
  if h.isNative then ⟨commandWords interpreter script options file, false⟩
  else ⟨[h.shell, "-c".toList, shellLine interpreter script options file], true⟩

end Host

end LintMend

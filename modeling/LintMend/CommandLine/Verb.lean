import LintMend.CommandLine.Arguments

/-! # Verbs

What the program can be told to do (§4.4), and what is said about it. The options for completion,
and the one for help, come from the library `typer`.
* `Switch`: the options of all commands.
* `Verb`: the program itself, and the commands in it.
* `Verb.parts`, `Verb.named?`: the commands that a verb has below it, and the one that is named.
* `Verb.grammar`, `Verb.operands`: the options that a verb takes, and how many operands it needs.
* `Verb.summary`, `Verb.explanation`: what it does, and what an option does to it. -/

namespace LintMend.CommandLine

/-- The options of all commands. -/
inductive Switch
  | verbose
  | installCompletion
  | showCompletion
  | root
  | settings
  | fix
  | emoji
  | noEmoji
  | help
  deriving DecidableEq, Repr

namespace Switch

/-- Whether an option takes a value. -/
def takesValue : Switch → Bool
  | root | settings => true
  | _ => false

/-- The option that an option gives: one that declines marks gives the same as one that asks for
them. -/
def given : Switch → Switch
  | noEmoji => emoji
  | switch => switch

end Switch

/-- The program itself, and the commands in it. -/
inductive Verb
  /-- The program, which is told by a command what to do. -/
  | main
  /-- Run the checker on a file. -/
  | lint
  /-- See to the settings, by a command below this one. -/
  | config
  /-- Print the settings. -/
  | showSettings
  /-- Change a setting. -/
  | changeSetting
  deriving DecidableEq, Repr

namespace Verb

/-- The commands below a verb, by name. -/
def parts : Verb → List (Text × Verb)
  | main => [("lint".toList, lint), ("config".toList, config)]
  | config => [("show".toList, showSettings), ("set".toList, changeSetting)]
  | _ => []

/-- The command of that name. -/
def part? (verb : Verb) (name : Text) : Option Verb := verb.parts.lookup name

/-- The command below a verb that operands name, and its arguments. -/
def named? (verb : Verb) (parsed : Parsed Switch) : Option (Verb × List Text) :=
  match parsed.operands with
  | [] => none
  | name :: arguments => (verb.part? name).map fun part => (part, arguments)

/-- How many operands a verb needs. -/
def operands : Verb → Nat
  | lint => 1
  | changeSetting => 2
  | _ => 0

/-- The option that names the settings file. -/
def settingsName : Text × Switch := ("--settings".toList, .settings)

/-- The option that asks for help. -/
def helpName : Text × Switch := ("--help".toList, .help)

/-- The names of the options that a verb takes. -/
def optionNames : Verb → List (Text × Switch)
  | main =>
      [("--verbose".toList, .verbose), ("-v".toList, .verbose),
        ("--install-completion".toList, .installCompletion),
        ("--show-completion".toList, .showCompletion), helpName]
  | lint =>
      [("--root".toList, .root), ("-r".toList, .root), settingsName, ("--fix".toList, .fix),
        ("--emoji".toList, .emoji), ("--no-emoji".toList, .noEmoji), helpName]
  | config => [helpName]
  | showSettings | changeSetting => [settingsName, helpName]

/-- The options of a verb. They come before the command below it, if it has any. -/
def grammar (verb : Verb) : Grammar Switch :=
  ⟨verb.optionNames, Switch.takesValue, verb.parts.isEmpty⟩

/-- What a verb does. -/
def summary : Verb → Text
  | main => "Run cpplint and offer quick fixes.".toList
  | lint => "Lint FILE with cpplint and report findings.".toList
  | config => "Inspect or change stored cpplint settings.".toList
  | showSettings => "Print the effective cpplint settings.".toList
  | changeSetting => "Store a cpplint setting.".toList

/-- What an option does to a verb. -/
def explanation (verb : Verb) : Switch → Text
  | .verbose => "Enable debug logging.".toList
  | .installCompletion => "Install completion for the current shell.".toList
  | .showCompletion =>
      ("Show completion for the current shell, to copy it or customize the "
        ++ "installation.").toList
  | .root => "Project root used as working directory.".toList
  | .settings =>
      if verb = changeSetting then "Settings file to update.".toList
      else "Settings file to read.".toList
  | .fix => "Apply rule-specific quick fixes and save the file.".toList
  | .emoji | .noEmoji => "Decorate messages with emoji.".toList
  | .help => "Show this message and exit.".toList

end Verb

end LintMend.CommandLine

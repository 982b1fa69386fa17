import LintMend.CommandLine.Verb
import LintMend.Display.Console
import LintMend.Display.Wrap
import LintMend.Launch.Quote

/-! # Completion

A shell that completes a command line asks the program what could stand there. It asks through the
environment, and the arguments of the program do not count then. The libraries `typer` and `click`
answer for the program, as they have been seen to; none of this is its own code.
* `Completion.Dialect`: the shells that can ask, each with variables and a form of answer of its
  own.
* `Completion.Query`: the words before the one that is being written, and what there is of that.
* `Completion.Scope`: the command that these words have come to, and what they have given it.
* `Completion.offers`: what could be written. Names of options are offered once one has been begun;
  files and values are left to the shell.
* `Completion.answer`: exit status and output. -/

namespace LintMend.Completion

open CommandLine

/-- The shells that can ask. -/
inductive Dialect
  | bash
  | zsh
  | fish
  | powershell
  deriving DecidableEq, Repr

/-- The shell of that name. -/
def Dialect.ofName? (name : Text) : Option Dialect :=
  [("bash".toList, bash), ("zsh".toList, zsh), ("fish".toList, fish),
    ("powershell".toList, powershell), ("pwsh".toList, powershell)].lookup name

/-- Why a question cannot be answered. -/
inductive Fault
  /-- A variable is not set. -/
  | unset (name : Text)
  /-- The number of a word is not read. -/
  | index (fault : NumeralFault)
  /-- The answer is to be set in lines of no known width. -/
  | size (fault : SizeFault)
  deriving DecidableEq, Repr

/-- How it reads that a question cannot be answered. -/
def Fault.message : Fault → Text
  | unset name => Text.quoted name
  | index fault => fault.message
  | size fault => fault.message

/-! ## The question -/

/-- The words of a line that is being written. -/
structure Query where
  /-- The words after the name of the program, without the one that is being written. -/
  before : List Text
  /-- What there is of the word that is being written. -/
  begun : Text
  deriving DecidableEq, Repr

/-- The variable that holds a question. -/
def questionVariable : Text := "_CPPLINT_BRIDGE_COMPLETE".toList

/-- The variable for the line, where words are counted. -/
def countedLineVariable : Text := "COMP_WORDS".toList

/-- The variable for the number of the word that is being written. -/
def indexVariable : Text := "COMP_CWORD".toList

/-- The variable for the line, where words are not counted. -/
def lineVariable : Text := "_TYPER_COMPLETE_ARGS".toList

/-- The variable for the word that is being written. -/
def wordVariable : Text := "_TYPER_COMPLETE_WORD_TO_COMPLETE".toList

/-- The variable that says what is to be done with the offers. -/
def actionVariable : Text := "_TYPER_COMPLETE_FISH_ACTION".toList

/-- The variables that hold questions. -/
def variableNames : List Text :=
  [questionVariable, countedLineVariable, indexVariable, lineVariable, wordVariable,
    actionVariable]

/-- The value of a variable, empty if it is not set. -/
def valueOf (env : Environment) (name : Text) : Text := (env.get? name).getD []

/-- The word with that number is being written, and those before it count. A number below zero
counts from the end. -/
def Query.ofIndex (words : List Text) (index : Int) : Query :=
  let position := if index < 0 then index + words.length else index
  ⟨(words.take position.toNat).drop 1,
    if position < 0 then [] else (words[position.toNat]?).getD []⟩

/-- The last word of a line is being written, unless there is a blank after it. -/
def Query.ofLine (line : Text) : Query :=
  let words := (Shell.words line).drop 1
  if line.getLast? = some ' ' then ⟨words, []⟩ else ⟨words.dropLast, words.getLast?.getD []⟩

/-- A word is being written at the end of a line. -/
def Query.ofWord (line word : Text) : Query :=
  let words := (Shell.words line).drop 1
  ⟨if word = [] then words else words.dropLast, word⟩

/-- The question that the environment holds. -/
def query (env : Environment) : Dialect → Except Fault Query
  | .bash =>
      match env.get? countedLineVariable, env.get? indexVariable with
      | none, _ => .error (.unset countedLineVariable)
      | some _, none => .error (.unset indexVariable)
      | some line, some written =>
          match Integer.read written with
          | .error fault => .error (.index fault)
          | .ok index => .ok (Query.ofIndex (Shell.words line) index)
  | .zsh | .fish => .ok (Query.ofLine (valueOf env lineVariable))
  | .powershell => .ok (Query.ofWord (valueOf env lineVariable) (valueOf env wordVariable))

/-! ## The offers -/

/-- Where some words have come to. -/
structure Scope where
  /-- The command that they have come to. -/
  verb : Verb
  /-- What they have given it. -/
  parsed : Parsed Switch

/-- Words that have come to a command, and then what follows. -/
def Scope.of (verb : Verb) (words : List Text) : Scope := ⟨verb, verb.grammar.parse words⟩

/-- The command below, if one is named. -/
def Scope.enter (scope : Scope) : Scope :=
  match scope.verb.named? scope.parsed with
  | some (verb, words) => Scope.of verb words
  | none => scope

/-- Where words have come to: commands have commands below them twice. -/
def Scope.ofWords (words : List Text) : Scope := (Scope.of .main words).enter.enter

/-- Whether an option has been given. -/
def Scope.has (scope : Scope) (switch : Switch) : Bool :=
  scope.parsed.options.any fun option => option.1.given = switch.given

/-- Whether the next word is an operand of the command. -/
def Scope.wantsOperand (scope : Scope) : Bool :=
  scope.parsed.operands.length < scope.verb.operands

/-- Whether a word is an option of the command that takes the next one as its value. -/
def Scope.wantsValue (scope : Scope) (word : Text) : Bool :=
  ((scope.verb.grammar.names.lookup word).map Switch.takesValue).getD false

/-- Something that could be written. -/
structure Offer where
  /-- The word. -/
  word : Text
  /-- What it does. -/
  explanation : Text
  deriving DecidableEq, Repr

/-- The commands that a word could become. -/
def Scope.commandOffers (scope : Scope) (begun : Text) : List Offer :=
  (scope.verb.parts.filter fun part => begun.isPrefixOf part.1).map fun part =>
    ⟨part.1, part.2.summary⟩

/-- The options that a word could become: none that has been given. -/
def Scope.optionOffers (scope : Scope) (begun : Text) : List Offer :=
  if begun = [] then []
  else
    (scope.verb.optionNames.filter fun name =>
      begun.isPrefixOf name.1 && !scope.has name.2).map fun name =>
        ⟨name.1, scope.verb.explanation name.2⟩

/-- What a word could become. -/
def Scope.offers (scope : Scope) (begun : Text) : List Offer :=
  scope.commandOffers begun ++ scope.optionOffers begun

/-- A query in which an option and the value that it is given with an equals sign are two words. -/
def Query.separated (q : Query) : Query :=
  if q.begun = ['='] then ⟨q.before, []⟩
  else if q.begun.head? = some '-' ∧ q.begun.contains '=' then
    ⟨q.before ++ [q.begun.takeWhile (· != '=')], (q.begun.dropWhile (· != '=')).drop 1⟩
  else q

/-- What is offered to a query. -/
def offers (q : Query) : List Offer :=
  let scope := Scope.ofWords q.before
  let asked := q.separated
  if asked.begun.head? = some '-' ∧ !asked.before.contains ['-', '-'] then
    scope.offers asked.begun
  else if (asked.before.getLast?.map scope.wantsValue).getD false then []
  else if scope.wantsOperand then []
  else scope.offers asked.begun

/-! ## The answer -/

/-- An explanation as it is shown in an output of that width. -/
def shown (width : Nat) (explanation : Text) : Text :=
  if width = 0 then [] else Text.join ['\n'] (Wrap.lines width explanation)

/-- The line for an offer. -/
def Dialect.line (width : Nat) (offer : Offer) : Dialect → Text
  | bash => offer.word
  | zsh => '"' :: offer.word ++ "\":\"".toList ++ shown width offer.explanation ++ ['"']
  | fish => offer.word ++ '\t' :: shown width offer.explanation
  | powershell => offer.word ++ ":::".toList ++ shown width offer.explanation

/-- The lines for offers. Where offers are explained, the width of the output must be known. -/
def Dialect.lines (con : Console) (env : Environment) (dialect : Dialect) (found : List Offer) :
    Except Fault (List Text) :=
  if dialect = bash ∨ found = [] then .ok (found.map fun offer => dialect.line 0 offer)
  else
    match con.width env with
    | .error fault => .error (.size fault)
    | .ok width => .ok (found.map fun offer => dialect.line width offer)

/-- A text on lines of its own. -/
def printed (t : Text) : Nat × Text := (0, t ++ ['\n'])

/-- The exit status and the output for lines. -/
def Dialect.reply (env : Environment) (dialect : Dialect) (found : List Text) : Nat × Text :=
  let listed := Text.join ['\n'] found
  match dialect with
  | bash | powershell => printed listed
  | zsh =>
      printed (if found = [] then "_files".toList
        else "_arguments '*: :((".toList ++ listed ++ "))'".toList)
  | fish =>
      let action := valueOf env actionVariable
      if action = "is-args".toList then (if found = [] then 1 else 0, [])
      else printed (if action = "get-args".toList then listed else [])

/-- The answer to the question that the environment holds. -/
def reply (con : Console) (env : Environment) (dialect : Dialect) : Except Fault (Nat × Text) :=
  match query env dialect with
  | .error fault => .error fault
  | .ok q => (dialect.lines con env (offers q)).map (dialect.reply env)

/-- What a shell has to run so that it asks. -/
def Dialect.script : Dialect → Text
  | bash =>
      ("\n_cpplint_bridge_completion() \x7b\n    local IFS=$'\n'\n"
        ++ "    COMPREPLY=( $( env COMP_WORDS=\"$\x7bCOMP_WORDS[*]\x7d\" \\\n"
        ++ "                   COMP_CWORD=$COMP_CWORD \\\n"
        ++ "                   _CPPLINT_BRIDGE_COMPLETE=complete_bash $1 ) )\n"
        ++ "    return 0\n\x7d\n\n"
        ++ "complete -o default -F _cpplint_bridge_completion cpplint-bridge\n").toList
  | zsh =>
      ("\n#compdef cpplint-bridge\n\n_cpplint_bridge_completion() \x7b\n"
        ++ "  eval $(env _TYPER_COMPLETE_ARGS=\"$\x7bwords[1,$CURRENT]\x7d\" "
        ++ "_CPPLINT_BRIDGE_COMPLETE=complete_zsh cpplint-bridge)\n\x7d\n\n"
        ++ "compdef _cpplint_bridge_completion cpplint-bridge\n").toList
  | fish =>
      ("complete --command cpplint-bridge --no-files --arguments "
        ++ "\"(env _CPPLINT_BRIDGE_COMPLETE=complete_fish _TYPER_COMPLETE_FISH_ACTION=get-args "
        ++ "_TYPER_COMPLETE_ARGS=(commandline -cp) cpplint-bridge)\" --condition "
        ++ "\"env _CPPLINT_BRIDGE_COMPLETE=complete_fish _TYPER_COMPLETE_FISH_ACTION=is-args "
        ++ "_TYPER_COMPLETE_ARGS=(commandline -cp) cpplint-bridge\"").toList
  | powershell =>
      ("\nImport-Module PSReadLine\nSet-PSReadLineKeyHandler -Chord Tab -Function MenuComplete\n"
        ++ "$scriptblock = \x7b\n"
        ++ "    param($wordToComplete, $commandAst, $cursorPosition)\n"
        ++ "    $Env:_CPPLINT_BRIDGE_COMPLETE = \"complete_powershell\"\n"
        ++ "    $Env:_TYPER_COMPLETE_ARGS = $commandAst.ToString()\n"
        ++ "    $Env:_TYPER_COMPLETE_WORD_TO_COMPLETE = $wordToComplete\n"
        ++ "    cpplint-bridge | ForEach-Object \x7b\n"
        ++ "        $commandArray = $_ -Split \":::\"\n"
        ++ "        $command = $commandArray[0]\n"
        ++ "        $helpString = $commandArray[1]\n"
        ++ "        [System.Management.Automation.CompletionResult]::new(\n"
        ++ "            $command, $command, 'ParameterValue', $helpString)\n    \x7d\n"
        ++ "    $Env:_CPPLINT_BRIDGE_COMPLETE = \"\"\n"
        ++ "    $Env:_TYPER_COMPLETE_ARGS = \"\"\n"
        ++ "    $Env:_TYPER_COMPLETE_WORD_TO_COMPLETE = \"\"\n\x7d\n"
        ++ "Register-ArgumentCompleter -Native -CommandName cpplint-bridge "
        ++ "-ScriptBlock $scriptblock\n").toList

/-- What comes of an instruction: what is to be done and the name of a shell, with a low line
between. Any other instruction fails without an output. -/
def answer (con : Console) (env : Environment) (instruction : Text) :
    Except Fault (Nat × Text) :=
  let what := instruction.takeWhile (· != '_')
  match Dialect.ofName? ((instruction.drop what.length).drop 1) with
  | none => .ok (1, [])
  | some dialect =>
      if what = "source".toList then .ok (printed dialect.script)
      else if what = "complete".toList then reply con env dialect
      else .ok (1, [])

end LintMend.Completion

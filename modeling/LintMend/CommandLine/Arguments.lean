import LintMend.Text.Basic

/-! # Command line arguments

How the libraries `typer` and `click`, to which the program leaves its command line (§4.4), have
been seen to take arguments apart; no code of the program does. Arguments are options and operands
in any order. A long option is a name after two hyphens, a short one a letter after one; an option
may take a value.
* `Grammar`: the options of a command.
* `Grammar.parse`: the options and operands among some arguments. An option that is not known, lacks
  its value, or has a value that it does not take, spoils them.
* `Grammar.parse?`: the same for arguments that are not spoiled.

The argument `--` ends the options. Where options must come first, the first operand does so too. -/

namespace LintMend

/-- The options of a command. -/
structure Grammar (Tag : Type) where
  /-- The names of the options. -/
  names : List (Text × Tag)
  /-- Whether an option takes a value. -/
  takesValue : Tag → Bool
  /-- Whether options may come after operands. -/
  interspersed : Bool

/-- Arguments taken apart. -/
structure Parsed (Tag : Type) where
  /-- The options in order, each with its value. -/
  options : List (Tag × Text)
  /-- The operands in order. -/
  operands : List Text
  /-- Whether no argument spoiled the others. -/
  sound : Bool
  deriving Repr

namespace Parsed

variable {Tag : Type} [BEq Tag]

/-- Whether an option is among the arguments. -/
def has (p : Parsed Tag) (tag : Tag) : Bool := p.options.any fun option => option.1 == tag

/-- The last value of an option. -/
def value? (p : Parsed Tag) (tag : Tag) : Option Text := p.options.reverse.lookup tag

end Parsed

namespace Grammar

variable {Tag : Type}

/-- What one argument gives: its options, and whether the next argument is a value of the last. -/
structure Taken (Tag : Type) where
  /-- The options. -/
  options : List (Tag × Text)
  /-- Whether the next argument is taken as well. -/
  takesNext : Bool
  /-- Whether all of the argument could be taken. -/
  sound : Bool

namespace Taken

/-- Nothing could be taken. -/
def nothing : Taken Tag := ⟨[], false, false⟩

/-- What one part of an argument gives, and then another part if the first one is sound. -/
def followedBy (first others : Taken Tag) : Taken Tag :=
  if first.sound then
    ⟨first.options ++ others.options, first.takesNext || others.takesNext, others.sound⟩
  else first

end Taken

/-- An option without a value of its own: if it takes one, that is the next argument. -/
def plain (g : Grammar Tag) (tag : Tag) (next : Option Text) : Taken Tag :=
  if g.takesValue tag then
    match next with
    | some value => ⟨[(tag, value)], true, true⟩
    | none => .nothing
  else ⟨[(tag, [])], false, true⟩

/-- A long option, which may have its value after an equals sign. -/
def long? (g : Grammar Tag) (argument : Text) (next : Option Text) : Option (Taken Tag) :=
  let name := argument.takeWhile (· != '=')
  match g.names.lookup name with
  | none => none
  | some tag =>
      if ['-', '-'].isPrefixOf name then
        match argument.drop name.length with
        | [] => some (g.plain tag next)
        | _ :: value =>
            some (if g.takesValue tag then ⟨[(tag, value)], false, true⟩ else .nothing)
      else none

/-- Short options, by their letters. One that takes a value has the letters after it as its value,
or else the next argument. -/
def letters (g : Grammar Tag) (next : Option Text) : Text → Taken Tag
  | [] => ⟨[], false, true⟩
  | letter :: rest =>
      match g.names.lookup ['-', letter] with
      | none => .nothing
      | some tag =>
          if g.takesValue tag ∧ rest ≠ [] then ⟨[(tag, rest)], false, true⟩
          else (g.plain tag next).followedBy (g.letters next rest)

/-- The options in an argument that begins with a hyphen. -/
def option (g : Grammar Tag) (argument : Text) (next : Option Text) : Taken Tag :=
  match g.long? argument next with
  | some found => found
  | none => if ['-', '-'].isPrefixOf argument then .nothing else g.letters next argument.tail

/-- Whether an argument is written like an option. -/
def looksLikeOption (argument : Text) : Bool := argument.head? == some '-' && argument.length > 1

/-- Take arguments apart, the first of which may have been taken as a value already. -/
def parseFrom (g : Grammar Tag) : Bool → List Text → Parsed Tag
  | _, [] => ⟨[], [], true⟩
  | true, _ :: rest => g.parseFrom false rest
  | false, argument :: rest =>
      if argument = ['-', '-'] then ⟨[], rest, true⟩
      else if looksLikeOption argument then
        -- an option may take the next argument as its value, which is then passed over
        let taken := g.option argument rest.head?
        if taken.sound then
          let parsed := g.parseFrom taken.takesNext rest
          { parsed with options := taken.options ++ parsed.options }
        else ⟨taken.options, [], false⟩
      else if g.interspersed then
        let parsed := g.parseFrom false rest
        { parsed with operands := argument :: parsed.operands }
      else ⟨[], argument :: rest, true⟩

/-- Take arguments apart. If one spoils them, the options before it are left. -/
def parse (g : Grammar Tag) (arguments : List Text) : Parsed Tag :=
  let parsed := g.parseFrom false arguments
  if parsed.sound then parsed else { parsed with operands := [] }

/-- Take arguments apart that are not spoiled. -/
def parse? (g : Grammar Tag) (arguments : List Text) : Option (Parsed Tag) :=
  let parsed := g.parse arguments
  if parsed.sound then some parsed else none

end Grammar

end LintMend

import LintMend.Text.Blank

/-! # Wrapping

How the library `rich` has been seen to set a text in lines of some width, when each of its
characters takes up one column; no code of the program does.
* `Wrap.words`: the words of a text, each with the blanks after it.
* `Wrap.folded`: a word in stretches that are as wide as a line.
* `Wrap.fill`: as many words on a line as it has room for; a word that is wider than a line begins
  on a line of its own and is folded.
* `Wrap.lines`: the lines, without the blanks for which there is no room. -/

namespace LintMend.Wrap

open Text

/-- A character put in front of the first of some stretches. -/
def onFirst (c : Char) : List Text → List Text
  | [] => [[c]]
  | piece :: others => (c :: piece) :: others

/-- The words of a text, each with the blanks after it. Blanks at the beginning stand for
themselves. -/
def words : Text → List Text
  | [] => []
  | c :: rest =>
      if isBlank c && !rest.head?.all isBlank then [c] :: words rest else onFirst c (words rest)

/-- A text in stretches of `width` characters, the first of which has `room` for as many. -/
def folded (width : Nat) : Nat → Text → List Text
  | _, [] => [[]]
  | 0, c :: rest => [] :: onFirst c (folded width (width - 1) rest)
  | room + 1, c :: rest => onFirst c (folded width room rest)

/-- Words in lines, when `line` is what has been set of the first. -/
def fill (width : Nat) (line : Text) : List Text → List Text
  | [] => [line]
  | word :: others =>
      let needed := (trimEndOf isBlank word).length
      if line.length + needed ≤ width then fill width (line ++ word) others
      else if needed ≤ width then line :: fill width word others
      else
        let pieces := folded width width word
        (if line = [] then [] else [line])
          ++ (pieces.dropLast ++ fill width (pieces.getLast?.getD []) others)

/-- The lines of a text. -/
def lines (width : Nat) (t : Text) : List Text := (fill width [] (words t)).map (·.take width)

end LintMend.Wrap

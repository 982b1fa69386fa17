/-! # Texts

A text is the list of its characters, so that positions and lengths count characters.
* `Text.pieces`: the stretches between separators, of which there is always at least one.
* `Text.join`: texts in order with the same text between neighbours; `join_pieces` says that
  joining undoes cutting.
* `Text.after?`: what follows a given beginning.
* `Text.trimEndOf`: a text without its last characters of a kind. -/

namespace LintMend

/-- A text: its characters in order. -/
abbrev Text := List Char

namespace Text

/-- The stretches of a text between the characters that separate. A text with `n` separators has
`n + 1` pieces, some of which may be empty. -/
def pieces (separates : Char → Bool) : Text → List Text
  | [] => [[]]
  | c :: rest =>
      if separates c then [] :: pieces separates rest
      else
        match pieces separates rest with
        | [] => [[c]]
        | piece :: others => (c :: piece) :: others

@[simp] theorem pieces_nil (separates : Char → Bool) : pieces separates [] = [[]] := rfl

/-- Every text has a piece. -/
theorem pieces_ne_nil (separates : Char → Bool) (t : Text) : pieces separates t ≠ [] := by
  cases t with
  | nil => simp
  | cons c rest =>
      simp only [pieces]
      split
      · simp
      · split <;> simp

/-- A separator in front opens an empty piece. -/
theorem pieces_cons_of_separates {separates : Char → Bool} {c : Char} (h : separates c = true)
    (rest : Text) : pieces separates (c :: rest) = [] :: pieces separates rest := by
  simp [pieces, h]

/-- Any other character in front belongs to the first piece. -/
theorem pieces_cons_of_not_separates {separates : Char → Bool} {c : Char}
    (h : separates c = false) (rest : Text) :
    pieces separates (c :: rest)
      = (c :: (pieces separates rest).headD []) :: (pieces separates rest).tail := by
  rw [pieces, if_neg (by simp [h])]
  cases hp : pieces separates rest with
  | nil => exact absurd hp (pieces_ne_nil separates rest)
  | cons piece others => rfl

/-- Texts in order, with `between` between neighbours. -/
def join (between : Text) : List Text → Text
  | [] => []
  | [piece] => piece
  | piece :: next :: others => piece ++ between ++ join between (next :: others)

@[simp] theorem join_nil (between : Text) : join between [] = [] := rfl

@[simp] theorem join_singleton (between piece : Text) : join between [piece] = piece := rfl

theorem join_cons_of_ne_nil (between piece : Text) {others : List Text} (h : others ≠ []) :
    join between (piece :: others) = piece ++ between ++ join between others := by
  cases others with
  | nil => exact absurd rfl h
  | cons next others => rfl

/-- Joining the pieces with their separator gives the text back. -/
theorem join_pieces (separator : Char) (t : Text) :
    join [separator] (pieces (· == separator) t) = t := by
  induction t with
  | nil => rfl
  | cons c rest ih =>
      by_cases h : c = separator
      · rw [pieces_cons_of_separates (by simp [h]),
          join_cons_of_ne_nil _ _ (pieces_ne_nil _ rest), ih, h]
        rfl
      · rw [pieces_cons_of_not_separates (by simp [h])]
        cases hp : pieces (· == separator) rest with
        | nil => exact absurd hp (pieces_ne_nil _ rest)
        | cons piece others =>
            rw [hp] at ih
            cases others with
            | nil => simpa using ih
            | cons next others => simpa [join] using ih

/-- What follows `beginning`, if the text begins so. -/
def after? (beginning : Text) (t : Text) : Option Text :=
  match beginning, t with
  | [], t => some t
  | _ :: _, [] => none
  | b :: beginning, c :: t => if b = c then after? beginning t else none

@[simp] theorem after?_nil (t : Text) : after? [] t = some t := by
  cases t <;> rfl

/-- A text that begins so is the beginning and what follows it. -/
theorem after?_eq_some_iff {beginning t rest : Text} :
    after? beginning t = some rest ↔ t = beginning ++ rest := by
  induction beginning generalizing t with
  | nil => simp [eq_comm]
  | cons b beginning ih =>
      cases t with
      | nil => simp [after?]
      | cons c t =>
          by_cases h : b = c
          · simp [after?, h, ih]
          · simp [after?, h, eq_comm]

/-- The text without the longest run of characters of the given kind at its end. -/
def trimEndOf (kind : Char → Bool) (t : Text) : Text :=
  (t.reverse.dropWhile kind).reverse

/-- The text with every `old` character exchanged for `new`. -/
def exchange (old new : Char) (t : Text) : Text :=
  t.map fun c => if c = old then new else c

/-- A character that has been exchanged for another one is gone. -/
theorem not_mem_exchange {old new : Char} (h : new ≠ old) (t : Text) :
    old ∉ exchange old new t := by
  intro found
  obtain ⟨c, -, hc⟩ := List.mem_map.1 found
  split at hc
  · exact h hc
  · rename_i different
    exact different hc

/-- A text without the character to be exchanged is left as it is. -/
theorem exchange_eq_self {old new : Char} {t : Text} (h : old ∉ t) : exchange old new t = t := by
  induction t with
  | nil => rfl
  | cons c t ih =>
      have hc : c ≠ old := fun same => h (by simp [same])
      have ht : old ∉ t := fun found => h (List.mem_cons_of_mem c found)
      change (if c = old then new else c) :: exchange old new t = c :: t
      rw [if_neg hc, ih ht]

end Text

end LintMend

import LintMend.Text.Blank
import LintMend.Text.Lines

/-! # Characters and pieces

Where the blanks, the letters and the digits are; cutting a text, trimming the pieces, and joining
them again.
* `of_isAlphanum`, `of_isBlank`: the letters and digits of the plain set, and the blanks, one by
  one.
* `pieces_eq_splitOnP`: the pieces of a text are those of a list.
* `map_join`, `mem_of_mem_join`: the characters of texts that are joined.
* `pieces_of_not_mem`, `pieces_append_cons`: the pieces of a text by its first separator.
* `lines_flatMap`: the lines of a text that is made of lines.
* `Trimmed`: texts with no blanks around them; `trim_of_trimmed` and `trimmed_trim` say that
  trimming makes a text such a one and leaves such a one alone.
* `words_append_cons`: a blank parts the words before it from those behind it. -/

namespace LintMend.Text

/-! ## Characters -/

/-- Letters and digits of the plain set are among the first 128 characters. -/
theorem toNat_lt_of_isAlphanum {c : Char} (h : c.isAlphanum = true) : c.toNat < 128 := by
  -- Each of the three ranges is an interval of codes, so its upper end decides.
  change (c.isUpper || c.isLower || c.isDigit) = true at h
  rw [Bool.or_eq_true, Bool.or_eq_true] at h
  rcases h with (hupper | hlower) | hdigit
  · have hle : c.toNat ≤ 90 := (of_decide_eq_true hupper).2
    omega
  · have hle : c.toNat ≤ 122 := of_decide_eq_true (Bool.and_eq_true_iff.1 hlower).2
    omega
  · have hle : c.toNat ≤ 57 := (Char.isDigit_iff_toNat.1 hdigit).2
    omega

/-- What holds of each letter and digit of the plain set holds of any. There are few enough to try
them all. -/
theorem of_isAlphanum {P : Char → Prop}
    (h : ∀ n < 128, (Char.ofNat n).isAlphanum = true → P (Char.ofNat n)) {c : Char}
    (hc : c.isAlphanum = true) : P c := by
  have hplain := h c.toNat (toNat_lt_of_isAlphanum hc)
  rw [Char.ofNat_toNat] at hplain
  exact hplain hc

/-- The code points of the blanks, one by one. -/
def blankCodes : List Nat :=
  [0x9, 0xa, 0xb, 0xc, 0xd, 0x1c, 0x1d, 0x1e, 0x1f, 0x20, 0x85, 0xa0, 0x1680, 0x2000, 0x2001,
  0x2002, 0x2003, 0x2004, 0x2005, 0x2006, 0x2007, 0x2008, 0x2009, 0x200a, 0x2028, 0x2029,
  0x202f, 0x205f, 0x3000]

/-- A blank has one of these code points. -/
theorem mem_blankCodes_of_isBlank {c : Char} (h : isBlank c = true) : c.toNat ∈ blankCodes := by
  obtain ⟨range, hrange, hin⟩ := List.any_eq_true.1 h
  simp only [Bool.and_eq_true, decide_eq_true_eq] at hin
  simp only [blanks, List.mem_cons, List.not_mem_nil, or_false] at hrange
  simp only [blankCodes, List.mem_cons, List.not_mem_nil, or_false]
  rcases hrange with rfl | rfl | rfl | rfl | rfl | rfl | rfl | rfl | rfl | rfl <;>
    dsimp only at hin <;> omega

/-- What holds of each blank holds of any. -/
theorem of_isBlank {P : Char → Prop} (h : ∀ n ∈ blankCodes, P (Char.ofNat n)) {c : Char}
    (hc : isBlank c = true) : P c := by
  have hblank := h c.toNat (mem_blankCodes_of_isBlank hc)
  rwa [Char.ofNat_toNat] at hblank

/-! ## Cutting and joining -/

variable {separates : Char → Bool}

/-- The pieces of a text are those of a list. -/
theorem pieces_eq_splitOnP (separates : Char → Bool) (t : Text) :
    pieces separates t = t.splitOnP separates := by
  induction t with
  | nil => rfl
  | cons c rest ih =>
      rw [pieces, List.splitOnP_cons_eq_if_modifyHead, ← ih]
      split
      · rfl
      · cases hp : pieces separates rest with
        | nil => exact absurd hp (pieces_ne_nil separates rest)
        | cons piece others => rfl

/-- What is done to each character of joined texts is done to each text, and between them. -/
theorem map_join (f : Char → Char) (between : Text) (ps : List Text) :
    (join between ps).map f = join (between.map f) (ps.map (List.map f)) := by
  induction ps with
  | nil => rfl
  | cons piece others ih =>
      by_cases h : others = []
      · subst h
        rfl
      · rw [join_cons_of_ne_nil _ _ h, List.map_append, List.map_append, ih, List.map_cons,
          join_cons_of_ne_nil _ _ (by simpa using h)]

/-- Joining adds no characters but those between. -/
theorem mem_of_mem_join {between : Text} {ps : List Text} {c : Char} (h : c ∈ join between ps) :
    c ∈ between ∨ ∃ piece ∈ ps, c ∈ piece := by
  induction ps with
  | nil => exact absurd h List.not_mem_nil
  | cons piece others ih =>
      by_cases hothers : others = []
      · subst hothers
        exact .inr ⟨piece, List.mem_cons_self, h⟩
      · rw [join_cons_of_ne_nil _ _ hothers, List.mem_append, List.mem_append] at h
        rcases h with (h | h) | h
        · exact .inr ⟨piece, List.mem_cons_self, h⟩
        · exact .inl h
        · rcases ih h with hbetween | ⟨other, hother, hc⟩
          · exact .inl hbetween
          · exact .inr ⟨other, List.mem_cons_of_mem piece hother, hc⟩

/-- A text that does not hold the separator is one piece. -/
theorem pieces_of_not_mem {t : Text} {c : Char} (h : c ∉ t) : pieces (· == c) t = [t] := by
  have hno : ∀ d ∈ t, (d == c) = false := fun d hd => beq_false_of_ne (ne_of_mem_of_not_mem hd h)
  rw [pieces_eq_splitOnP, List.splitOnP_eq_singleton hno]

/-- The first separator ends the first piece. -/
theorem pieces_append_cons {piece : Text} {c : Char} (h : c ∉ piece) (rest : Text) :
    pieces (· == c) (piece ++ c :: rest) = piece :: pieces (· == c) rest := by
  have hno : ∀ d ∈ piece, (d == c) = false := fun d hd =>
    beq_false_of_ne (ne_of_mem_of_not_mem hd h)
  rw [pieces_eq_splitOnP, pieces_eq_splitOnP,
    List.splitOnP_append_cons_of_forall_mem hno c (beq_self_eq_true c)]

/-- The pieces of lines that each end with a line feed are the lines, and nothing behind the last
line feed. -/
theorem feedPieces_flatMap {ls : List Text} (h : ∀ l ∈ ls, '\n' ∉ l) :
    feedPieces (ls.flatMap (· ++ ['\n'])) = ls ++ [[]] := by
  induction ls with
  | nil => rfl
  | cons l ls ih =>
      obtain ⟨hl, hothers⟩ := List.forall_mem_cons.1 h
      rw [List.flatMap_cons, List.append_assoc, List.singleton_append, feedPieces,
        pieces_append_cons hl, List.cons_append, ← ih hothers, feedPieces]

/-- Lines that each end with a line feed are the lines of their text. -/
theorem lines_flatMap {ls : List Text} (h : ∀ l ∈ ls, '\n' ∉ l) :
    lines (ls.flatMap (· ++ ['\n'])) = ls := by
  rw [lines, feedPieces_flatMap h]
  simp

/-- A piece is made of characters of the text that do not separate. -/
theorem of_mem_pieces {t piece : Text} {c : Char} (h : piece ∈ pieces separates t)
    (hc : c ∈ piece) : c ∈ t ∧ separates c = false := by
  induction t generalizing piece with
  | nil =>
      rw [pieces_nil, List.mem_singleton] at h
      exact absurd hc (by simp [h])
  | cons d rest ih =>
      -- A separator ends an empty piece; any other character joins the first piece of the rest.
      have hrest {piece : Text} (h : piece ∈ pieces separates rest) (hc : c ∈ piece) :
          c ∈ d :: rest ∧ separates c = false :=
        ⟨List.mem_cons_of_mem d (ih h hc).1, (ih h hc).2⟩
      by_cases hd : separates d = true
      · rw [pieces_cons_of_separates hd, List.mem_cons] at h
        rcases h with rfl | h
        · exact absurd hc (by simp)
        · exact hrest h hc
      · rw [Bool.not_eq_true] at hd
        rw [pieces_cons_of_not_separates hd, List.mem_cons] at h
        obtain ⟨first, others, hp⟩ := List.exists_cons_of_ne_nil (pieces_ne_nil separates rest)
        rw [hp] at h hrest
        rcases h with rfl | h
        · rcases List.mem_cons.1 hc with rfl | hc
          · exact ⟨List.mem_cons_self, hd⟩
          · exact hrest List.mem_cons_self hc
        · exact hrest (List.mem_cons_of_mem first h) hc

/-! ## Trimming -/

/-- Whether a text neither begins nor ends with a blank. -/
def Trimmed (t : Text) : Prop :=
  (∀ c ∈ t.head?, isBlank c = false) ∧ ∀ c ∈ t.getLast?, isBlank c = false

instance (t : Text) : Decidable (Trimmed t) :=
  @instDecidableAnd _ _ (Option.decidableForallMem _) (Option.decidableForallMem _)

/-- Trimming the end takes blanks away. -/
theorem trimEnd_append (t : Text) :
    ∃ blanks, t = trimEnd t ++ blanks ∧ ∀ c ∈ blanks, isBlank c = true := by
  refine ⟨(t.reverse.takeWhile isBlank).reverse, ?_, fun c hc => ?_⟩
  · rw [trimEnd, trimEndOf, ← List.reverse_append, List.takeWhile_append_dropWhile,
      List.reverse_reverse]
  · exact List.all_eq_true.1 List.all_takeWhile c (List.mem_reverse.1 hc)

/-- Blanks at the end are trimmed. -/
theorem trimEnd_append_of_forall_blank {blanks : Text} (h : ∀ c ∈ blanks, isBlank c = true)
    (t : Text) : trimEnd (t ++ blanks) = trimEnd t := by
  rw [trimEnd, trimEndOf, List.reverse_append,
    List.dropWhile_append_of_pos fun c hc => h c (List.mem_reverse.1 hc)]
  rfl

/-- A trimmed text has no blanks around it. -/
theorem trimmed_trim (t : Text) : Trimmed (trim t) := by
  constructor
  · intro c hc
    obtain ⟨rest, hrest, -⟩ := trimEnd_append (trimStart t)
    have hhead := List.head?_dropWhile_not isBlank t
    have hfirst : (t.dropWhile isBlank).head? = some c := by
      rw [trim, Option.mem_def] at hc
      change (trimStart t).head? = some c
      rw [hrest, List.head?_append, hc]
      rfl
    rw [hfirst] at hhead
    simpa using hhead
  · intro c hc
    have hlast := List.head?_dropWhile_not isBlank (trimStart t).reverse
    rw [trim, trimEnd, trimEndOf, List.getLast?_reverse, Option.mem_def] at hc
    rw [hc] at hlast
    simpa using hlast

/-- A text without blanks around it is left alone. -/
theorem trim_of_trimmed {t : Text} (h : Trimmed t) : trim t = t := by
  have hdrop : ∀ u : Text, (∀ c ∈ u.head?, isBlank c = false) → u.dropWhile isBlank = u := by
    intro u hu
    cases u with
    | nil => rfl
    | cons c u => exact List.dropWhile_cons_of_neg (by simp [hu c rfl])
  have hstart : trimStart t = t := hdrop t h.1
  have hend : t.reverse.dropWhile isBlank = t.reverse :=
    hdrop t.reverse (by rw [List.head?_reverse]; exact h.2)
  rw [trim, hstart, trimEnd, trimEndOf, hend, List.reverse_reverse]

/-- A space in front is trimmed. -/
theorem trim_space_cons (t : Text) : trim (' ' :: t) = trim t := by
  have hblank : isBlank ' ' = true := by decide
  rw [trim, trim, trimStart, trimStart, List.dropWhile_cons_of_pos hblank]

/-- Trimming adds no characters. -/
theorem mem_of_mem_trim {t : Text} {c : Char} (h : c ∈ trim t) : c ∈ t := by
  obtain ⟨rest, hrest, -⟩ := trimEnd_append (trimStart t)
  have hstart : c ∈ trimStart t := by
    rw [hrest]
    exact List.mem_append_left rest h
  exact (List.dropWhile_suffix isBlank).subset hstart

/-! ## Words -/

/-- A blank parts the words before it from those behind it. -/
theorem words_append_cons {c : Char} (hc : isBlank c = true) (t rest : Text) :
    words (t ++ c :: rest) = words t ++ words rest := by
  rw [words, pieces_eq_splitOnP, List.splitOnP_append_cons t rest hc, List.filter_append,
    ← pieces_eq_splitOnP, ← pieces_eq_splitOnP, words, words]

/-- A blank in front belongs to no word. -/
theorem words_cons_of_isBlank {c : Char} (hc : isBlank c = true) (t : Text) :
    words (c :: t) = words t := words_append_cons hc [] t

/-- A text without blanks is a word. -/
theorem words_of_forall_not {t : Text} (hne : t ≠ []) (h : ∀ c ∈ t, isBlank c = false) :
    words t = [t] := by
  rw [words, pieces_eq_splitOnP, List.splitOnP_eq_singleton h]
  simp [hne]

/-- Blanks have no words. -/
theorem words_of_forall_blank {t : Text} (h : ∀ c ∈ t, isBlank c = true) : words t = [] := by
  induction t with
  | nil => rfl
  | cons c t ih =>
      rw [List.forall_mem_cons] at h
      rw [words_cons_of_isBlank h.1, ih h.2]

/-- Blanks behind a text belong to no word. -/
theorem words_append_of_forall_blank {t blanks : Text} (h : ∀ c ∈ blanks, isBlank c = true) :
    words (t ++ blanks) = words t := by
  cases blanks with
  | nil => rw [List.append_nil]
  | cons c blanks =>
      rw [List.forall_mem_cons] at h
      rw [words_append_cons h.1, words_of_forall_blank h.2, List.append_nil]

/-- Trimming leaves the words alone. -/
theorem words_trim (t : Text) : words (trim t) = words t := by
  have hstart : words (trimStart t) = words t := by
    induction t with
    | nil => rfl
    | cons c t ih =>
        by_cases hc : isBlank c = true
        · rw [trimStart, List.dropWhile_cons_of_pos hc, words_cons_of_isBlank hc]
          exact ih
        · rw [trimStart, List.dropWhile_cons_of_neg hc]
  obtain ⟨blanks, hblanks, hall⟩ := trimEnd_append (trimStart t)
  rw [← hstart, hblanks, words_append_of_forall_blank hall, trim]

end LintMend.Text

import LintMend.Proofs.Mend.GuardRename

/-! # The guard that is found

Where the guard of a text stands, by the numbers of its lines, and what the search for it does not
depend on.
* `Directive.operand?_trimEnd`: blanks at the end of a line are no part of its directive.
* `Guard.FirstIfndef`, `Guard.FirstShown`, `Guard.StandsIn`: the lines on which a guard stands.
* `Guard.names_iff_standsIn`: lines that are cut at a guard have it on these lines.
* `Guard.findFrom_map_trimEnd`: blanks at the ends of lines do not matter. So neither do carriage
  returns before line feeds, nor a line feed behind the text: `find?_withReturns`,
  `find?_append_feed`.
* `Guard.find?_exact`: the guard is found exactly where it stands, however the lines end. -/

namespace LintMend

open Text

/-! ## Line ends -/

namespace Text

/-- The text with a carriage return put before each of its line feeds. -/
def withReturns (t : Text) : Text := t.flatMap fun c => if c = '\n' then ['\r', '\n'] else [c]

/-- A text without line feeds is left alone. -/
theorem withReturns_of_not_mem {t : Text} (h : '\n' ∉ t) : withReturns t = t := by
  induction t with
  | nil => rfl
  | cons c rest ih =>
      rw [List.mem_cons, not_or] at h
      rw [withReturns, List.flatMap_cons, if_neg (Ne.symm h.1)]
      exact congrArg (c :: ·) (ih h.2)

/-- The first line feed gets its carriage return. -/
theorem withReturns_append_cons {piece : Text} (h : '\n' ∉ piece) (rest : Text) :
    withReturns (piece ++ '\n' :: rest) = (piece ++ ['\r']) ++ '\n' :: withReturns rest := by
  have hpiece := withReturns_of_not_mem h
  rw [withReturns] at hpiece
  rw [withReturns, List.flatMap_append, hpiece, List.flatMap_cons, if_pos rfl, List.append_assoc]
  rfl

/-- A carriage return is a blank. -/
theorem forall_mem_return : ∀ c ∈ ['\r'], isBlank c = true :=
  List.forall_mem_singleton.2 (by decide)

/-- The blanks at the end of a piece of text do not tell whether its line was ended with a carriage
return. -/
theorem trimEnd_text_ofPiece (piece : Text) : trimEnd (Row.ofPiece piece).text = trimEnd piece := by
  rw [Row.ofPiece]
  split
  · next h =>
      obtain ⟨front, rfl⟩ := List.getLast?_eq_some_iff.1 h
      rw [List.dropLast_concat, trimEnd_append_of_forall_blank forall_mem_return]
  · rfl

/-- Nor do they tell whether a line is all blank. -/
theorem isAllBlank_trimEnd (line : Text) : isAllBlank (trimEnd line) = isAllBlank line := by
  obtain ⟨blanks, hline, hblank⟩ := trimEnd_append line
  have hall : isAllBlank line = isAllBlank (trimEnd line ++ blanks) := congrArg isAllBlank hline
  rw [hall, isAllBlank, isAllBlank, List.all_append, List.all_eq_true.2 hblank, Bool.and_true]

end Text

/-! ## Directives -/

namespace Directive

variable {keyword word line blanks : Text}

/-- A line has no such word exactly if it is spelled with none. -/
theorem operand?_eq_none_iff (hkeyword : IsWord keyword) :
    operand? keyword line = none ↔ ∀ word, ¬Spelled keyword word line := by
  rw [Option.eq_none_iff_forall_ne_some]
  exact forall_congr' fun word => not_congr (operand?_eq_some_iff hkeyword)

/-- Blanks that are put behind a directive are no part of it. -/
theorem Spelled.append_blanks (h : Spelled keyword word line)
    (hblank : ∀ c ∈ blanks, isBlank c = true) : Spelled keyword word (line ++ blanks) := by
  obtain ⟨lead, gap, space, rest, hspells⟩ := h
  refine ⟨lead, gap, space, rest ++ blanks, by rw [hspells.eq_append]; simp, hspells.lead_blank,
    hspells.gap_blank, hspells.space_blank, hspells.space_ne_nil, hspells.word_isWord, ?_⟩
  cases hrest : rest with
  | nil => exact fun c hc => isWord_eq_false_of_isBlank (hblank c (List.mem_of_head? hc))
  | cons d others =>
      intro c hc
      exact hspells.rest_apart c (by rw [hrest]; exact hc)

/-- Nor are those that are taken away. -/
theorem Spelled.of_append_blanks (h : Spelled keyword word (line ++ blanks))
    (hblank : ∀ c ∈ blanks, isBlank c = true) : Spelled keyword word line := by
  obtain ⟨lead, gap, space, rest, hspells⟩ := h
  obtain ⟨first, hfirst⟩ : ∃ first, first = lead ++ '#' :: (gap ++ (keyword ++ space)) := ⟨_, rfl⟩
  have hsplit : line ++ blanks = (first ++ word) ++ rest := by
    rw [hspells.eq_append, hfirst]
    simp
  -- The word does not end with a blank, so what is taken away is behind it.
  obtain ⟨after, hline, hrest⟩ :
      ∃ after, line = (first ++ word) ++ after ∧ rest = after ++ blanks := by
    rcases List.append_eq_append_iff.1 hsplit with ⟨between, hword, hblanks⟩ | hafter
    · rcases List.eq_nil_or_concat between with rfl | ⟨front, c, rfl⟩
      · exact ⟨[], by simpa using hword.symm, by simpa using hblanks.symm⟩
      · have hlast : word.getLast? = some c := by
          rw [← List.getLast?_append_of_ne_nil first hspells.word_isWord.1, hword,
            List.concat_eq_append, ← List.append_assoc, List.getLast?_concat]
        have hc := hspells.word_isWord.2 c (List.mem_of_getLast? hlast)
        rw [isWord_eq_false_of_isBlank (hblank c (by simp [hblanks]))] at hc
        cases hc
    · exact hafter
  refine ⟨lead, gap, space, after, by rw [hline, hfirst]; simp, hspells.lead_blank,
    hspells.gap_blank, hspells.space_blank, hspells.space_ne_nil, hspells.word_isWord,
    fun c hc => hspells.rest_apart c ?_⟩
  rw [hrest, List.head?_append, Option.mem_def.1 hc]
  rfl

/-- Blanks at the end of a line are no part of its directive. -/
theorem operand?_trimEnd (hkeyword : IsWord keyword) (line : Text) :
    operand? keyword (trimEnd line) = operand? keyword line := by
  obtain ⟨blanks, hline, hblank⟩ := trimEnd_append line
  refine Option.ext fun word => ?_
  rw [operand?_eq_some_iff hkeyword, operand?_eq_some_iff hkeyword]
  constructor
  · intro h
    rw [hline]
    exact h.append_blanks hblank
  · intro h
    rw [hline] at h
    exact h.of_append_blanks hblank

end Directive

namespace Guard

open Directive (Spelled)

variable {t word : Text} {ls : List Text} {g : Guard} {k : Cut} {name : Text} {n m : Nat}

/-! ## Where a guard stands -/

/-- Whether a line is the first `#ifndef` of a text, and its word. A line that the text does not
have is empty and no directive. -/
structure FirstIfndef (t : Text) (line : Nat) (word : Text) : Prop where
  /-- The line asks for the word not to be defined. -/
  ifndef : Spelled "ifndef".toList word (lineText t line)
  /-- No line before it asks for any. -/
  first : ∀ n < line, ∀ other, ¬Spelled "ifndef".toList other (lineText t n)

/-- Whether a line is the first one after another that shows a character. -/
structure FirstShown (t : Text) (line next : Nat) : Prop where
  /-- It comes after the other line. -/
  after : line < next
  /-- A character of it is not blank. -/
  shown : ∃ c ∈ lineText t next, isBlank c = false
  /-- Those of the lines between are. -/
  between : ∀ n, line < n → n < next → ∀ c ∈ lineText t n, isBlank c = true

/-- Whether a text has this guard: its first `#ifndef` has the word that the first shown line after
it defines. -/
structure StandsIn (g : Guard) (t : Text) : Prop where
  /-- The `#ifndef`. -/
  ifndef : FirstIfndef t g.ifndefLine g.name
  /-- The line after it. -/
  shown : FirstShown t g.ifndefLine g.defineLine
  /-- The `#define`. -/
  define : Spelled "define".toList g.name (lineText t g.defineLine)

/-- A text has one first `#ifndef` at most. -/
theorem FirstIfndef.unique {other : Text} (h : FirstIfndef t n word)
    (hother : FirstIfndef t m other) : n = m ∧ word = other := by
  have hline : n = m := by
    rcases Nat.lt_trichotomy n m with hlt | rfl | hlt
    · exact absurd h.ifndef (hother.first n hlt word)
    · rfl
    · exact absurd hother.ifndef (h.first m hlt other)
  subst hline
  have hword := (Directive.operand?_eq_some_iff Directive.isWord_ifndef).2 h.ifndef
  rw [(Directive.operand?_eq_some_iff Directive.isWord_ifndef).2 hother.ifndef] at hword
  exact ⟨rfl, (Option.some.inj hword).symm⟩

/-- A line that shows a character is one of the text. -/
theorem FirstShown.lt_lineCount (h : FirstShown t n m) : m < lineCount t := by
  obtain ⟨c, hc, -⟩ := h.shown
  by_contra hle
  rw [lineText_eq_getD, List.getElem?_eq_none (by rw [length_lineTexts]; omega)] at hc
  exact absurd hc List.not_mem_nil

/-- A line of a cut text, by its number. -/
theorem lineText_of_getElem? {l : Text} (h : (lineTexts t)[n]? = some l) : lineText t n = l := by
  rw [lineText_eq_getD, h]
  rfl

/-- What holds of some lines among others holds of the lines with their numbers. -/
theorem forall_mem_iff_forall_lineText {front inner back : List Text} {P : Text → Prop}
    (hlines : lineTexts t = front ++ (inner ++ back)) :
    (∀ l ∈ inner, P l) ↔
      ∀ n, front.length ≤ n → n < front.length + inner.length → P (lineText t n) := by
  have hinner : ∀ m (hm : m < inner.length), lineText t (front.length + m) = inner[m] := by
    intro m hm
    refine lineText_of_getElem? ?_
    rw [hlines, List.getElem?_append_right (Nat.le_add_right _ _), Nat.add_sub_cancel_left,
      List.getElem?_append_left hm, List.getElem?_eq_getElem hm]
  constructor
  · intro h n hle hlt
    obtain ⟨m, rfl⟩ := Nat.exists_eq_add_of_le hle
    have hm : m < inner.length := Nat.lt_of_add_lt_add_left hlt
    rw [hinner m hm]
    exact h _ (List.getElem_mem hm)
  · intro h l hl
    obtain ⟨m, hm, rfl⟩ := List.mem_iff_getElem.1 hl
    rw [← hinner m hm]
    exact h _ (Nat.le_add_right _ _) (Nat.add_lt_add_left hm _)

/-- Lines that are cut at a guard are those of a text in which it stands. -/
theorem names_iff_standsIn (hlines : k.lines = lineTexts t) :
    k.Names name ↔ (k.guard name).StandsIn t := by
  have hifndef : lineText t (k.guard name).ifndefLine = k.ifndefLine :=
    lineText_of_getElem? (hlines ▸ k.getElem?_ifndefLine name)
  have hdefine : lineText t (k.guard name).defineLine = k.defineLine :=
    lineText_of_getElem? (hlines ▸ k.getElem?_defineLine name)
  -- The lines before the `#ifndef` are those from the start on, the blank ones those behind it.
  have hfront : (∀ l ∈ k.front, Directive.ifndef? l = none) ↔
      ∀ n < (k.guard name).ifndefLine, ∀ other, ¬Spelled "ifndef".toList other (lineText t n) := by
    have hsplit : lineTexts t
        = [] ++ (k.front ++ k.ifndefLine :: (k.blank ++ k.defineLine :: k.back)) := hlines.symm
    rw [forall_mem_iff_forall_lineText hsplit, Cut.ifndefLine_guard]
    simp only [List.length_nil, Nat.zero_le, true_imp_iff, Nat.zero_add, Directive.ifndef?,
      Directive.operand?_eq_none_iff Directive.isWord_ifndef]
  have hblank : (∀ l ∈ k.blank, isAllBlank l = true) ↔
      ∀ n, (k.guard name).ifndefLine < n → n < (k.guard name).defineLine →
        ∀ c ∈ lineText t n, isBlank c = true := by
    have hsplit : lineTexts t
        = (k.front ++ [k.ifndefLine]) ++ (k.blank ++ k.defineLine :: k.back) := by
      rw [← hlines, Cut.lines, List.append_assoc]
      rfl
    have hbefore : k.before.length = (k.front ++ [k.ifndefLine]).length + k.blank.length := by
      rw [Cut.before, ← List.length_append, List.append_assoc]
      rfl
    have hfirst : (k.front ++ [k.ifndefLine]).length = k.front.length + 1 := List.length_append
    rw [forall_mem_iff_forall_lineText hsplit, Cut.ifndefLine_guard, Cut.defineLine_guard, hbefore,
      hfirst]
    simp only [isAllBlank, List.all_eq_true]
    exact Iff.rfl
  constructor
  · intro h
    have hshown := Directive.isAllBlank_eq_false_of_define? h.define
    refine ⟨⟨?_, hfront.1 h.front⟩, ⟨k.ifndefLine_lt_defineLine name, ?_, hblank.1 h.blank⟩, ?_⟩
    · rw [hifndef]
      exact (Directive.operand?_eq_some_iff Directive.isWord_ifndef).1 h.ifndef
    · rw [hdefine]
      simpa [isAllBlank] using hshown
    · rw [hdefine]
      exact (Directive.operand?_eq_some_iff Directive.isWord_define).1 h.define
  · intro h
    have hifndefs := h.ifndef.ifndef
    have hdefines := h.define
    rw [hifndef] at hifndefs
    rw [hdefine] at hdefines
    exact ⟨hfront.2 h.ifndef.first,
      (Directive.operand?_eq_some_iff Directive.isWord_ifndef).2 hifndefs,
      hblank.2 h.shown.between,
      (Directive.operand?_eq_some_iff Directive.isWord_define).2 hdefines⟩

/-- Lines can be cut at any two of them. -/
theorem exists_cut (horder : g.ifndefLine < g.defineLine) (hcount : g.defineLine < ls.length) :
    ∃ k : Cut, k.lines = ls ∧ k.guard g.name = g := by
  have hcut : ∀ {n : Nat} {rest : List Text}, n < rest.length →
      ∃ front l back, rest = front ++ l :: back ∧ front.length = n := by
    intro n rest hn
    refine ⟨rest.take n, rest[n], rest.drop (n + 1), ?_, List.length_take_of_le hn.le⟩
    rw [List.getElem_cons_drop, List.take_append_drop]
  -- First at the `#define`, then what stands before it at the `#ifndef`.
  obtain ⟨before, second, back, rfl, hbefore⟩ := hcut hcount
  rw [← hbefore] at horder
  obtain ⟨front, first, blank, rfl, hfront⟩ := hcut horder
  refine ⟨⟨front, first, blank, second, back⟩, by simp [Cut.lines], ?_⟩
  obtain ⟨ifndefLine, defineLine, name⟩ := g
  obtain rfl : front.length = ifndefLine := hfront
  obtain rfl : (front ++ first :: blank).length = defineLine := hbefore
  simp [Cut.guard, Cut.guardFrom, Nat.add_assoc, Nat.add_comm 1]

/-- The guard that is found is the one that stands in the text. -/
theorem find?_eq_some_iff_standsIn : find? (lineTexts t) = some g ↔ g.StandsIn t := by
  rw [find?_eq_some_iff]
  constructor
  · rintro ⟨k, hlines, hnames, hguard⟩
    rw [← hguard]
    exact (names_iff_standsIn hlines).1 hnames
  · intro h
    have hlt : g.defineLine < (lineTexts t).length := by
      rw [length_lineTexts]
      exact h.shown.lt_lineCount
    obtain ⟨k, hlines, hguard⟩ := exists_cut h.shown.after hlt
    rw [← hguard] at h
    exact ⟨k, hlines, (names_iff_standsIn hlines).2 h, hguard⟩

/-! ## Blanks at the ends of lines -/

/-- Blanks at the ends of lines do not matter. -/
theorem findFrom_map_trimEnd (line : Nat) (ls : List Text) :
    findFrom line (ls.map trimEnd) = findFrom line ls := by
  -- By induction up to the first `#ifndef`, behind which as many blank lines are dropped as before.
  induction ls generalizing line with
  | nil => rfl
  | cons l others ih =>
      have hblank : isAllBlank ∘ trimEnd = isAllBlank := funext isAllBlank_trimEnd
      have hifndef : Directive.ifndef? (trimEnd l) = Directive.ifndef? l :=
        Directive.operand?_trimEnd Directive.isWord_ifndef l
      rw [List.map_cons, findFrom, findFrom, hifndef, ih, List.takeWhile_map, hblank,
        List.length_map]
      dsimp only
      rw [← List.map_drop]
      cases Directive.ifndef? l with
      | none => rfl
      | some word =>
          cases others.drop (others.takeWhile isAllBlank).length with
          | nil => rfl
          | cons next back =>
              have hdefine : Directive.define? (trimEnd next) = Directive.define? next :=
                Directive.operand?_trimEnd Directive.isWord_define next
              rw [List.map_cons]
              dsimp only
              rw [hdefine]

/-- The guard of a text, by its rows without the blanks at their ends. -/
theorem find?_lineTexts (t : Text) :
    find? (lineTexts t) = find? ((rows t).map fun r => trimEnd r.text) := by
  by_cases ht : t = []
  · rw [ht]
    rfl
  · have hmap : (rows t).map (fun r => trimEnd r.text) = (lineTexts t).map trimEnd := by
      rw [lineTexts_eq ht, List.map_map]
      rfl
    rw [hmap]
    exact (findFrom_map_trimEnd 0 (lineTexts t)).symm

/-- A line feed behind a text does not matter. -/
theorem find?_append_feed (t : Text) : find? (lineTexts (t ++ ['\n'])) = find? (lineTexts t) := by
  have hrows : (rows (t ++ ['\n'])).map (fun r => trimEnd r.text)
      = (rows t).map (fun r => trimEnd r.text) ++ [[]] := by
    induction t using feed_induction with
    | last t h =>
        rw [rows_append_cons h, rows_of_not_mem h, List.map_cons, trimEnd_text_ofPiece]
        rfl
    | step piece rest h ih =>
        rw [List.append_assoc, List.cons_append, rows_append_cons h, rows_append_cons h,
          List.map_cons, List.map_cons, ih, List.cons_append]
  rw [find?_lineTexts, find?_lineTexts, hrows, find?_concat_nil]

/-- Carriage returns before line feeds do not matter. -/
theorem find?_withReturns (t : Text) :
    find? (lineTexts (withReturns t)) = find? (lineTexts t) := by
  have hrows : (rows (withReturns t)).map (fun r => trimEnd r.text)
      = (rows t).map (fun r => trimEnd r.text) := by
    induction t using feed_induction with
    | last t h => rw [withReturns_of_not_mem h]
    | step piece rest h ih =>
        have hpiece : '\n' ∉ piece ++ ['\r'] := by simpa using h
        rw [withReturns_append_cons h, rows_append_cons hpiece, rows_append_cons h, List.map_cons,
          List.map_cons, ih, trimEnd_text_ofPiece, trimEnd_text_ofPiece,
          trimEnd_append_of_forall_blank forall_mem_return]
  rw [find?_lineTexts, find?_lineTexts, hrows]

/-! ## All guards -/

/-- The guard is found exactly where it stands. If the first shown line after the first `#ifndef`
does not define its word, none is found, whatever other lines say. The line ends do not matter:
neither carriage returns before line feeds, nor a line feed at the end. -/
theorem find?_exact (t : Text) :
    (∀ g, find? (lineTexts t) = some g ↔ g.StandsIn t)
      ∧ ((∀ g : Guard, ¬g.StandsIn t) → find? (lineTexts t) = none)
      ∧ (∀ line word, FirstIfndef t line word →
          (∀ next, FirstShown t line next → ¬Spelled "define".toList word (lineText t next)) →
          find? (lineTexts t) = none)
      ∧ find? (lineTexts (withReturns t)) = find? (lineTexts t)
      ∧ find? (lineTexts (t ++ ['\n'])) = find? (lineTexts t) := by
  have hnone : (∀ g : Guard, ¬g.StandsIn t) → find? (lineTexts t) = none := fun h =>
    Option.eq_none_iff_forall_ne_some.2 fun g hfind => h g (find?_eq_some_iff_standsIn.1 hfind)
  refine ⟨fun g => find?_eq_some_iff_standsIn, hnone, fun line word hfirst hno => hnone ?_,
    find?_withReturns t, find?_append_feed t⟩
  -- A guard would stand on that `#ifndef`, and its `#define` would be the shown line after it.
  intro g hg
  obtain ⟨hline, hword⟩ := hfirst.unique hg.ifndef
  rw [hline, hword] at hno
  exact hno _ hg.shown hg.define

/-- A header with a guard behind a comment, with blanks wherever there may be some. -/
def spacedHeader : Text := "// A_H\n # ifndef A_H(x)\r\n \t\n#\tdefine A_H".toList

/-- Lines of which the last two would be those of a guard, but for the `#ifndef` before them. -/
def lateHeader : Text := "#ifndef A\n#if B\n#ifndef C\n#define C\n".toList

/-- Where the guard of the one stands, and that the other has none. -/
theorem find?_exact_lateHeader :
    StandsIn ⟨1, 3, "A_H".toList⟩ spacedHeader
      ∧ find? (lineTexts (withReturns spacedHeader)) = some ⟨1, 3, "A_H".toList⟩
      ∧ find? (lineTexts (spacedHeader ++ ['\n'])) = some ⟨1, 3, "A_H".toList⟩
      ∧ FirstIfndef lateHeader 0 "A".toList
      ∧ (∀ next, FirstShown lateHeader 0 next →
        ¬Spelled "define".toList "A".toList (lineText lateHeader next))
      ∧ find? (lineTexts lateHeader) = none := by
  have hfind : find? (lineTexts spacedHeader) = some ⟨1, 3, "A_H".toList⟩ := by decide +kernel
  obtain ⟨hstands, -, -, hreturns, hfeed⟩ := find?_exact spacedHeader
  obtain ⟨-, -, hlate, -, -⟩ := find?_exact lateHeader
  have hifndef : Directive.ifndef? (lineText lateHeader 0) = some "A".toList := by decide +kernel
  have hfirst : FirstIfndef lateHeader 0 "A".toList :=
    ⟨(Directive.operand?_eq_some_iff Directive.isWord_ifndef).1 hifndef,
      fun n hn => absurd hn (Nat.not_lt_zero n)⟩
  have hnone : Directive.define? (lineText lateHeader 1) = none := by decide +kernel
  have hnext : ∀ next, FirstShown lateHeader 0 next →
      ¬Spelled "define".toList "A".toList (lineText lateHeader next) := by
    intro next hshown
    -- The second line shows a character, so no other line is the first to do so.
    have hblank : isAllBlank (lineText lateHeader 1) = false := by decide +kernel
    have hle : next ≤ 1 := by
      by_contra hlt
      have hall := List.all_eq_true.2 (hshown.between 1 (by omega) (by omega))
      rw [isAllBlank, hall] at hblank
      cases hblank
    obtain rfl : next = 1 := by
      have hafter := hshown.after
      omega
    exact (Directive.operand?_eq_none_iff Directive.isWord_define).1 hnone _
  exact ⟨(hstands _).1 hfind, hreturns.trans hfind, hfeed.trans hfind, hfirst, hnext,
    hlate _ _ hfirst hnext⟩

end Guard

end LintMend

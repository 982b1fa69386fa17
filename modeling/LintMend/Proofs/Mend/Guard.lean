import LintMend.Mend.Guard
import LintMend.Proofs.Mend.Directive

/-! # Guards by lines

A header guard cuts the lines of a file into what stands before it, its two opening lines with the
blank lines between them, and the rest, which its closing line is a part of.
* `Guard.Cut`, `Cut.Names`: lines cut so, and whether the cut is that of a guard;
  `find?_eq_some_iff` says that the guard that is found is the one that the lines are cut at.
* `lastEndifFrom_append_cons`, `lastEndifFrom_append_of_forall_not`: the last `#endif` of some
  lines.
* `Guard.renewed`: some lines with the last `#endif` of them renewed. -/

namespace LintMend.Guard

open Text

/-! ## Finding a guard -/

/-- Lines cut at two of them. -/
structure Cut where
  /-- The lines before the `#ifndef`. -/
  front : List Text
  /-- The line of the `#ifndef`. -/
  ifndefLine : Text
  /-- The lines between the two. -/
  blank : List Text
  /-- The line of the `#define`. -/
  defineLine : Text
  /-- The lines after the `#define`. -/
  back : List Text

namespace Cut

/-- The lines, not cut. -/
def lines (k : Cut) : List Text :=
  k.front ++ k.ifndefLine :: (k.blank ++ k.defineLine :: k.back)

/-- Whether lines are cut at the guard with a name. -/
structure Names (k : Cut) (name : Text) : Prop where
  /-- No line before asks for a word not to be defined. -/
  front : ∀ l ∈ k.front, Directive.ifndef? l = none
  /-- The first line of the cut asks for the name. -/
  ifndef : Directive.ifndef? k.ifndefLine = some name
  /-- The lines between are blank. -/
  blank : ∀ l ∈ k.blank, isAllBlank l = true
  /-- The second line of the cut defines the name. -/
  define : Directive.define? k.defineLine = some name

/-- The guard at which lines are cut that begin at number `line`. -/
def guardFrom (line : Nat) (k : Cut) (name : Text) : Guard :=
  ⟨line + k.front.length, line + k.front.length + 1 + k.blank.length, name⟩

/-- The guard at which lines are cut. -/
def guard (k : Cut) (name : Text) : Guard := guardFrom 0 k name

end Cut

variable {ls : List Text} {name : Text} {k : Cut}

/-- The first line that is not blank, after a line that asks for a name. -/
theorem findFrom_cons_of_ifndef? {line : Nat} {text : Text} {others : List Text} {g : Guard}
    (h : Directive.ifndef? text = some name) :
    findFrom line (text :: others) = some g ↔
      ∃ blank next back, others = blank ++ next :: back ∧ (∀ l ∈ blank, isAllBlank l = true)
        ∧ Directive.define? next = some name ∧ g = ⟨line, line + 1 + blank.length, name⟩ := by
  -- The blank lines are dropped by their number, which comes to dropping them while they are blank.
  have hdrop : ∀ {blank rest : List Text}, others.takeWhile isAllBlank = blank →
      others.dropWhile isAllBlank = rest → others.drop blank.length = rest := by
    rintro _ _ rfl rfl
    calc others.drop (others.takeWhile isAllBlank).length
        = (others.takeWhile isAllBlank ++ others.dropWhile isAllBlank).drop
            (others.takeWhile isAllBlank).length := by rw [List.takeWhile_append_dropWhile]
      _ = others.dropWhile isAllBlank := List.drop_left
  rw [findFrom, h]
  dsimp only
  constructor
  · intro hfind
    rw [hdrop rfl rfl] at hfind
    split at hfind
    · exact absurd hfind (by simp)
    · next next back hrest =>
        split at hfind
        · next hdefine =>
            refine ⟨others.takeWhile isAllBlank, next, back, ?_,
              fun l hl => List.mem_takeWhile_imp hl, hdefine, (Option.some.inj hfind).symm⟩
            rw [← hrest, List.takeWhile_append_dropWhile]
        · exact absurd hfind (by simp)
  · rintro ⟨blank, next, back, rfl, hblank, hdefine, rfl⟩
    have hnext : isAllBlank next = false := Directive.isAllBlank_eq_false_of_define? hdefine
    have htake : (blank ++ next :: back).takeWhile isAllBlank = blank := by
      rw [List.takeWhile_append_of_pos hblank, List.takeWhile_cons_of_neg (by simp [hnext]),
        List.append_nil]
    have hleft : (blank ++ next :: back).dropWhile isAllBlank = next :: back := by
      rw [List.dropWhile_append_of_pos hblank, List.dropWhile_cons_of_neg (by simp [hnext])]
    rw [hdrop rfl hleft, htake]
    dsimp only
    rw [if_pos hdefine]

/-- A guard is found where the lines are cut at it. -/
theorem findFrom_lines (h : k.Names name) (line : Nat) :
    findFrom line k.lines = some (k.guardFrom line name) := by
  obtain ⟨front, first, blank, second, back⟩ := k
  -- By induction on the lines before the cut, none of which asks for a word not to be defined.
  induction front generalizing line with
  | nil =>
      exact (findFrom_cons_of_ifndef? h.ifndef).2 ⟨blank, second, back, rfl, h.blank, h.define, rfl⟩
  | cons l front ih =>
      have hothers : Cut.Names ⟨front, first, blank, second, back⟩ name :=
        ⟨fun m hm => h.front m (List.mem_cons_of_mem l hm), h.ifndef, h.blank, h.define⟩
      have hl : Directive.ifndef? l = none := h.front l List.mem_cons_self
      change findFrom line (l :: Cut.lines ⟨front, first, blank, second, back⟩) = _
      rw [findFrom, hl]
      dsimp only
      rw [ih (line + 1) hothers, Cut.guardFrom, Cut.guardFrom, List.length_cons]
      simp only [Nat.add_comm, Nat.add_left_comm]

/-- Lines in which a guard is found are cut at it. -/
theorem exists_cut_of_findFrom {line : Nat} {g : Guard} (h : findFrom line ls = some g) :
    ∃ k : Cut, k.lines = ls ∧ k.Names g.name ∧ k.guardFrom line g.name = g := by
  induction ls generalizing line with
  | nil => exact absurd h (by simp [findFrom])
  | cons text others ih =>
      cases hifndef : Directive.ifndef? text with
      | none =>
          -- the line stands before the cut of the others
          rw [findFrom, hifndef] at h
          obtain ⟨k, rfl, hnames, hguard⟩ := ih h
          refine ⟨{ k with front := text :: k.front }, rfl,
            ⟨List.forall_mem_cons.2 ⟨hifndef, hnames.front⟩, hnames.ifndef, hnames.blank,
              hnames.define⟩, ?_⟩
          rw [← hguard, Cut.guardFrom, Cut.guardFrom, List.length_cons]
          simp only [Nat.add_comm, Nat.add_left_comm]
      | some word =>
          -- only the first line that asks for a word can be that of a guard
          obtain ⟨blank, next, back, rfl, hblank, hdefine, rfl⟩ :=
            (findFrom_cons_of_ifndef? hifndef).1 h
          exact ⟨⟨[], text, blank, next, back⟩, rfl, ⟨by simp, hifndef, hblank, hdefine⟩, rfl⟩

/-- The guard that is found is the one that the lines are cut at. -/
theorem find?_eq_some_iff {g : Guard} :
    find? ls = some g ↔ ∃ k : Cut, k.lines = ls ∧ k.Names g.name ∧ k.guard g.name = g := by
  constructor
  · exact exists_cut_of_findFrom
  · rintro ⟨k, rfl, hnames, hguard⟩
    rw [find?, findFrom_lines hnames]
    exact congrArg some hguard

/-- The guard of lines that are cut at one. -/
theorem Cut.Names.find? (h : k.Names name) : find? k.lines = some (k.guard name) :=
  findFrom_lines h 0

/-- An empty line behind the others is no part of a guard. -/
theorem find?_concat_nil (ls : List Text) : find? (ls ++ [[]]) = find? ls := by
  refine Option.ext fun g => ?_
  rw [find?_eq_some_iff, find?_eq_some_iff]
  constructor
  · rintro ⟨k, hlines, hnames, hguard⟩
    -- the empty line is not that of the `#define`, so it is behind it
    have hdefine : k.defineLine ≠ [] := Directive.ne_nil_of_operand? hnames.define
    rcases List.eq_nil_or_concat k.back with hback | ⟨back, last, hback⟩
    · have hsplit : k.lines = (k.front ++ k.ifndefLine :: k.blank) ++ [k.defineLine] := by
        simp [Cut.lines, hback]
      have hlast : [k.defineLine] = [[]] := (List.append_inj' (hsplit.symm.trans hlines) rfl).2
      exact absurd (List.cons.inj hlast).1 hdefine
    · refine ⟨{ k with back := back }, ?_,
        ⟨hnames.front, hnames.ifndef, hnames.blank, hnames.define⟩, hguard⟩
      have hsplit : k.lines = { k with back := back }.lines ++ [last] := by
        simp [Cut.lines, hback]
      exact (List.append_inj' (hsplit.symm.trans hlines) rfl).1
  · rintro ⟨k, rfl, hnames, hguard⟩
    refine ⟨{ k with back := k.back ++ [[]] }, ?_,
      ⟨hnames.front, hnames.ifndef, hnames.blank, hnames.define⟩, hguard⟩
    simp [Cut.lines]

/-! ## The closing line -/

/-- Lines have no `#endif` exactly if none of them is one. -/
theorem lastEndifFrom_eq_none_iff {line : Nat} :
    lastEndifFrom line ls = none ↔ ∀ l ∈ ls, Directive.isEndif l = false := by
  induction ls generalizing line with
  | nil => simp [lastEndifFrom]
  | cons l others ih =>
      rw [lastEndifFrom, List.forall_mem_cons, ← @ih (line + 1)]
      cases lastEndifFrom (line + 1) others <;> simp

/-- Lines after which nothing closes have the same last `#endif` without them. -/
theorem lastEndifFrom_append_of_forall_not {back : List Text}
    (hback : ∀ m ∈ back, Directive.isEndif m = false) (line : Nat) (front : List Text) :
    lastEndifFrom line (front ++ back) = lastEndifFrom line front := by
  induction front generalizing line with
  | nil => exact lastEndifFrom_eq_none_iff.2 hback
  | cons l front ih => rw [List.cons_append, lastEndifFrom, lastEndifFrom, ih]

/-- The last `#endif` is one of the lines. -/
theorem lt_of_lastEndifFrom {line last : Nat} (h : lastEndifFrom line ls = some last) :
    last < line + ls.length := by
  induction ls generalizing line with
  | nil => exact absurd h (by simp [lastEndifFrom])
  | cons l others ih =>
      rw [lastEndifFrom] at h
      rw [List.length_cons]
      split at h
      · next found hfound =>
          obtain rfl := Option.some.inj h
          have hlt := ih hfound
          omega
      · split at h
        · obtain rfl := Option.some.inj h
          omega
        · exact absurd h (by simp)

/-- The last `#endif` of all lines is one of them. -/
theorem lt_length_of_lastEndif? {last : Nat} (h : lastEndif? ls = some last) :
    last < ls.length := by
  have hlt := lt_of_lastEndifFrom h
  rwa [Nat.zero_add] at hlt

/-- A line that closes is the last `#endif` if nothing closes after it. -/
theorem lastEndifFrom_append_cons {front back : List Text} {l : Text}
    (hl : Directive.isEndif l = true) (hback : ∀ m ∈ back, Directive.isEndif m = false)
    (line : Nat) :
    lastEndifFrom line (front ++ l :: back) = some (line + front.length) := by
  induction front generalizing line with
  | nil =>
      rw [List.nil_append, lastEndifFrom, lastEndifFrom_eq_none_iff.2 hback]
      exact if_pos hl
  | cons m front ih =>
      rw [List.cons_append, lastEndifFrom, ih, List.length_cons, Nat.add_right_comm, Nat.add_assoc]

/-- Lines have no `#endif`, or one with none after it. -/
theorem forall_not_or_exists_last (ls : List Text) :
    (∀ l ∈ ls, Directive.isEndif l = false) ∨
      ∃ front l back, ls = front ++ l :: back ∧ Directive.isEndif l = true
        ∧ ∀ m ∈ back, Directive.isEndif m = false := by
  induction ls with
  | nil => exact .inl (by simp)
  | cons m others ih =>
      rcases ih with hno | ⟨front, l, back, rfl, hl, hback⟩
      · cases hm : Directive.isEndif m with
        | true => exact .inr ⟨[], m, others, rfl, hm, hno⟩
        | false => exact .inl (List.forall_mem_cons.2 ⟨hm, hno⟩)
      · exact .inr ⟨m :: front, l, back, rfl, hl, hback⟩

/-- The lines with the last `#endif` of them renewed. -/
def renewed (name : Text) (ls : List Text) : List Text :=
  match lastEndif? ls with
  | none => ls
  | some last => ls.set last (endifLine name)

/-- Where nothing closes nothing is renewed. -/
theorem renewed_of_forall_not (h : ∀ l ∈ ls, Directive.isEndif l = false) :
    renewed name ls = ls := by
  have hnone : lastEndif? ls = none := lastEndifFrom_eq_none_iff.2 h
  rw [renewed, hnone]

/-- The last closing line is renewed. -/
theorem renewed_append_cons {front back : List Text} {l : Text} (hl : Directive.isEndif l = true)
    (hback : ∀ m ∈ back, Directive.isEndif m = false) :
    renewed name (front ++ l :: back) = front ++ endifLine name :: back := by
  rw [renewed, lastEndif?, lastEndifFrom_append_cons hl hback]
  simp

/-- The parts of a closing line. -/
theorem endifLine_eq (name : Text) :
    endifLine name = '#' :: ("endif".toList ++ ("  // ".toList ++ name)) := by
  have hparts : "#endif  // ".toList = '#' :: ("endif".toList ++ "  // ".toList) := by decide
  change "#endif  // ".toList ++ name = _
  rw [hparts, List.cons_append, List.append_assoc]

/-- A closing line that is written closes. -/
theorem isEndif_endifLine (name : Text) : Directive.isEndif (endifLine name) = true := by
  have hrest : Directive.rest? "endif".toList (endifLine name) = some ("  // ".toList ++ name) :=
    (Directive.rest?_eq_some_iff (by decide)).2 ⟨[], [], endifLine_eq name, by simp, by simp⟩
  have hblank : isWord ' ' = false := by decide
  have hspace : "  // ".toList = ' ' :: " // ".toList := by decide
  rw [Directive.isEndif, hrest, hspace]
  simp [hblank]

/-- What is renewed last counts. -/
theorem renewed_renewed (name other : Text) (ls : List Text) :
    renewed name (renewed other ls) = renewed name ls := by
  rcases forall_not_or_exists_last ls with h | ⟨front, l, back, rfl, hl, hback⟩
  · rw [renewed_of_forall_not h]
  · rw [renewed_append_cons hl hback, renewed_append_cons (isEndif_endifLine other) hback,
      renewed_append_cons hl hback]

end LintMend.Guard

import LintMend.Finding.Reading
import Mathlib.Data.List.TakeWhile

/-! # Stretches of a text

A text cut where a kind of character ends, and the longest stretch after which a reader goes on.
* `takeWhile_eq_and_dropWhile_eq_iff`: where the longest stretch of a kind ends is settled by the
  character after it.
* `Text.longest`: the longest stretch of a kind after which another reader finds something. The
  readers of a message, of the gap before it and of a path are all of this form.
* `longest_eq_none_iff`: it finds nothing only where nothing is found after any such stretch.
* `eq_append_of_longest`, `length_le_of_longest`: what it finds comes after a stretch of the kind,
  and no longer one would do. -/

namespace LintMend.Text

variable {kind : Char → Bool} {t run rest : Text}

/-- A stretch is one character of the kind, alone or before a stretch. -/
theorem isRun_cons_iff {c : Char} :
    IsRun kind (c :: run) ↔ kind c = true ∧ (run = [] ∨ IsRun kind run) := by
  by_cases h : run = []
  · subst h
    simp [IsRun]
  · simp [IsRun, h]

/-- A stretch has a first character. -/
theorem exists_cons_of_isRun (h : IsRun kind run) :
    ∃ c rest, run = c :: rest ∧ kind c = true := by
  cases run with
  | nil => exact absurd rfl h.1
  | cons c rest => exact ⟨c, rest, rfl, h.2 c List.mem_cons_self⟩

/-- Of two ways to cut a text, the first is not behind the second, or the second part of the second
begins within the first part of the first. -/
theorem length_le_or_exists_of_append_eq {front back other otherBack : Text}
    (h : front ++ back = other ++ otherBack) :
    front.length ≤ other.length ∨
      ∃ c between, front = other ++ c :: between ∧ otherBack = c :: (between ++ back) := by
  rcases List.append_eq_append_iff.1 h with ⟨between, rfl, -⟩ | ⟨between, rfl, rfl⟩
  · refine .inl ?_
    rw [List.length_append]
    exact Nat.le_add_right _ _
  · cases between with
    | nil => exact .inl (by rw [List.append_nil])
    | cons c between => exact .inr ⟨c, between, rfl, rfl⟩

/-- A text is cut after its longest stretch of a kind exactly if the first part is of the kind and
the second part does not begin with a character of it. -/
theorem takeWhile_eq_and_dropWhile_eq_iff :
    t.takeWhile kind = run ∧ t.dropWhile kind = rest ↔
      t = run ++ rest ∧ (∀ c ∈ run, kind c = true) ∧ ∀ c ∈ rest.head?, kind c = false := by
  constructor
  · rintro ⟨rfl, rfl⟩
    refine ⟨List.takeWhile_append_dropWhile.symm, fun c hc => List.mem_takeWhile_imp hc, ?_⟩
    intro c hc
    have hnot := List.head?_dropWhile_not kind t
    rw [Option.mem_def.1 hc] at hnot
    simpa using hnot
  · rintro ⟨rfl, hrun, hrest⟩
    rw [List.takeWhile_append_of_pos hrun, List.dropWhile_append_of_pos hrun]
    cases rest with
    | nil => simp
    | cons c rest =>
        have hc : ¬ kind c = true := by simp [hrest c rfl]
        rw [List.takeWhile_cons_of_neg hc, List.dropWhile_cons_of_neg hc, List.append_nil]
        exact ⟨rfl, rfl⟩

/-- The longest stretch of a kind, of one character at least, after which `next?` finds something,
and what it finds there. -/
def longest {β : Type} (kind : Char → Bool) (next? : Text → Option β) :
    Text → Option (Text × β)
  | [] => none
  | c :: rest =>
      if kind c then
        match longest kind next? rest with
        | some (run, found) => some (c :: run, found)
        | none => (next? rest).map fun found => ([c], found)
      else none

section Longest

variable {β : Type} {next? : Text → Option β} {found : β}

/-- Nothing is found exactly if the first character is not of the kind, or nothing is found after it
and after longer stretches. -/
theorem longest_cons_eq_none_iff {c : Char} :
    longest kind next? (c :: t) = none ↔
      (kind c = true → longest kind next? t = none ∧ next? t = none) := by
  rw [longest]
  by_cases hc : kind c = true
  · rw [if_pos hc]
    cases longest kind next? t with
    | some found => simp [hc]
    | none => simp [hc]
  · simp [hc]

/-- What is found is found after a longer stretch, or after the first character if there is nothing
to find after longer ones. -/
theorem cases_of_longest_cons {c : Char} (h : longest kind next? (c :: t) = some (run, found)) :
    kind c = true ∧
      ((∃ others, run = c :: others ∧ longest kind next? t = some (others, found)) ∨
        run = [c] ∧ longest kind next? t = none ∧ next? t = some found) := by
  rw [longest] at h
  split at h
  · next hc =>
      refine ⟨hc, ?_⟩
      split at h
      · next hsome =>
          obtain ⟨rfl, rfl⟩ : c :: _ = run ∧ _ = found := by simpa using h
          exact .inl ⟨_, rfl, hsome⟩
      · next hnone =>
          obtain ⟨_, hfound, heq⟩ := Option.map_eq_some_iff.1 h
          obtain ⟨rfl, rfl⟩ : [c] = run ∧ _ = found := by simpa using heq
          exact .inr ⟨rfl, hnone, hfound⟩
  · exact absurd h (by simp)

/-- Nothing is found exactly if nothing is found after any stretch of the kind. -/
theorem longest_eq_none_iff :
    longest kind next? t = none ↔
      ∀ run rest, IsRun kind run → t = run ++ rest → next? rest = none := by
  induction t with
  | nil =>
      refine ⟨fun _ run rest hrun ht => ?_, fun _ => rfl⟩
      exact absurd (List.append_eq_nil_iff.1 ht.symm).1 hrun.1
  | cons c tail ih =>
      rw [longest_cons_eq_none_iff, ih]
      constructor
      · intro h run rest hrun ht
        obtain ⟨d, others, rfl, hd⟩ := exists_cons_of_isRun hrun
        rw [List.cons_append, List.cons.injEq] at ht
        obtain ⟨rfl, ht⟩ := ht
        -- the stretch is either the first character alone or goes on with a stretch
        rcases (isRun_cons_iff.1 hrun).2 with rfl | hothers
        · rw [List.nil_append] at ht
          exact ht ▸ (h hd).2
        · exact (h hd).1 others rest hothers ht
      · intro h hc
        refine ⟨fun run rest hrun ht => ?_, h [c] tail (isRun_cons_iff.2 ⟨hc, .inl rfl⟩) rfl⟩
        exact h (c :: run) rest (isRun_cons_iff.2 ⟨hc, .inr hrun⟩) (by rw [ht, List.cons_append])

/-- What is found comes after a stretch of the kind. -/
theorem eq_append_of_longest (h : longest kind next? t = some (run, found)) :
    IsRun kind run ∧ ∃ rest, t = run ++ rest ∧ next? rest = some found := by
  induction t generalizing run with
  | nil => exact absurd h (by simp [longest])
  | cons c tail ih =>
      obtain ⟨hc, ⟨others, rfl, hlonger⟩ | ⟨rfl, -, hfound⟩⟩ := cases_of_longest_cons h
      · obtain ⟨hrun, rest, rfl, hfound⟩ := ih hlonger
        exact ⟨isRun_cons_iff.2 ⟨hc, .inr hrun⟩, rest, rfl, hfound⟩
      · exact ⟨isRun_cons_iff.2 ⟨hc, .inl rfl⟩, tail, rfl, hfound⟩

/-- No stretch of the kind after which something is found is longer than the one taken. -/
theorem length_le_of_longest (h : longest kind next? t = some (run, found))
    {other otherRest : Text} (hother : IsRun kind other) (ht : t = other ++ otherRest)
    (hnext : next? otherRest ≠ none) : other.length ≤ run.length := by
  induction t generalizing run other with
  | nil => exact absurd h (by simp [longest])
  | cons c tail ih =>
      obtain ⟨d, others, rfl, -⟩ := exists_cons_of_isRun hother
      rw [List.cons_append, List.cons.injEq] at ht
      obtain ⟨rfl, ht⟩ := ht
      obtain ⟨-, ⟨run, rfl, hlonger⟩ | ⟨rfl, hnone, -⟩⟩ := cases_of_longest_cons h
      · rcases (isRun_cons_iff.1 hother).2 with rfl | hothers
        · simp
        · exact Nat.succ_le_succ (ih hlonger hothers ht)
      · -- nothing is found after longer stretches, so the other one is a single character
        rcases (isRun_cons_iff.1 hother).2 with rfl | hothers
        · simp
        · exact absurd (longest_eq_none_iff.1 hnone _ _ hothers ht) hnext

end Longest

end LintMend.Text

import LintMend.Text.Word
import Mathlib.Data.List.SplitBy
import Mathlib.Data.List.TakeWhile

/-! # Whole words

Where a word stands in a text as a whole word: no word character right before it or right after it.
* `runs_eq_splitBy`: the runs of a text, by the library's cutting of lists.
* `StandsBetween`, `HasWord`, `IsFirst`: a whole word between two texts, some such place, and the
  first of these places.
* `runs_append`, `runs_of_standsBetween`, `standsBetween_of_runs`: whole words are runs.
* `cutAtWord?_eq_some_iff`, `cutAtWord?_eq_none_iff`: a text is cut at the first place where the
  word stands, and is not cut only if there is none.
* `replaceWord_of_standsBetween` and its companions: what replacing a word does around a word.
* `runs_replaceWord`: replacing a word by a word replaces runs by runs. -/

namespace LintMend.Text

/-! ## Runs -/

/-- Whether two neighbours belong to one run. -/
def alike (c d : Char) : Bool := isWord c == isWord d

/-- The runs of a text are those of a list. -/
theorem runs_eq_splitBy (t : Text) : runs t = t.splitBy alike := by
  refine (List.splitBy_eq_iff.2 ⟨(flatten_runs t).symm, ?_⟩).symm
  -- What is left to show: no run is empty, the neighbours in a run are alike, and those at a border
  -- between two runs are not. By induction on the text, as `runs` recurses.
  induction t with
  | nil => exact ⟨List.not_mem_nil, fun _ h => absurd h List.not_mem_nil, List.isChain_nil⟩
  | cons c rest ih =>
      obtain ⟨hne, hrun, hmeet⟩ := ih
      rw [runs]
      cases hruns : runs rest with
      | nil => simp
      | cons run others =>
          rw [hruns] at hne hrun hmeet
          cases run with
          | nil => exact absurd List.mem_cons_self hne
          | cons d run =>
              rw [List.forall_mem_cons] at hrun
              rw [List.mem_cons, not_or] at hne
              dsimp only
              have hjoin : (d :: run).head?.all (isWord · == isWord c) = true
                  ↔ isWord d = isWord c := by simp
              by_cases hcd : isWord d = isWord c
              · -- the character joins the run, whose end stays the same
                rw [if_pos (hjoin.2 hcd)]
                refine ⟨by simpa using hne.2, List.forall_mem_cons.2 ⟨?_, hrun.2⟩, ?_⟩
                · exact List.isChain_cons_cons.2 ⟨beq_iff_eq.2 hcd.symm, hrun.1⟩
                · rw [List.isChain_cons] at hmeet ⊢
                  refine ⟨fun next hnext => ?_, hmeet.2⟩
                  obtain ⟨_, hnil, hlast⟩ := hmeet.1 next hnext
                  exact ⟨List.cons_ne_nil c _, hnil, hlast⟩
              · -- it is a run of its own, and the border is the one before it
                rw [if_neg (fun h => hcd (hjoin.1 h))]
                refine ⟨by simpa using hne.2, ?_, ?_⟩
                · exact List.forall_mem_cons.2
                    ⟨List.isChain_singleton c, List.forall_mem_cons.2 hrun⟩
                · refine List.isChain_cons_cons.2 ⟨⟨by simp, by simp, ?_⟩, hmeet⟩
                  simpa [alike] using Ne.symm hcd

/-- Texts that meet at a border between words and other characters keep their runs. -/
theorem runs_append {before after : Text}
    (h : ∀ c ∈ before.getLast?, ∀ d ∈ after.head?, isWord c ≠ isWord d) :
    runs (before ++ after) = runs before ++ runs after := by
  rw [runs_eq_splitBy, runs_eq_splitBy, runs_eq_splitBy]
  exact List.splitBy_append fun c hc d hd => by simpa [alike] using h c hc d hd

/-- Whether a text is a word: it has characters, and they are word characters. -/
def IsWord (word : Text) : Prop := word ≠ [] ∧ ∀ c ∈ word, isWord c = true

instance (word : Text) : Decidable (IsWord word) :=
  decidable_of_decidable_of_iff (and_congr Iff.rfl List.all_eq_true)

/-- The characters of a word are not of the others. -/
theorem IsWord.ne_false {word : Text} {c : Char} (h : IsWord word) (hc : c ∈ word) :
    isWord c ≠ false := by
  rw [h.2 c hc]
  decide

/-- A word has a last character. -/
theorem IsWord.exists_getLast? {word : Text} (h : IsWord word) :
    ∃ c, word.getLast? = some c ∧ isWord c ≠ false :=
  ⟨_, List.getLast?_eq_some_getLast h.1, h.ne_false (List.getLast_mem h.1)⟩

/-- A word is one run. -/
theorem runs_of_isWord {word : Text} (h : IsWord word) : runs word = [word] := by
  rw [runs_eq_splitBy]
  refine List.splitBy_of_isChain h.1 (List.isChain_iff_getElem.2 fun i hi => ?_)
  simp [alike, h.2]

/-! ## Places of a word -/

/-- Whether a text is `word` between `before` and `after`, and no word character stands next to
it. -/
structure StandsBetween (word t before after : Text) : Prop where
  /-- The text is the word between the two others. -/
  eq_append : t = before ++ (word ++ after)
  /-- The word begins there. -/
  before_apart : ∀ c ∈ before.getLast?, isWord c = false
  /-- The word ends there. -/
  after_apart : ∀ c ∈ after.head?, isWord c = false

/-- Whether `word` stands somewhere in a text as a whole word. -/
def HasWord (word t : Text) : Prop := ∃ before after, StandsBetween word t before after

/-- Whether `word` stands between `before` and `after` and no further to the front. -/
structure IsFirst (word t before after : Text) : Prop extends
    StandsBetween word t before after where
  /-- Every place of the word has at least as much before it. -/
  length_le : ∀ {before' after'}, StandsBetween word t before' after' →
    before.length ≤ before'.length

variable {word t before after : Text}

/-- Where a whole word stands there is a run. -/
theorem runs_of_standsBetween (hword : IsWord word) (h : StandsBetween word t before after) :
    runs t = runs before ++ word :: runs after := by
  have hafter : runs (word ++ after) = word :: runs after := by
    rw [runs_append, runs_of_isWord hword, List.singleton_append]
    intro c hc d hd
    rw [hword.2 c (List.mem_of_getLast? hc), h.after_apart d hd]
    decide
  rw [h.eq_append, runs_append, hafter]
  intro c hc d hd
  obtain ⟨first, others, rfl⟩ := List.exists_cons_of_ne_nil hword.1
  obtain rfl : first = d := by simpa using hd
  rw [h.before_apart c hc, hword.2 first List.mem_cons_self]
  decide

/-- Where a word is a run it stands as a whole word, and the text before it has the runs before. -/
theorem standsBetween_of_runs {front back : List Text} (hword : IsWord word)
    (h : runs t = front ++ word :: back) :
    StandsBetween word t front.flatten back.flatten ∧ runs front.flatten = front := by
  have hruns := h
  rw [runs_eq_splitBy, List.splitBy_eq_iff, List.isChain_append, List.isChain_cons] at hruns
  obtain ⟨rfl, hne, hrun, hfront, ⟨hback, -⟩, hmeet⟩ := hruns
  refine ⟨⟨by simp, fun c hc => ?_, fun c hc => ?_⟩, ?_⟩
  · -- The last run before the word is of other characters, and so is its last character.
    obtain ⟨run, hrunLast⟩ : ∃ run, front.getLast? = some run := by
      cases hlast : front.getLast? with
      | none => simp [List.getLast?_eq_none_iff.1 hlast] at hc
      | some run => exact ⟨run, rfl⟩
    obtain ⟨hrunNe, _, hborder⟩ := hmeet run hrunLast word rfl
    obtain ⟨others, rfl⟩ := List.getLast?_eq_some_iff.1 hrunLast
    rw [List.flatten_append, List.flatten_singleton,
      List.getLast?_append_of_ne_nil _ hrunNe, List.getLast?_eq_some_getLast hrunNe] at hc
    obtain rfl : run.getLast hrunNe = c := by simpa using hc
    simpa [alike, hword.2 _ (List.head_mem _)] using hborder
  · -- Likewise the first character of the first run after it.
    obtain ⟨run, others, rfl⟩ : ∃ run others, back = run :: others :=
      List.exists_cons_of_ne_nil fun hnil => by simp [hnil] at hc
    obtain ⟨_, hrunNe, hborder⟩ := hback run rfl
    rw [List.flatten_cons, List.head?_append_of_ne_nil _ hrunNe,
      List.head?_eq_some_head hrunNe] at hc
    obtain rfl : run.head hrunNe = c := by simpa using hc
    simpa [alike, hword.2 _ (List.getLast_mem _)] using hborder
  · rw [runs_eq_splitBy]
    refine List.splitBy_flatten (fun hmem => hne (List.mem_append_left _ hmem)) (fun run hmem => ?_)
      hfront
    exact hrun run (List.mem_append_left _ hmem)

/-- A word is among the runs exactly if it stands somewhere as a whole word. -/
theorem mem_runs_iff (hword : IsWord word) : word ∈ runs t ↔ HasWord word t := by
  constructor
  · intro h
    obtain ⟨front, back, hruns⟩ := List.append_of_mem h
    exact ⟨_, _, (standsBetween_of_runs hword hruns).1⟩
  · rintro ⟨before, after, h⟩
    rw [runs_of_standsBetween hword h]
    exact List.mem_append_right _ List.mem_cons_self

/-- Before the first place of a word it stands nowhere. -/
theorem IsFirst.not_hasWord (hword : IsWord word) (h : IsFirst word t before after) :
    ¬HasWord word before := by
  rintro ⟨before', after', h'⟩
  -- A place in the text before is one in the whole text, and further to the front.
  have hplace : StandsBetween word t before' (after' ++ (word ++ after)) := by
    refine ⟨?_, h'.before_apart, fun c hc => ?_⟩
    · rw [h.eq_append, h'.eq_append]
      simp only [List.append_assoc]
    · cases after' with
      | nil =>
          -- the word would end where another one begins
          obtain ⟨d, hd, hno⟩ := hword.exists_getLast?
          have hlast : d ∈ before.getLast? := by
            rw [h'.eq_append, List.append_nil, List.getLast?_append_of_ne_nil _ hword.1]
            exact hd
          exact absurd (h.before_apart d hlast) hno
      | cons d after' => exact h'.after_apart c hc
  have hle := h.length_le hplace
  rw [h'.eq_append, List.length_append, List.length_append] at hle
  have hpos := List.length_pos_of_ne_nil hword.1
  omega

/-- If a word stands nowhere before one of its places, every place is at least as far back. -/
theorem StandsBetween.length_le (hword : IsWord word) (h : StandsBetween word t before after)
    (hno : ¬HasWord word before) {before' after' : Text}
    (h' : StandsBetween word t before' after') :
    before.length ≤ before'.length := by
  rw [← mem_runs_iff hword] at hno
  -- Both places are runs of the text, and the word is not among the runs before the first of them.
  have hruns := (runs_of_standsBetween hword h).symm.trans (runs_of_standsBetween hword h')
  obtain ⟨middle, hmiddle⟩ : (runs before).IsPrefix (runs before') := by
    rcases List.append_eq_append_iff.1 hruns with ⟨middle, hmid, -⟩ | ⟨middle, hmid, hrest⟩
    · exact ⟨middle, hmid.symm⟩
    · cases middle with
      | nil => exact ⟨[], by simpa using hmid⟩
      | cons run middle =>
          obtain ⟨rfl, -⟩ := List.cons.inj hrest
          exact absurd (hmid ▸ List.mem_append_right _ List.mem_cons_self) hno
  rw [← flatten_runs before', ← hmiddle, List.flatten_append, flatten_runs, List.length_append]
  exact Nat.le_add_right _ _

/-- A word stands first where none of its kind stands before. -/
theorem isFirst_iff (hword : IsWord word) :
    IsFirst word t before after ↔ StandsBetween word t before after ∧ ¬HasWord word before := by
  constructor
  · intro h
    exact ⟨h.toStandsBetween, h.not_hasWord hword⟩
  · rintro ⟨h, hno⟩
    exact ⟨h, h.length_le hword hno⟩

/-! ## Cuts -/

/-- Runs are cut at the first one that is the word. -/
theorem cutAtRun?_eq_some_iff {rs : List Text} :
    cutAtRun? word rs = some (before, after) ↔
      ∃ front back, rs = front ++ word :: back ∧ word ∉ front
        ∧ front.flatten = before ∧ back.flatten = after := by
  induction rs generalizing before with
  | nil => simp [cutAtRun?]
  | cons run others ih =>
      rw [cutAtRun?]
      by_cases hrun : run = word
      · rw [if_pos hrun, hrun, Option.some_inj, Prod.mk.injEq]
        constructor
        · rintro ⟨rfl, rfl⟩
          exact ⟨[], others, rfl, List.not_mem_nil, rfl, rfl⟩
        · rintro ⟨front, back, heq, hno, rfl, rfl⟩
          cases front with
          | nil => exact ⟨rfl, by rw [(List.cons.inj heq).2]⟩
          | cons first front =>
              rw [(List.cons.inj heq).1] at hno
              exact absurd List.mem_cons_self hno
      · -- a run that is not the word stands before the cut
        rw [if_neg hrun]
        simp only [Option.map_eq_some_iff, Prod.mk.injEq, Prod.exists]
        constructor
        · rintro ⟨inner, outer, hcut, rfl, rfl⟩
          obtain ⟨front, back, rfl, hno, rfl, rfl⟩ := ih.1 hcut
          exact ⟨run :: front, back, rfl, by simp [hno, Ne.symm hrun], rfl, rfl⟩
        · rintro ⟨front, back, heq, hno, rfl, rfl⟩
          cases front with
          | nil => exact absurd (List.cons.inj heq).1 hrun
          | cons first front =>
              obtain ⟨rfl, rfl⟩ := List.cons.inj heq
              rw [List.mem_cons, not_or] at hno
              exact ⟨front.flatten, back.flatten, ih.2 ⟨front, back, rfl, hno.2, rfl, rfl⟩, rfl,
                rfl⟩

/-- Runs are not cut exactly if none of them is the word. -/
theorem cutAtRun?_eq_none_iff {rs : List Text} : cutAtRun? word rs = none ↔ word ∉ rs := by
  induction rs with
  | nil => simp [cutAtRun?]
  | cons run others ih =>
      rw [cutAtRun?, List.mem_cons, not_or, ← ih]
      split
      · next h => simp [h]
      · next h => simp [Ne.symm h]

/-- A text is cut at the first place where the word stands. -/
theorem cutAtWord?_eq_some_iff (hword : IsWord word) :
    cutAtWord? word t = some (before, after) ↔ IsFirst word t before after := by
  rw [cutAtWord?, cutAtRun?_eq_some_iff, isFirst_iff hword]
  constructor
  · rintro ⟨front, back, hruns, hno, rfl, rfl⟩
    obtain ⟨hstands, hfront⟩ := standsBetween_of_runs hword hruns
    refine ⟨hstands, ?_⟩
    rw [← mem_runs_iff hword, hfront]
    exact hno
  · rintro ⟨hstands, hno⟩
    rw [← mem_runs_iff hword] at hno
    exact ⟨_, _, runs_of_standsBetween hword hstands, hno, flatten_runs before, flatten_runs after⟩

/-- A text is not cut exactly if the word stands nowhere in it. -/
theorem cutAtWord?_eq_none_iff (hword : IsWord word) :
    cutAtWord? word t = none ↔ ¬HasWord word t := by
  rw [cutAtWord?, cutAtRun?_eq_none_iff, mem_runs_iff hword]

/-- Characters that are not of words add no word at the end of a text. -/
theorem hasWord_of_append (hword : IsWord word) (hafter : ∀ c ∈ after, isWord c = false)
    (h : HasWord word (t ++ after)) : HasWord word t := by
  obtain ⟨before, rest, hstands⟩ := h
  have hsplit := hstands.eq_append
  rw [← List.append_assoc] at hsplit
  rcases List.append_eq_append_iff.1 hsplit with ⟨middle, hmid, hrest⟩ | ⟨middle, hmid, hrest⟩
  · cases middle with
    | nil =>
        refine ⟨before, [], ⟨?_, hstands.before_apart, by simp⟩⟩
        rw [List.append_nil] at hmid ⊢
        exact hmid.symm
    | cons c middle =>
        -- the word would end with one of these characters
        obtain ⟨d, hd, hno⟩ := hword.exists_getLast?
        have hlast : (c :: middle).getLast? = some d := by
          have hends := congrArg List.getLast? hmid
          rw [List.getLast?_append_of_ne_nil _ hword.1,
            List.getLast?_append_of_ne_nil _ (List.cons_ne_nil c middle)] at hends
          exact hends.symm.trans hd
        have hmem : d ∈ after := hrest ▸ List.mem_append_left _ (List.mem_of_getLast? hlast)
        exact absurd (hafter d hmem) hno
  · refine ⟨before, middle, ⟨?_, hstands.before_apart, fun c hc => ?_⟩⟩
    · rw [hmid, List.append_assoc]
    · refine hstands.after_apart c ?_
      rw [hrest, List.head?_append, hc]
      rfl

/-! ## Replacing -/

variable {old new : Text}

/-- Words are replaced on both sides of a border between words and other characters. -/
theorem replaceWord_append (h : ∀ c ∈ before.getLast?, ∀ d ∈ after.head?, isWord c ≠ isWord d) :
    replaceWord old new (before ++ after)
      = replaceWord old new before ++ replaceWord old new after := by
  rw [replaceWord, runs_append h, List.flatMap_append]
  rfl

/-- Words are replaced around a word, and it is replaced itself if it is the old one. -/
theorem replaceWord_of_standsBetween (hword : IsWord word) (h : StandsBetween word t before after) :
    replaceWord old new t = replaceWord old new before
      ++ ((if word = old then new else word) ++ replaceWord old new after) := by
  rw [replaceWord, runs_of_standsBetween hword h, List.flatMap_append, List.flatMap_cons]
  rfl

/-- Where the old word does not stand nothing is replaced. -/
theorem replaceWord_of_not_hasWord (hold : IsWord old) (h : ¬HasWord old t) :
    replaceWord old new t = t := by
  rw [← mem_runs_iff hold] at h
  have hrun : ∀ run ∈ runs t, (if run = old then new else run) = run := by
    intro run hrun
    refine if_neg ?_
    rintro rfl
    exact h hrun
  calc replaceWord old new t
      = (runs t).flatMap id := List.flatMap_congr hrun
    _ = t := by rw [List.flatMap_id, flatten_runs]

/-- Among characters that are not of words nothing is replaced. -/
theorem replaceWord_of_forall_not (hold : IsWord old) (h : ∀ c ∈ t, isWord c = false) :
    replaceWord old new t = t := by
  refine replaceWord_of_not_hasWord hold ?_
  rintro ⟨before, after, hstands⟩
  obtain ⟨c, others, rfl⟩ := List.exists_cons_of_ne_nil hold.1
  have hmem : c ∈ t := by
    rw [hstands.eq_append]
    simp
  exact absurd (h c hmem) (hold.ne_false List.mem_cons_self)

/-- A text that does not begin with a word does not begin with one when words are replaced. -/
theorem head?_replaceWord (hold : IsWord old) (h : ∀ c ∈ t.head?, isWord c = false) :
    ∀ c ∈ (replaceWord old new t).head?, isWord c = false := by
  intro c hc
  cases t with
  | nil => exact absurd hc (by simp [replaceWord])
  | cons d rest =>
      -- the characters up to the first word are a part of their own
      have hsplit := List.takeWhile_append_dropWhile (p := fun c => !isWord c) (l := d :: rest)
      have hd : isWord d = false := h d rfl
      have hfront : ∀ c ∈ (d :: rest).takeWhile (!isWord ·), isWord c = false := fun c hc => by
        simpa using List.mem_takeWhile_imp hc
      rw [← hsplit, replaceWord_append, replaceWord_of_forall_not hold hfront,
        List.takeWhile_cons_of_pos (by simp [hd])] at hc
      · obtain rfl : d = c := by simpa using hc
        exact hd
      · intro x hx y hy
        have hy' := List.head?_dropWhile_not (fun c => !isWord c) (d :: rest)
        rw [hy] at hy'
        rw [hfront x (List.mem_of_getLast? hx)]
        simpa using hy'

/-- Replacing a word adds no characters but those of the new one. -/
theorem mem_of_mem_replaceWord {c : Char} (h : c ∈ replaceWord old new t) : c ∈ t ∨ c ∈ new := by
  obtain ⟨run, hrun, hc⟩ := List.mem_flatMap.1 h
  split at hc
  · exact .inr hc
  · refine .inl ?_
    rw [← flatten_runs t]
    exact List.mem_flatten.2 ⟨run, hrun, hc⟩

/-- A text that is not empty is not empty when words are replaced by one that is not. -/
theorem replaceWord_ne_nil (h : t ≠ []) (hnew : new ≠ []) : replaceWord old new t ≠ [] := by
  intro hnil
  refine h ?_
  rw [← flatten_runs t, List.flatten_eq_nil_iff]
  intro run hrun
  have hempty := List.flatMap_eq_nil_iff.1 hnil run hrun
  split at hempty
  · exact absurd hempty hnew
  · exact hempty

/-- Where a word is replaced by a word, the runs of the text are those before with it replaced. -/
theorem runs_replaceWord (hold : IsWord old) (hnew : IsWord new) (t : Text) :
    runs (replaceWord old new t) = (runs t).map fun run => if run = old then new else run := by
  have hruns := runs_eq_splitBy t
  obtain ⟨-, hne, hchain, hborder⟩ := List.splitBy_eq_iff.1 hruns.symm
  -- A run stays of the same kind, so its last and its first character do too.
  have hends : ∀ run (h : run ≠ []), ∃ h' : (if run = old then new else run) ≠ [],
      isWord ((if run = old then new else run).getLast h') = isWord (run.getLast h)
        ∧ isWord ((if run = old then new else run).head h') = isWord (run.head h) := by
    intro run h
    by_cases hrun : run = old
    · subst hrun
      simp only [if_true]
      refine ⟨hnew.1, ?_, ?_⟩
      · rw [hnew.2 _ (List.getLast_mem _), hold.2 _ (List.getLast_mem _)]
      · rw [hnew.2 _ (List.head_mem _), hold.2 _ (List.head_mem _)]
    · simp [hrun, h]
  rw [runs_eq_splitBy (replaceWord old new t), replaceWord, List.flatMap_def]
  refine List.splitBy_flatten ?_ ?_ ?_
  · intro hmem
    obtain ⟨run, hrun, hnil⟩ := List.mem_map.1 hmem
    obtain ⟨h', -⟩ := hends run (fun h => hne (h ▸ hrun))
    exact h' hnil
  · intro run hrun
    obtain ⟨run, hmem, rfl⟩ := List.mem_map.1 hrun
    split
    · refine List.isChain_iff_getElem.2 fun i hi => ?_
      simp [alike, hnew.2]
    · exact hchain run hmem
  · refine (List.isChain_map _).2 (hborder.imp ?_)
    rintro run next ⟨hrun, hnext, halike⟩
    obtain ⟨hrun', hlast, -⟩ := hends run hrun
    obtain ⟨hnext', -, hhead⟩ := hends next hnext
    refine ⟨hrun', hnext', ?_⟩
    rw [alike, hlast, hhead]
    exact halike

/-- A text in which a word is replaced ends with no other character than before, unless the new one
ends with it. -/
theorem getLast?_replaceWord (hnew : new ≠ []) {c : Char} (hc : new.getLast? ≠ some c)
    (h : (replaceWord old new t).getLast? = some c) : t.getLast? = some c := by
  rcases List.eq_nil_or_concat (runs t) with hnil | ⟨front, run, hruns⟩
  · rw [replaceWord, hnil] at h
    cases h
  · rw [List.concat_eq_append] at hruns
    have hne : run ≠ [] := by
      refine List.ne_nil_of_mem_splitBy (r := alike) (l := t) ?_
      rw [← runs_eq_splitBy, hruns]
      simp
    have ht : t.getLast? = run.getLast? := by
      rw [← flatten_runs t, hruns, List.flatten_append, List.flatten_singleton,
        List.getLast?_append_of_ne_nil _ hne]
    rw [replaceWord, hruns, List.flatMap_append, List.flatMap_singleton] at h
    rw [ht]
    by_cases hrun : run = old
    · rw [if_pos hrun, List.getLast?_append_of_ne_nil _ hnew] at h
      exact absurd h hc
    · rw [if_neg hrun, List.getLast?_append_of_ne_nil _ hne] at h
      exact h

end LintMend.Text

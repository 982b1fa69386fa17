import LintMend.Launch.Quote
import LintMend.Proofs.Text.Pieces

/-! # Words in a shell line

What the reader of a shell line makes of quoted words, and of options that are put in as they are
written.
* `Shell.splitFrom_quote`: a quoted word is read as the word, whatever it holds.
* `Shell.IsOptions`: options made of characters that mean nothing to a shell, and of blanks.
* `Shell.splitFrom_options`: such options are read as their words. -/

namespace LintMend.Shell

/-! ## Characters -/

/-- A character that needs no quotes is none of those that mean something to the reader. -/
theorem plain_of_isSafe {c : Char} (h : isSafe c = true) :
    isBlank c = false ∧ c ≠ singleQuote ∧ c ≠ doubleQuote ∧ c ≠ '\\' := by
  have hno : ∀ d ∈ [' ', '\t', '\n', '\r', singleQuote, doubleQuote, '\\'], c ≠ d := by
    rintro d hd rfl
    revert h
    simp only [List.mem_cons, List.not_mem_nil, or_false] at hd
    rcases hd with rfl | rfl | rfl | rfl | rfl | rfl | rfl <;> decide
  refine ⟨?_, hno _ (by simp), hno _ (by simp), hno _ (by simp)⟩
  simp [isBlank, hno]

/-- Nor is it a blank of any other width. -/
theorem isBlank_eq_false_of_isSafe {c : Char} (h : isSafe c = true) : Text.isBlank c = false := by
  cases hblank : Text.isBlank c with
  | false => rfl
  | true =>
      have hno := Text.of_isBlank (P := fun c => isSafe c = false) (by decide) hblank
      exact absurd (h.symm.trans hno) (by decide)

/-- A character of options that are put into a line as they are written. -/
def isOptionChar (c : Char) : Bool := isSafe c || c == ' ' || c == '\t'

/-- Options that hold nothing but plain characters, spaces and tabs. -/
def IsOptions (options : Text) : Prop := ∀ c ∈ options, isOptionChar c = true

instance (options : Text) : Decidable (IsOptions options) :=
  decidable_of_iff (options.all isOptionChar = true) List.all_eq_true

/-- What is not plain in options is a blank, to the shell and to everyone. -/
theorem isSafe_or_isBlank_of_isOptionChar {c : Char} (h : isOptionChar c = true) :
    isSafe c = true ∨ isBlank c = true ∧ Text.isBlank c = true := by
  rw [isOptionChar, Bool.or_eq_true, Bool.or_eq_true] at h
  rcases h with (hsafe | hspace) | htab
  · exact .inl hsafe
  · rw [eq_of_beq hspace]
    exact .inr (by decide)
  · rw [eq_of_beq htab]
    exact .inr (by decide)

/-! ## Reading -/

/-- A plain character belongs to the word. -/
theorem splitFrom_safe {c : Char} (h : isSafe c = true) (word : Option Text) (rest : Text) :
    splitFrom .open word (c :: rest) = splitFrom .open (some (word.getD [] ++ [c])) rest := by
  obtain ⟨hblank, hsingle, hdouble, hescape⟩ := plain_of_isSafe h
  simp [splitFrom, hblank, hsingle, hdouble, hescape]

/-- A blank ends the word that has begun, if one has. -/
theorem splitFrom_blank {c : Char} (h : isBlank c = true) (word : Option Text) (rest : Text) :
    splitFrom .open word (c :: rest) = (splitFrom .open none rest).map (word.toList ++ ·) id := by
  simp only [splitFrom, h, if_true]
  rfl

/-- Plain characters belong to the word. -/
theorem splitFrom_append_of_safe {run : Text} (h : ∀ c ∈ run, isSafe c = true) (begun rest : Text) :
    splitFrom .open (some begun) (run ++ rest) = splitFrom .open (some (begun ++ run)) rest := by
  induction run generalizing begun with
  | nil => rw [List.nil_append, List.append_nil]
  | cons c run ih =>
      rw [List.forall_mem_cons] at h
      rw [List.cons_append, splitFrom_safe h.1, Option.getD_some, ih h.2, List.append_assoc,
        List.singleton_append]

/-- Between single quotes a character is read as it was before it was quoted. -/
theorem splitFrom_quotedChar (c : Char) (begun rest : Text) :
    splitFrom .single (some begun) (quotedChar c ++ rest)
      = splitFrom .single (some (begun ++ [c])) rest := by
  by_cases hc : c = singleQuote
  · -- out of the single quotes, into double ones for the character, and back
    subst hc
    rw [quotedChar, if_pos rfl]
    simp [splitFrom, isBlank, singleQuote, doubleQuote]
  · rw [quotedChar, if_neg hc, List.singleton_append]
    simp [splitFrom, hc]

/-- Between single quotes a text is read as it was before it was quoted. -/
theorem splitFrom_flatMap_quotedChar (word begun rest : Text) :
    splitFrom .single (some begun) (word.flatMap quotedChar ++ rest)
      = splitFrom .single (some (begun ++ word)) rest := by
  induction word generalizing begun with
  | nil => rw [List.flatMap_nil, List.nil_append, List.append_nil]
  | cons c word ih =>
      rw [List.flatMap_cons, List.append_assoc, splitFrom_quotedChar, ih, List.append_assoc,
        List.singleton_append]

/-- A quoted word is read as the word. -/
theorem splitFrom_quote (word rest : Text) :
    splitFrom .open none (quote word ++ rest) = splitFrom .open (some word) rest := by
  rw [quote]
  split
  · next h =>
      obtain ⟨hne, hsafe⟩ := h
      obtain ⟨c, run, rfl⟩ := List.exists_cons_of_ne_nil hne
      rw [List.all_eq_true, List.forall_mem_cons] at hsafe
      rw [List.cons_append, splitFrom_safe hsafe.1, splitFrom_append_of_safe hsafe.2]
      rfl
  · have hopen : splitFrom .open none (singleQuote :: (word.flatMap quotedChar
          ++ singleQuote :: rest))
        = splitFrom .single (some []) (word.flatMap quotedChar ++ singleQuote :: rest) := by
      simp [splitFrom, isBlank, singleQuote]
    rw [List.cons_append, List.append_assoc, List.singleton_append, hopen,
      splitFrom_flatMap_quotedChar, List.nil_append]
    simp [splitFrom]

/-- A quoted word before a space is a word by itself. -/
theorem splitFrom_quote_space (word rest : Text) :
    splitFrom .open none (quote word ++ ' ' :: rest)
      = (splitFrom .open none rest).map ([word] ++ ·) id := by
  rw [splitFrom_quote, splitFrom_blank (by decide)]
  rfl

/-! ## Options -/

/-- What has been read of a word, if that is anything. -/
def begunWord (begun : Text) : Option Text := if begun = [] then none else some begun

/-- What has been read of a word is what it will be. -/
theorem getD_begunWord (begun : Text) : (begunWord begun).getD [] = begun := by
  rw [begunWord]
  split
  · next h => exact h.symm
  · rfl

/-- What has been read of a plain word is its one word, if there is any. -/
theorem toList_begunWord {begun : Text} (h : ∀ c ∈ begun, isSafe c = true) :
    (begunWord begun).toList = Text.words begun := by
  rw [begunWord]
  split
  · next hnil => rw [hnil]; rfl
  · next hne =>
      rw [Text.words_of_forall_not hne fun c hc => isBlank_eq_false_of_isSafe (h c hc)]
      rfl

/-- Options behind a word that has begun are read as the words of both together. -/
theorem splitFrom_begunWord {options : Text} (h : IsOptions options) (begun : Text)
    (hbegun : ∀ c ∈ begun, isSafe c = true) (rest : Text) :
    splitFrom .open (begunWord begun) (options ++ ' ' :: rest)
      = (splitFrom .open none rest).map (Text.words (begun ++ options) ++ ·) id := by
  -- The word that has begun takes in the plain characters up to the next blank.
  induction options generalizing begun with
  | nil =>
      rw [List.nil_append, splitFrom_blank (by decide), toList_begunWord hbegun, List.append_nil]
  | cons c options ih =>
      rw [IsOptions, List.forall_mem_cons] at h
      rw [List.cons_append]
      rcases isSafe_or_isBlank_of_isOptionChar h.1 with hsafe | ⟨hshell, hblank⟩
      · have hlonger : ∀ d ∈ begun ++ [c], isSafe d = true := by
          simpa [or_imp, forall_and] using ⟨hbegun, hsafe⟩
        have hbegins : some (begun ++ [c]) = begunWord (begun ++ [c]) := by
          rw [begunWord, if_neg (by simp)]
        rw [splitFrom_safe hsafe, getD_begunWord, hbegins, ih h.2 _ hlonger, List.append_assoc,
          List.singleton_append]
      · have hnext := ih h.2 [] (by simp)
        rw [begunWord, if_pos rfl, List.nil_append] at hnext
        rw [splitFrom_blank hshell, hnext, toList_begunWord hbegun,
          Text.words_append_cons hblank, Prod.map_map]
        congr 1
        funext others
        rw [Function.comp_apply, List.append_assoc]

/-- Options before a space are read as their words. -/
theorem splitFrom_options {options : Text} (h : IsOptions options) (rest : Text) :
    splitFrom .open none (options ++ ' ' :: rest)
      = (splitFrom .open none rest).map (Text.words options ++ ·) id :=
  splitFrom_begunWord h [] (by simp) rest

end LintMend.Shell

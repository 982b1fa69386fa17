import LintMend.Mend.Template
import LintMend.Proofs.Text.WholeWord

/-! # Templates that stand for themselves

A template stands for itself if each of its backslashes comes before a character that makes no
escape of it, and all other templates stand for something else or for nothing.
* `Template.isLiteral`: whether a template is of the first kind; `isLiteral_eq_all` says it by its
  tokens.
* `Template.weight`: a measure of texts in which a backslash counts for more than a whole match, so
  that every escape weighs more than what it stands for.
* `Template.weight_lt_of_expand`: a template that is not of the first kind stands for less.
* `Template.expand_eq_self_iff`: a template is expanded to itself exactly if it is.
* `Template.isLiteral_of_isWord`: words are of the first kind. -/

namespace LintMend.Template

open Text

variable {whole t : Text} {c : Char} {more n : Nat} {ts rest : List Token}

/-- Whether a token stands for its own characters. -/
def Token.isLiteral : Token → Bool
  | plain _ => true
  | escape c => !c.isAlphanum && c != '\\'
  | dangling => false

/-- Whether each backslash of a template comes before a character that is neither a letter, a digit
nor a backslash. -/
def isLiteral : Text → Bool
  | [] => true
  | c :: rest =>
      (c != '\\' || rest.head?.any fun d => !d.isAlphanum && d != '\\') && isLiteral rest

/-- A template is such a one if all its tokens stand for their own characters. -/
theorem isLiteral_eq_all (t : Text) : isLiteral t = (tokens t).all Token.isLiteral := by
  fun_induction tokens t with
  | case1 => rfl
  | case2 => rfl
  | case3 c h => simp [isLiteral, Token.isLiteral, h]
  | case4 d rest ih =>
      by_cases hd : d = '\\'
      · subst hd
        simp [isLiteral, Token.isLiteral]
      · have hne : (d != '\\') = true := bne_iff_ne.2 hd
        simp [isLiteral, Token.isLiteral, hne, ← ih]
  | case5 c d rest h ih =>
      rw [List.all_cons, ← ih]
      simp [isLiteral, Token.isLiteral, h]

/-! ## What literal tokens stand for -/

/-- No backslash is left over among tokens that stand for their own characters. -/
theorem meetsDangling_of_isLiteral (h : ∀ t ∈ ts, t.isLiteral = true) (taken : Nat) :
    meetsDangling taken ts = false := by
  rw [meetsDangling, ← Bool.not_eq_true, List.contains_iff_mem]
  intro hmem
  exact absurd (h _ (List.mem_of_mem_take hmem)) (by decide)

/-- An escape that is none means its two characters. -/
theorem escapeMeaning_of_isLiteral (h : (Token.escape c).isLiteral = true) (whole : Text)
    (rest : List Token) : escapeMeaning whole c rest = .text ['\\', c] 0 := by
  have hc : c.isAlphanum = false ∧ c ≠ '\\' := by simpa [Token.isLiteral] using h
  have halpha : c.isAlpha = false ∧ c.isDigit = false := by
    simpa [Char.isAlphanum] using hc.1
  have hne : ∀ d : Char, d.isAlphanum = true → c ≠ d := fun d hd hcd => by
    rw [hcd, hd] at hc
    exact absurd hc.1 (by decide)
  have hsimple : simpleEscape? c = none := by
    rw [simpleEscape?]
    simp [hne 'a' rfl, hne 'b' rfl, hne 'f' rfl, hne 'n' rfl, hne 'r' rfl, hne 't' rfl,
      hne 'v' rfl, hc.2]
  rw [escapeMeaning, if_neg (hne 'g' rfl), if_neg (hne '0' rfl), halpha.2, hsimple, halpha.1]
  rfl

/-- Tokens that stand for their own characters are expanded to them. -/
theorem expandFrom_of_isLiteral (h : ∀ t ∈ ts, t.isLiteral = true) (whole : Text)
    (offset : Nat) : expandFrom whole 0 offset ts = .ok (ts.flatMap Token.text) := by
  induction ts generalizing offset with
  | nil => rfl
  | cons t rest ih =>
      rw [List.forall_mem_cons] at h
      have hnone := meetsDangling_of_isLiteral h.2 0
      cases t with
      | plain c =>
          rw [expandFrom, hnone, ih h.2]
          rfl
      | escape c =>
          rw [expandFrom, escapeMeaning_of_isLiteral h.1]
          dsimp only
          rw [hnone, ih h.2]
          rfl
      | dangling => exact absurd h.1 (by decide)

/-! ## What other tokens stand for -/

/-- A group stands for the whole match. -/
theorem eq_of_groupMeaning {name : Text} (h : groupMeaning whole name more = .text t n) :
    t = whole := by
  rw [groupMeaning] at h
  split at h
  · cases h
  · split at h
    · cases h
      rfl
    · cases h
    · cases h

/-- So does a reference to one. -/
theorem eq_of_namedMeaning (h : namedMeaning whole rest = .text t more) : t = whole := by
  rw [namedMeaning] at h
  split at h
  · cases h
  · dsimp only at h
    split at h
    · split at h <;> cases h
    · split at h
      · cases h
      · exact eq_of_groupMeaning h

/-- A numbered escape stands for one character. -/
theorem exists_eq_of_numberedMeaning (h : numberedMeaning c rest = .text t more) :
    ∃ d, t = [d] := by
  rw [numberedMeaning] at h
  dsimp only at h
  split at h
  · split at h
    · cases h
    · cases h
      exact ⟨_, rfl⟩
  · split at h <;> cases h

/-- An escape stands for the whole match or for one character, unless it stands for its own two. -/
theorem cases_of_escapeMeaning (h : escapeMeaning whole c rest = .text t more) :
    t = whole ∨ (∃ d, t = [d]) ∨ t = ['\\', c] ∧ more = 0 ∧ (Token.escape c).isLiteral = true := by
  rw [escapeMeaning] at h
  split at h
  · exact .inl (eq_of_namedMeaning h)
  · split at h
    · cases h
      exact .inr (.inl ⟨_, rfl⟩)
    · next hzero =>
        split at h
        · exact .inr (.inl (exists_eq_of_numberedMeaning h))
        · next hdigit =>
            cases hsimple : simpleEscape? c with
            | some d =>
                rw [hsimple] at h
                cases h
                exact .inr (.inl ⟨d, rfl⟩)
            | none =>
                rw [hsimple] at h
                dsimp only at h
                split at h
                · cases h
                · next halpha =>
                    cases h
                    have hslash : c ≠ '\\' := by
                      rintro rfl
                      exact absurd hsimple (by decide)
                    refine .inr (.inr ⟨rfl, rfl, ?_⟩)
                    simp [Token.isLiteral, Char.isAlphanum, hdigit, halpha, hslash]

/-! ## Weights -/

/-- The weight of a text in which a backslash counts `heavy` more than any other character. -/
def weight (heavy : Nat) (t : Text) : Nat := t.length + heavy * t.count '\\'

@[simp] theorem weight_append (heavy : Nat) (t u : Text) :
    weight heavy (t ++ u) = weight heavy t + weight heavy u := by
  rw [weight, weight, weight, List.length_append, List.count_append, Nat.mul_add]
  omega

/-- A text weighs no less with more before it. -/
theorem weight_le_append (heavy : Nat) (t u : Text) : weight heavy u ≤ weight heavy (t ++ u) := by
  rw [weight_append]
  exact Nat.le_add_left _ _

/-- The weight of an escape is more than that of what it stands for, where a backslash counts for
more than the whole match. -/
theorem weight_lt_of_escapeMeaning (hwhole : '\\' ∉ whole)
    (h : escapeMeaning whole c rest = .text t more) (hc : (Token.escape c).isLiteral = false) :
    weight (whole.length + 1) t < weight (whole.length + 1) ['\\', c] := by
  have hescape : whole.length + 1 + 2 ≤ weight (whole.length + 1) ['\\', c] := by
    rw [weight, List.count_cons_self, Nat.mul_add]
    simp
    omega
  refine Nat.lt_of_lt_of_le ?_ hescape
  rcases cases_of_escapeMeaning h with rfl | ⟨d, rfl⟩ | ⟨-, -, hliteral⟩
  · rw [weight, List.count_eq_zero_of_not_mem hwhole]
    omega
  · have hcount : [d].count '\\' ≤ 1 := List.count_le_length
    have hle := Nat.mul_le_mul_left (whole.length + 1) hcount
    rw [weight, List.length_singleton]
    omega
  · rw [hc] at hliteral
    cases hliteral

/-- Whether a text weighs less than some tokens, or is what they are and all of them stand for their
own characters. -/
def Weighs (whole t : Text) (ts : List Token) : Prop :=
  weight (whole.length + 1) t < weight (whole.length + 1) (ts.flatMap Token.text)
    ∨ (∀ token ∈ ts, token.isLiteral = true) ∧ t = ts.flatMap Token.text

/-- Such a text weighs no more than the tokens. -/
theorem Weighs.weight_le (h : Weighs whole t ts) :
    weight (whole.length + 1) t ≤ weight (whole.length + 1) (ts.flatMap Token.text) := by
  rcases h with hlt | ⟨-, rfl⟩
  · exact Nat.le_of_lt hlt
  · exact Nat.le_refl _

/-- A token that stands for its own characters weighs as much as they do. -/
theorem Weighs.cons {token : Token} (h : Weighs whole t ts) (htoken : token.isLiteral = true) :
    Weighs whole (token.text ++ t) (token :: ts) := by
  rcases h with hlt | ⟨hall, rfl⟩
  · refine .inl ?_
    rw [List.flatMap_cons, weight_append, weight_append]
    omega
  · exact .inr ⟨List.forall_mem_cons.2 ⟨htoken, hall⟩, rfl⟩

/-- What tokens stand for weighs less than they do, or they stand for their own characters. The
first `skip` of them count for nothing. -/
theorem weighs_of_expandFrom (hwhole : '\\' ∉ whole) {skip offset : Nat}
    (h : expandFrom whole skip offset ts = .ok t) : Weighs whole t (ts.drop skip) := by
  induction ts generalizing skip offset t with
  | nil =>
      have hnil : expandFrom whole skip offset [] = .ok [] := by cases skip <;> rfl
      rw [hnil] at h
      cases h
      exact .inr ⟨by simp, by simp⟩
  | cons token rest ih =>
      cases skip with
      | succ skip => exact ih h
      | zero =>
          rw [List.drop_zero]
          cases token with
          | dangling => cases h
          | plain c =>
              rw [expandFrom] at h
              split at h
              · cases h
              · cases hrest : expandFrom whole 0 (offset + 1) rest with
                | error fault => rw [hrest] at h; cases h
                | ok u =>
                    rw [hrest] at h
                    cases h
                    have hplain : (Token.plain c).isLiteral = true := rfl
                    exact (ih hrest).cons hplain
          | escape c =>
              rw [expandFrom] at h
              cases hmeaning : escapeMeaning whole c rest with
              | problem p more back =>
                  rw [hmeaning] at h
                  dsimp only at h
                  split at h <;> cases h
              | text first more =>
                  rw [hmeaning] at h
                  dsimp only at h
                  split at h
                  · cases h
                  · cases hrest : expandFrom whole more (offset + 2) rest with
                    | error fault => rw [hrest] at h; cases h
                    | ok u =>
                        rw [hrest] at h
                        cases h
                        cases hc : (Token.escape c).isLiteral with
                        | true =>
                            rw [escapeMeaning_of_isLiteral hc] at hmeaning
                            cases hmeaning
                            exact (ih hrest).cons hc
                        | false =>
                            -- the tokens that spell the escape weigh something too
                            have hfirst := weight_lt_of_escapeMeaning hwhole hmeaning hc
                            have hothers := (ih hrest).weight_le
                            have hspelled := weight_le_append (whole.length + 1)
                              ((rest.take more).flatMap Token.text)
                              ((rest.drop more).flatMap Token.text)
                            rw [← List.flatMap_append, List.take_append_drop] at hspelled
                            refine .inl ?_
                            rw [List.flatMap_cons, weight_append, weight_append]
                            exact Nat.add_lt_add_of_lt_of_le hfirst (hothers.trans hspelled)

/-- A template that does not stand for itself stands for what weighs less, if for anything. -/
theorem weight_lt_of_expand {template : Text} (hwhole : '\\' ∉ whole)
    (h : expand whole template = .ok t) (hliteral : isLiteral template = false) :
    weight (whole.length + 1) t < weight (whole.length + 1) template := by
  rw [expand] at h
  split at h
  · next u hexpand =>
      cases h
      have hweighs := weighs_of_expandFrom hwhole hexpand
      rw [List.drop_zero] at hweighs
      rcases hweighs with hlt | ⟨hall, -⟩
      · rwa [flatMap_text_tokens] at hlt
      · rw [isLiteral_eq_all, List.all_eq_true.2 hall] at hliteral
        cases hliteral
  · cases h

/-! ## Templates -/

/-- A template each of whose backslashes makes no escape is expanded to itself. -/
theorem expand_of_isLiteral {template : Text} (h : isLiteral template = true) (whole : Text) :
    expand whole template = .ok template := by
  rw [isLiteral_eq_all, List.all_eq_true] at h
  rw [expand, expandFrom_of_isLiteral h, flatMap_text_tokens]

/-- No other template is. -/
theorem expand_eq_self_iff {template : Text} (hwhole : '\\' ∉ whole) :
    expand whole template = .ok template ↔ isLiteral template = true := by
  refine ⟨fun h => ?_, fun h => expand_of_isLiteral h whole⟩
  by_contra hliteral
  rw [Bool.not_eq_true] at hliteral
  exact Nat.lt_irrefl _ (weight_lt_of_expand hwhole h hliteral)

/-- A word, which has no backslashes, stands for itself. -/
theorem isLiteral_of_isWord {word : Text} (h : IsWord word) : isLiteral word = true := by
  have hno : '\\' ∉ word := fun hmem => absurd (h.2 '\\' hmem) (by decide)
  clear h
  induction word with
  | nil => rfl
  | cons c word ih =>
      rw [List.mem_cons, not_or] at hno
      have hc : (c != '\\') = true := bne_iff_ne.2 (Ne.symm hno.1)
      rw [isLiteral, hc, ih hno.2]
      rfl

end LintMend.Template

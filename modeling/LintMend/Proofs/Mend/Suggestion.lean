import LintMend.Proofs.Mend.Renaming

/-! # Suggested guard names

A message on a header guard may ask for a name. The phrase that asks can stand in it several times,
and some of these places may lead to no name: the phrase has to be followed by blanks, and these by
a word.
* `GuardName.Asks`, `GuardName.AsksFirst`: a place at which a message asks for a name, and the
  leftmost of these places.
* `GuardName.afterAnyCase?_eq_some_iff`, `GuardName.asked?_eq_some_iff`: what is read at one place.
* `GuardName.suggested?_eq_some_iff`, `GuardName.suggested?_eq_none_iff`: by induction on the
  message, the name that is read from all of it.
* `GuardName.suggested?_leftmost`: the name is the word at the leftmost place, and the fix that is
  offered for it writes it as it is. -/

namespace LintMend

open Text

namespace GuardName

variable {message before spelled gap rest name t : Text} {c : Char}

/-! ## Places -/

/-- A character in lower case, as far as the plain set has cases. The long s counts as a letter
s. -/
def plainLetter (c : Char) : Char := if c = 'ſ' then 's' else c.toLower

/-- Whether a message asks for a name behind the text `before`: with the phrase in letters of either
case, then blanks, then the first character of a word. -/
structure Asks (message before spelled gap : Text) (c : Char) (rest : Text) : Prop where
  /-- The parts of the message. -/
  eq_append : message = before ++ (spelled ++ (gap ++ c :: rest))
  /-- The phrase. -/
  spelled : spelled.map plainLetter = "please use:".toList
  /-- At least one blank, and nothing but blanks. -/
  gap : IsRun isBlank gap
  /-- A word begins there. -/
  word : isWord c = true

/-- Whether a message asks for a name there and nowhere further to the front. -/
structure AsksFirst (message before spelled gap : Text) (c : Char) (rest : Text) : Prop extends
    Asks message before spelled gap c rest where
  /-- Every place has at least as much before it. -/
  length_le : ∀ {before' spelled' gap' c' rest'}, Asks message before' spelled' gap' c' rest' →
    before.length ≤ before'.length

/-- Whether a text begins with a word that ends there. -/
def BeginsWith (name t : Text) : Prop :=
  ∃ after, t = name ++ after ∧ (∀ d ∈ name, isWord d = true) ∧ ∀ d ∈ after.head?, isWord d = false

/-- The word at the front of a text is such a word. -/
theorem leadingWord_eq_iff_beginsWith : leadingWord t = name ↔ BeginsWith name t :=
  leadingWord_eq_iff

/-- The places behind the first character of a message are those in the rest of it. -/
theorem asks_cons_iff {first : Char} :
    Asks (first :: message) before spelled gap c rest ↔
      before = [] ∧ Asks (first :: message) [] spelled gap c rest
        ∨ ∃ others, before = first :: others ∧ Asks message others spelled gap c rest := by
  constructor
  · intro h
    cases before with
    | nil => exact .inl ⟨rfl, h⟩
    | cons d others =>
        obtain ⟨rfl, hmessage⟩ := List.cons.inj h.eq_append
        exact .inr ⟨others, rfl, hmessage, h.spelled, h.gap, h.word⟩
  · rintro (⟨rfl, h⟩ | ⟨others, rfl, h⟩)
    · exact h
    · exact ⟨congrArg (first :: ·) h.eq_append, h.spelled, h.gap, h.word⟩

/-- The leftmost place is at the front, or it is that of the rest if there is none at the front. -/
theorem asksFirst_cons_iff {first : Char} :
    AsksFirst (first :: message) before spelled gap c rest ↔
      before = [] ∧ Asks (first :: message) [] spelled gap c rest
        ∨ (∀ spelled' gap' c' rest', ¬Asks (first :: message) [] spelled' gap' c' rest')
          ∧ ∃ others, before = first :: others ∧ AsksFirst message others spelled gap c rest := by
  constructor
  · intro h
    rcases asks_cons_iff.1 h.toAsks with hfront | ⟨others, rfl, hothers⟩
    · exact .inl hfront
    · refine .inr ⟨fun spelled' gap' c' rest' hplace => ?_, others, rfl, hothers, fun hplace => ?_⟩
      · exact absurd (h.length_le hplace) (by simp)
      · exact Nat.le_of_succ_le_succ (h.length_le (asks_cons_iff.2 (.inr ⟨_, rfl, hplace⟩)))
  · rintro (⟨rfl, h⟩ | ⟨hnone, others, rfl, h⟩)
    · exact ⟨h, fun _ => Nat.zero_le _⟩
    · refine ⟨asks_cons_iff.2 (.inr ⟨others, rfl, h.toAsks⟩), fun hplace => ?_⟩
      rcases asks_cons_iff.1 hplace with ⟨-, hfront⟩ | ⟨others', rfl, hothers'⟩
      · exact absurd hfront (hnone _ _ _ _)
      · exact Nat.succ_le_succ (h.length_le hothers')

/-! ## Readers -/

/-- A letter in either case is one that has that letter in lower case. -/
theorem sameLetter_iff {p : Char} (hp : p ≠ 'ſ') : sameLetter p c = true ↔ plainLetter c = p := by
  rw [sameLetter, plainLetter, Bool.or_eq_true, Bool.and_eq_true, beq_iff_eq, beq_iff_eq,
    beq_iff_eq]
  by_cases hc : c = 'ſ'
  · have hlower : 'ſ'.toLower = 'ſ' := by decide
    rw [hc, hlower, if_pos rfl]
    constructor
    · rintro (hsame | ⟨rfl, -⟩)
      · exact absurd hsame.symm hp
      · rfl
    · rintro rfl
      exact .inr ⟨rfl, rfl⟩
  · rw [if_neg hc]
    exact or_iff_left fun h => hc h.2

/-- What follows a beginning in letters of either case. -/
theorem afterAnyCase?_eq_some_iff {beginning : Text} (h : 'ſ' ∉ beginning) :
    afterAnyCase? beginning t = some rest ↔
      ∃ spelled, t = spelled ++ rest ∧ spelled.map plainLetter = beginning := by
  induction beginning generalizing t with
  | nil => simp [afterAnyCase?, eq_comm]
  | cons p beginning ih =>
      rw [List.mem_cons, not_or] at h
      cases t with
      | nil => simp [afterAnyCase?]
      | cons d t =>
          rw [afterAnyCase?]
          by_cases hd : plainLetter d = p
          · rw [if_pos ((sameLetter_iff (Ne.symm h.1)).2 hd), ih h.2]
            constructor
            · rintro ⟨spelled, rfl, hspelled⟩
              exact ⟨d :: spelled, rfl, by rw [List.map_cons, hd, hspelled]⟩
            · rintro ⟨spelled, ht, hspelled⟩
              obtain ⟨e, others, rfl, -, hothers⟩ := List.map_eq_cons_iff.1 hspelled
              exact ⟨others, (List.cons.inj ht).2, hothers⟩
          · rw [if_neg fun hsame => hd ((sameLetter_iff (Ne.symm h.1)).1 hsame)]
            refine iff_of_false nofun ?_
            rintro ⟨spelled, ht, hspelled⟩
            obtain ⟨e, others, rfl, he, -⟩ := List.map_eq_cons_iff.1 hspelled
            rw [(List.cons.inj ht).1] at hd
            exact hd he

/-- The name that is read at the front of a text is the word after the phrase and blanks. -/
theorem asked?_eq_some_iff :
    (afterAnyCase? phrase t).bind spacedWord? = some name ↔
      ∃ spelled gap c rest, Asks t [] spelled gap c rest ∧ BeginsWith name (c :: rest) := by
  have hphrase : 'ſ' ∉ phrase := by decide
  simp only [Option.bind_eq_some_iff, afterAnyCase?_eq_some_iff hphrase, spacedWord?_eq_some_iff]
  constructor
  · rintro ⟨_, ⟨spelled, rfl, hspelled⟩, gap, after, rfl, hgap, hword, hafter⟩
    obtain ⟨c, others, rfl⟩ := List.exists_cons_of_ne_nil hword.1
    exact ⟨spelled, gap, c, others ++ after,
      ⟨rfl, hspelled, hgap, hword.2 c List.mem_cons_self⟩, after, rfl, hword.2, hafter⟩
  · rintro ⟨spelled, gap, c, rest, h, after, hrest, hword, hafter⟩
    refine ⟨_, ⟨spelled, h.eq_append, h.spelled⟩, gap, after, by rw [hrest], h.gap, ⟨?_, hword⟩,
      hafter⟩
    -- an empty name would leave the first character of the word behind it
    rintro rfl
    have hc := hafter c (by rw [← List.nil_append after, ← hrest]; rfl)
    rw [h.word] at hc
    cases hc

/-- Nothing is read at the front exactly if the message does not ask for a name there. -/
theorem asked?_eq_none_iff :
    (afterAnyCase? phrase t).bind spacedWord? = none ↔
      ∀ spelled gap c rest, ¬Asks t [] spelled gap c rest := by
  constructor
  · intro hnone spelled gap c rest h
    have hread : (afterAnyCase? phrase t).bind spacedWord? = some (leadingWord (c :: rest)) :=
      asked?_eq_some_iff.2 ⟨spelled, gap, c, rest, h, leadingWord_eq_iff_beginsWith.1 rfl⟩
    rw [hnone] at hread
    cases hread
  · intro hno
    refine Option.eq_none_iff_forall_ne_some.2 fun name hread => ?_
    obtain ⟨spelled, gap, c, rest, h, -⟩ := asked?_eq_some_iff.1 hread
    exact hno spelled gap c rest h

/-- The name is read at the front, or from the rest of the message if there is none at the front. -/
theorem suggested?_cons_eq_some_iff {first : Char} :
    suggested? (first :: message) = some name ↔
      (afterAnyCase? phrase (first :: message)).bind spacedWord? = some name
        ∨ (afterAnyCase? phrase (first :: message)).bind spacedWord? = none
          ∧ suggested? message = some name := by
  rw [suggested?]
  cases (afterAnyCase? phrase (first :: message)).bind spacedWord? with
  | none => simp
  | some found => simp

/-- The suggested name is the word at the leftmost place that asks for one. -/
theorem suggested?_eq_some_iff :
    suggested? message = some name ↔ ∃ before spelled gap c rest,
      AsksFirst message before spelled gap c rest ∧ BeginsWith name (c :: rest) := by
  induction message with
  | nil =>
      refine iff_of_false nofun ?_
      rintro ⟨before, spelled, gap, c, rest, h, -⟩
      simpa using h.eq_append
  | cons first message ih =>
      rw [suggested?_cons_eq_some_iff, asked?_eq_some_iff, asked?_eq_none_iff, ih]
      constructor
      · rintro (⟨spelled, gap, c, rest, h, hname⟩
          | ⟨hnone, before, spelled, gap, c, rest, h, hname⟩)
        · exact ⟨[], spelled, gap, c, rest, asksFirst_cons_iff.2 (.inl ⟨rfl, h⟩), hname⟩
        · exact ⟨first :: before, spelled, gap, c, rest,
            asksFirst_cons_iff.2 (.inr ⟨hnone, before, rfl, h⟩), hname⟩
      · rintro ⟨before, spelled, gap, c, rest, h, hname⟩
        rcases asksFirst_cons_iff.1 h with ⟨rfl, hfront⟩ | ⟨hnone, others, rfl, hothers⟩
        · exact .inl ⟨spelled, gap, c, rest, hfront, hname⟩
        · exact .inr ⟨hnone, others, spelled, gap, c, rest, hothers, hname⟩

/-- No name is suggested exactly if the message asks for none anywhere. -/
theorem suggested?_eq_none_iff :
    suggested? message = none ↔
      ∀ before spelled gap c rest, ¬Asks message before spelled gap c rest := by
  induction message with
  | nil =>
      refine iff_of_true rfl fun before spelled gap c rest h => ?_
      simpa using h.eq_append
  | cons first message ih =>
      have hcons : suggested? (first :: message) = none ↔
          (afterAnyCase? phrase (first :: message)).bind spacedWord? = none
            ∧ suggested? message = none := by
        rw [suggested?]
        cases (afterAnyCase? phrase (first :: message)).bind spacedWord? <;> simp
      rw [hcons, asked?_eq_none_iff, ih]
      constructor
      · rintro ⟨hfront, hothers⟩ before spelled gap c rest h
        rcases asks_cons_iff.1 h with ⟨-, h⟩ | ⟨others, -, h⟩
        · exact hfront _ _ _ _ h
        · exact hothers _ _ _ _ _ h
      · intro h
        exact ⟨h [], fun others spelled gap c rest hothers =>
          h (first :: others) spelled gap c rest (asks_cons_iff.2 (.inr ⟨others, rfl, hothers⟩))⟩

end GuardName

/-! ## Offers -/

namespace Fix

open Guard (IsNamed)

variable {asked : Option Text} {d : Document} {g : Guard}

/-- Naming the guard of a document that has one writes the name as it is, if a word is asked for or
nothing. -/
theorem exists_isNamed_apply (hasked : ∀ word ∈ asked, IsWord word)
    (hfind : Guard.find? (lineTexts d.text) = some g) :
    ∃ u, (∀ line, (headerGuard asked).apply d line = ⟨d.withText u, none⟩)
      ∧ IsNamed g (guardName asked d) d.text u := by
  have hword := isWord_guardName hasked d
  refine ⟨g.written (guardName asked d) d.text, fun line => ?_,
    Guard.isNamed_written hfind (Guard.isName_of_isWord hword)⟩
  rw [apply_headerGuard_of_find? hfind, Guard.rename_of_isWord hword]
  rfl

end Fix

namespace GuardName

/-- A message suggests a name exactly if it asks for one somewhere, and the name is the whole word
at the leftmost of these places. So the first fix that is offered for a message on a header guard
asks for no name or for a word. Such a word stands for itself as a template, and the fix writes it
as it is, or the name that the guard of the document has. -/
theorem suggested?_leftmost (message : Text) :
    ((∃ name, suggested? message = some name) ↔
        ∃ before spelled gap c rest, Asks message before spelled gap c rest)
      ∧ (∀ name, suggested? message = some name ↔ ∃ before spelled gap c rest,
          AsksFirst message before spelled gap c rest ∧ BeginsWith name (c :: rest))
      ∧ ∃ asked, (Fix.offered Fix.guardCategory message).head? = some (.headerGuard asked)
        ∧ asked = suggested? message
        ∧ (∀ name ∈ asked, name ≠ [] ∧ (∀ c ∈ name, isWord c = true) ∧ '\\' ∉ name
          ∧ ∀ d, Fix.guardName asked d = name)
        ∧ ∀ (d : Document) (g : Guard), Guard.find? (lineTexts d.text) = some g →
          Template.expand g.name (Fix.guardName asked d) = .ok (Fix.guardName asked d)
          ∧ ∃ u, (∀ line, (Fix.headerGuard asked).apply d line = ⟨d.withText u, none⟩)
            ∧ Guard.IsNamed g (Fix.guardName asked d) d.text u := by
  have hwords : ∀ name ∈ suggested? message, IsWord name := fun name => isWord_of_suggested?
  refine ⟨?_, fun name => suggested?_eq_some_iff, suggested? message, rfl, rfl,
    fun name hname => ?_, fun d g hfind => ⟨?_, Fix.exists_isNamed_apply hwords hfind⟩⟩
  · rw [← Option.ne_none_iff_exists', Ne, suggested?_eq_none_iff]
    simp only [not_forall, not_not]
  · obtain ⟨hne, hword⟩ := hwords name hname
    refine ⟨hne, hword, fun hslash => absurd (hword _ hslash) (by decide), fun d => ?_⟩
    rw [Option.mem_def.1 hname, Fix.guardName_some hne]
  · exact Template.expand_of_isLiteral
      (Template.isLiteral_of_isWord (Fix.isWord_guardName hwords d)) _

/-- A message with the phrase in four places, only the last two of which lead to a name. -/
def phrasedMessage : Text :=
  "Please use:A_H, please use: -, PLEASE USE: \tB_H, please use: C_H".toList

/-- The first of these two counts. -/
theorem suggested?_leftmost_phrasedMessage :
    (∃ before spelled gap c rest, AsksFirst phrasedMessage before spelled gap c rest
        ∧ BeginsWith "B_H".toList (c :: rest))
      ∧ (Fix.offered Fix.guardCategory phrasedMessage).head?
        = some (.headerGuard (some "B_H".toList))
      ∧ Guard.find? (lineTexts Fix.mixedHeader.text) = some ⟨1, 3, "A_H".toList⟩
      ∧ Template.expand "A_H".toList "B_H".toList = .ok "B_H".toList
      ∧ ∃ u, (∀ line, (Fix.headerGuard (some "B_H".toList)).apply Fix.mixedHeader line
          = ⟨Fix.mixedHeader.withText u, none⟩)
        ∧ Guard.IsNamed ⟨1, 3, "A_H".toList⟩ "B_H".toList Fix.mixedHeader.text u := by
  have hname : suggested? phrasedMessage = some "B_H".toList := by decide +kernel
  have hfind : Guard.find? (lineTexts Fix.mixedHeader.text) = some ⟨1, 3, "A_H".toList⟩ := by
    decide +kernel
  obtain ⟨-, hleftmost, asked, hhead, hasked, hwords, hwrites⟩ := suggested?_leftmost phrasedMessage
  obtain rfl : asked = some "B_H".toList := hasked.trans hname
  have hguard := (hwords _ rfl).2.2.2 Fix.mixedHeader
  obtain ⟨hexpand, happly⟩ := hwrites Fix.mixedHeader _ hfind
  rw [hguard] at hexpand happly
  exact ⟨(hleftmost _).1 hname, hhead, hfind, hexpand, happly⟩

end GuardName

end LintMend

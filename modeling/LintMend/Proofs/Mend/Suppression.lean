import LintMend.Mend.Suppression
import LintMend.Proofs.Text.Pieces
import LintMend.Proofs.Text.Rows
import LintMend.Proofs.Text.WholeWord

/-! # Suppression of a line

What a line becomes when categories are asked for on it one after another.
* `Marker.find?_eq_some_iff`, `Marker.find?_eq_none_iff`: the first marker of a line, by the places
  of its word.
* `Marker.categories_join`: a listing that is read gives the categories that were written.
* `suppressAll`: a line after some categories, each of which reads the line that the one before it
  left; `suppressAll_of_find?` and its companions are its closed form.
* `Suppresses`: the closed form, by what the line was like before. -/

namespace LintMend

open Text

/-! ## Categories -/

/-- Whether a text is one that a listing gives back: it is not empty, has no blanks around it, and
holds nothing that ends an entry. -/
structure IsEntry (category : Text) : Prop where
  /-- It has characters. -/
  ne_nil : category ≠ []
  /-- It has no blanks around it. -/
  trimmed : Trimmed category
  /-- It holds no comma. -/
  comma : ',' ∉ category
  /-- It holds no closing bracket. -/
  bracket : ')' ∉ category

/-- Whether a text is a category that can be asked for: an entry on one line that does not stand for
all categories. -/
structure IsCategory (category : Text) : Prop extends IsEntry category where
  /-- It holds no line feed. -/
  feed : '\n' ∉ category
  /-- It is not the category that stands for all. -/
  ne_any : category ≠ anyCategory

/-- The categories that are not present yet, each once, in the order in which they are asked for
first. -/
def unlisted (present asked : List Text) : List Text :=
  (asked.filter (!present.contains ·)).eraseDups

@[simp] theorem unlisted_nil (present : List Text) : unlisted present [] = [] := rfl

variable {category : Text} {present asked : List Text}

/-- A category that is present is not new. -/
theorem unlisted_cons_of_mem (h : category ∈ present) :
    unlisted present (category :: asked) = unlisted present asked := by
  simp [unlisted, h]

/-- A category that is not present is new, and present from then on. -/
theorem unlisted_cons_of_not_mem (h : category ∉ present) :
    unlisted present (category :: asked)
      = category :: unlisted (present ++ [category]) asked := by
  rw [unlisted, List.filter_cons_of_pos (by simpa using h), List.eraseDups_cons,
    List.filter_filter, unlisted]
  refine congrArg (fun cs => category :: List.eraseDups cs) (List.filter_congr fun c _ => ?_)
  by_cases hc : c = category <;> simp [hc]

/-- Nothing is new exactly if all that is asked for is present. -/
theorem unlisted_eq_nil_iff : unlisted present asked = [] ↔ ∀ c ∈ asked, c ∈ present := by
  induction asked generalizing present with
  | nil => simp
  | cons category asked ih =>
      by_cases h : category ∈ present
      · rw [unlisted_cons_of_mem h, ih]
        simp [h]
      · rw [unlisted_cons_of_not_mem h]
        simp [h]

/-- What was asked for is present in the end. -/
theorem mem_append_unlisted (h : category ∈ asked) :
    category ∈ present ++ unlisted present asked := by
  by_cases hp : category ∈ present
  · exact List.mem_append_left _ hp
  · exact List.mem_append_right _
      (List.mem_eraseDups.2 (List.mem_filter.2 ⟨h, by simpa using hp⟩))

/-! ## Markers -/

namespace Marker

/-- A space in front of a listing does not change its entries. -/
theorem map_trim_pieces_space (t : Text) :
    (pieces (· == ',') (' ' :: t)).map trim = (pieces (· == ',') t).map trim := by
  obtain ⟨piece, others, hp⟩ := List.exists_cons_of_ne_nil (pieces_ne_nil (· == ',') t)
  have hspace : pieces (· == ',') (' ' :: t) = (' ' :: piece) :: others := by
    rw [pieces, if_neg (by decide), hp]
  rw [hspace, hp, List.map_cons, List.map_cons, trim_space_cons]

/-- Entries that are written are the pieces between the commas, without the blanks. -/
theorem map_trim_pieces_join {c : Text} {cs : List Text} (h : ∀ d ∈ c :: cs, IsEntry d) :
    (pieces (· == ',') (join ", ".toList (c :: cs))).map trim = c :: cs := by
  have hc := h c List.mem_cons_self
  induction cs generalizing c with
  | nil =>
      rw [join_singleton, pieces_of_not_mem hc.comma, List.map_singleton,
        trim_of_trimmed hc.trimmed]
  | cons next others ih =>
      have hothers : ∀ d ∈ next :: others, IsEntry d := fun d hd => h d (List.mem_cons_of_mem c hd)
      rw [join_cons_of_ne_nil _ _ (List.cons_ne_nil next others), List.append_assoc]
      -- The comma ends the entry, and the space after it is trimmed from the next one.
      change (pieces _ (c ++ ',' :: ' ' :: join ", ".toList (next :: others))).map trim = _
      rw [pieces_append_cons hc.comma, List.map_cons, trim_of_trimmed hc.trimmed,
        map_trim_pieces_space, ih hothers (hothers next List.mem_cons_self)]

/-- Entries that are written are read back. -/
theorem categories_join (h : ∀ c ∈ present, IsEntry c) :
    categories (join ", ".toList present) = present := by
  rw [categories]
  cases present with
  | nil => decide
  | cons c cs =>
      rw [map_trim_pieces_join h, List.filter_eq_self]
      intro d hd
      simpa using (h d hd).ne_nil

/-- What a listing without closing brackets lists are entries. -/
theorem isEntry_of_mem_categories {listing : Text} (hlisting : ')' ∉ listing)
    (h : category ∈ categories listing) : IsEntry category := by
  obtain ⟨hmem, hne⟩ := List.mem_filter.1 h
  obtain ⟨piece, hpiece, rfl⟩ := List.mem_map.1 hmem
  refine ⟨by simpa using hne, trimmed_trim piece, fun hcomma => ?_, fun hbracket => ?_⟩
  · exact absurd (of_mem_pieces hpiece (mem_of_mem_trim hcomma)).2 (by decide)
  · exact hlisting (of_mem_pieces hpiece (mem_of_mem_trim hbracket)).1

/-- A category is made of characters of its listing. -/
theorem mem_listing_of_mem_categories {listing : Text} {c : Char}
    (h : category ∈ categories listing) (hc : c ∈ category) : c ∈ listing := by
  obtain ⟨piece, hpiece, rfl⟩ := List.mem_map.1 (List.mem_filter.1 h).1
  exact (of_mem_pieces hpiece (mem_of_mem_trim hc)).1

/-- A listing ends at its first closing bracket. -/
theorem ofRest_listing (before after : Text) {listing : Text} (h : ')' ∉ listing) :
    ofRest before ('(' :: (listing ++ ')' :: after)) = ⟨before, some listing, after⟩ := by
  have hstop : ∀ c ∈ listing, (c != ')') = true := fun c hc => by
    simpa using fun heq : c = ')' => h (heq ▸ hc)
  rw [ofRest, if_pos ⟨rfl, by simp⟩, List.takeWhile_append_of_pos hstop,
    List.dropWhile_append_of_pos hstop]
  simp

/-- What comes after a marker with a listing. -/
theorem eq_of_listing_ofRest {before rest listing : Text}
    (h : (ofRest before rest).listing = some listing) :
    ')' ∉ listing ∧ ∃ after, rest = '(' :: (listing ++ ')' :: after) := by
  cases rest with
  | nil => exact absurd h (by simp [ofRest])
  | cons c inner =>
      rw [ofRest] at h
      split at h
      · next hopen =>
          obtain ⟨rfl, hclosed⟩ := hopen
          obtain ⟨front, back, rfl, hfront⟩ := List.eq_append_cons_of_mem hclosed
          have hstop : ∀ c ∈ front, (c != ')') = true := fun c hc => by
            simpa using fun heq : c = ')' => hfront (heq ▸ hc)
          rw [List.takeWhile_append_of_pos hstop] at h
          obtain rfl : front = listing := by simpa using h
          exact ⟨hfront, back, rfl⟩
      · exact absurd h (by simp)

/-- A marker without a closed pair of brackets has no listing. -/
theorem listing_ofRest_eq_none {before rest : Text}
    (h : ∀ inner, rest = '(' :: inner → ')' ∉ inner) : (ofRest before rest).listing = none := by
  cases hlisting : (ofRest before rest).listing with
  | none => rfl
  | some listing =>
      obtain ⟨-, after, rfl⟩ := eq_of_listing_ofRest hlisting
      exact absurd (by simp) (h _ rfl)

/-- The word of a marker, written out. -/
theorem nolint_eq : nolint = ['N', 'O', 'L', 'I', 'N', 'T'] := by
  decide

/-- The marker is a word. -/
theorem isWord_nolint : IsWord nolint := by decide

/-- A line has no marker exactly if the word stands nowhere on it. -/
theorem find?_eq_none_iff {line : Text} : find? line = none ↔ ¬HasWord nolint line := by
  rw [find?, Option.map_eq_none_iff, cutAtWord?_eq_none_iff isWord_nolint]

/-- The first marker of a line is at the first place of the word. -/
theorem find?_of_isFirst {line before rest : Text} (h : IsFirst nolint line before rest) :
    find? line = some (ofRest before rest) := by
  rw [find?, (cutAtWord?_eq_some_iff isWord_nolint).2 h]
  rfl

/-- A line has a marker exactly if the word stands on it. -/
theorem find?_eq_some_iff {line : Text} {marker : Marker} :
    find? line = some marker ↔
      ∃ before rest, IsFirst nolint line before rest ∧ ofRest before rest = marker := by
  rw [find?, Option.map_eq_some_iff, Prod.exists]
  simp only [cutAtWord?_eq_some_iff isWord_nolint]

/-- Whether a marker that is written right after a text is the first one of its line. -/
structure Opens (before : Text) : Prop where
  /-- There is no marker yet. -/
  no_marker : ¬HasWord nolint before
  /-- The marker is a word of its own. -/
  apart : ∀ c ∈ before.getLast?, isWord c = false

variable {before after rest : Text}

/-- A marker can be written where the first one stands. -/
theorem opens_of_isFirst {line : Text} (h : IsFirst nolint line before rest) : Opens before :=
  ⟨((isFirst_iff isWord_nolint).1 h).2, h.before_apart⟩

/-- A marker can be written in a comment at the end of a line that has none. -/
theorem opens_append_comment {line : Text} (h : ¬HasWord nolint line) :
    Opens (line ++ "  // ".toList) := by
  have hcomment : "  // ".toList.all (!isWord ·) = true := by decide
  refine ⟨fun hword => h (hasWord_of_append isWord_nolint (fun c hc => ?_) hword), fun c hc => ?_⟩
  · simpa using List.all_eq_true.1 hcomment c hc
  · rw [List.getLast?_append_of_ne_nil _ (by decide)] at hc
    obtain rfl : ' ' = c := by simpa using hc
    decide

/-- A line with a listing written on it. -/
theorem append_listed (before after : Text) (categories : List Text) :
    before ++ listed categories ++ after
      = before ++ (nolint ++ '(' :: (join ", ".toList categories ++ ')' :: after)) := by
  simp [listed]

/-- A listing that is written is read back, with the text around it. -/
theorem find?_listed (hbefore : Opens before) (h : ∀ c ∈ present, IsEntry c) (after : Text) :
    find? (before ++ listed present ++ after)
      = some ⟨before, some (join ", ".toList present), after⟩ := by
  have hbracket : ')' ∉ join ", ".toList present := by
    intro hmem
    rcases mem_of_mem_join hmem with hbetween | ⟨piece, hpiece, hmem⟩
    · exact absurd hbetween (by decide)
    · exact (h piece hpiece).bracket hmem
  have hstands : StandsBetween nolint (before ++ listed present ++ after) before
      ('(' :: (join ", ".toList present ++ ')' :: after)) := by
    refine ⟨append_listed before after present, hbefore.apart, fun c hc => ?_⟩
    obtain rfl : '(' = c := by simpa using hc
    decide
  rw [find?_of_isFirst ((isFirst_iff isWord_nolint).2 ⟨hstands, hbefore.no_marker⟩),
    ofRest_listing before after hbracket]

end Marker

/-! ## Lines -/

/-- A line after some categories have been asked for on it, one after another. -/
def suppressAll (categories : List Text) (line : Text) : Text :=
  categories.foldl (fun line category => suppress category line) line

@[simp] theorem suppressAll_nil (line : Text) : suppressAll [] line = line := rfl

@[simp] theorem suppressAll_cons (category : Text) (categories : List Text) (line : Text) :
    suppressAll (category :: categories) line = suppressAll categories (suppress category line) :=
  rfl

variable {before after listing line : Text}

/-- A marker that covers all categories leaves its line alone. -/
theorem suppress_of_covers {marker : Marker} (h : Marker.find? line = some marker)
    (hcovers : ∀ listing ∈ marker.listing, anyCategory ∈ Marker.categories listing
      ∨ category ∈ Marker.categories listing) :
    suppress category line = line := by
  rw [suppress, h]
  dsimp only
  split
  · rfl
  · next listing hlisting => exact if_pos (hcovers listing hlisting)

/-- A category that a listing does not cover is added to it. -/
theorem suppress_of_not_mem (h : Marker.find? line = some ⟨before, some listing, after⟩)
    (hany : anyCategory ∉ Marker.categories listing)
    (hcategory : category ∉ Marker.categories listing) :
    suppress category line
      = before ++ listed (Marker.categories listing ++ [category]) ++ after := by
  rw [suppress, h]
  exact if_neg fun hcovered => hcovered.elim hany hcategory

/-- A line whose marker covers all categories is left alone however many are asked for. -/
theorem suppressAll_of_covers {marker : Marker} (h : Marker.find? line = some marker)
    (hcovers : ∀ listing ∈ marker.listing, anyCategory ∈ Marker.categories listing
      ∨ ∀ category ∈ asked, category ∈ Marker.categories listing) :
    suppressAll asked line = line := by
  induction asked with
  | nil => rfl
  | cons category asked ih =>
      rw [suppressAll_cons, suppress_of_covers h, ih]
      · exact fun listing hlisting => (hcovers listing hlisting).imp_right fun hall c hc =>
          hall c (List.mem_cons_of_mem category hc)
      · exact fun listing hlisting => (hcovers listing hlisting).imp_right fun hall =>
          hall category List.mem_cons_self

/-- A first marker that lists nothing leaves its line alone. -/
theorem suppressAll_of_no_listing (hfirst : IsFirst nolint line before after)
    (h : ∀ inner, after = '(' :: inner → ')' ∉ inner) : suppressAll asked line = line := by
  refine suppressAll_of_covers (Marker.find?_of_isFirst hfirst) fun listing hlisting => ?_
  rw [Marker.listing_ofRest_eq_none h] at hlisting
  exact absurd hlisting (by simp)

/-- So does one that lists the category that stands for all, or all that is asked for. -/
theorem suppressAll_of_listing_covers
    (hfirst : IsFirst nolint line before ('(' :: (listing ++ ')' :: after)))
    (hlisting : ')' ∉ listing)
    (hcovers : anyCategory ∈ Marker.categories listing
      ∨ ∀ category ∈ asked, category ∈ Marker.categories listing) :
    suppressAll asked line = line := by
  refine suppressAll_of_covers (Marker.find?_of_isFirst hfirst) ?_
  rw [Marker.ofRest_listing before after hlisting]
  rintro _ ⟨⟩
  exact hcovers

/-- A listing that has been written grows by the categories that are new. -/
theorem suppressAll_listed (hbefore : Marker.Opens before) (hpresent : ∀ c ∈ present, IsEntry c)
    (hany : anyCategory ∉ present) (hasked : ∀ c ∈ asked, IsCategory c) :
    suppressAll asked (before ++ listed present ++ after)
      = before ++ listed (present ++ unlisted present asked) ++ after := by
  -- The induction is over all listings that may have been written so far.
  induction asked generalizing present with
  | nil => simp
  | cons category asked ih =>
      rw [List.forall_mem_cons] at hasked
      have hfind := Marker.find?_listed hbefore hpresent after
      have hread := Marker.categories_join hpresent
      by_cases h : category ∈ present
      · rw [suppressAll_cons, suppress_of_covers hfind, ih hpresent hany hasked.2,
          unlisted_cons_of_mem h]
        rintro listing ⟨⟩
        exact .inr (hread.symm ▸ h)
      · -- the step writes the listing that the induction hypothesis starts from
        have hstep := suppress_of_not_mem hfind (hread.symm ▸ hany) (hread.symm ▸ h)
        rw [hread] at hstep
        rw [suppressAll_cons, hstep, ih ?_ ?_ hasked.2, unlisted_cons_of_not_mem h,
          List.append_assoc present, List.singleton_append]
        · rw [List.forall_mem_append, List.forall_mem_singleton]
          exact ⟨hpresent, hasked.1.toIsEntry⟩
        · rw [List.mem_append, List.mem_singleton, not_or]
          exact ⟨hany, Ne.symm hasked.1.ne_any⟩

/-- A line without a marker gets one, in a comment at its end. -/
theorem suppressAll_of_not_hasWord (h : ¬HasWord nolint line) (hne : asked ≠ [])
    (hasked : ∀ c ∈ asked, IsCategory c) :
    suppressAll asked line = line ++ "  // ".toList ++ listed asked.eraseDups := by
  obtain ⟨category, asked, rfl⟩ := List.exists_cons_of_ne_nil hne
  rw [List.forall_mem_cons] at hasked
  -- The first category writes the marker, and the others are added to its listing.
  have hstep : suppress category line = line ++ "  // ".toList ++ listed [category] ++ [] := by
    rw [suppress, Marker.find?_eq_none_iff.2 h]
    simp [suppressionComment]
  have hnew : unlisted [category] asked = (asked.filter (!· == category)).eraseDups :=
    congrArg List.eraseDups (List.filter_congr fun c _ => by
      by_cases hc : c = category <;> simp [hc])
  rw [suppressAll_cons, hstep, suppressAll_listed (Marker.opens_append_comment h) ?_ ?_ hasked.2,
    List.append_nil, hnew, List.singleton_append, ← List.eraseDups_cons]
  · exact List.forall_mem_singleton.2 hasked.1.toIsEntry
  · exact fun hmem => hasked.1.ne_any (List.mem_singleton.1 hmem).symm

/-- A marker with a listing grows by the categories that are new, if there are any. -/
theorem suppressAll_of_listing (hbefore : Marker.Opens before) (hlisting : ')' ∉ listing)
    (h : Marker.find? line = some ⟨before, some listing, after⟩)
    (hany : anyCategory ∉ Marker.categories listing) (hasked : ∀ c ∈ asked, IsCategory c)
    (hnew : unlisted (Marker.categories listing) asked ≠ []) :
    suppressAll asked line = before
      ++ listed (Marker.categories listing ++ unlisted (Marker.categories listing) asked)
      ++ after := by
  induction asked with
  | nil => exact absurd rfl hnew
  | cons category asked ih =>
      rw [List.forall_mem_cons] at hasked
      by_cases hmem : category ∈ Marker.categories listing
      · rw [unlisted_cons_of_mem hmem] at hnew ⊢
        rw [suppressAll_cons, suppress_of_covers h, ih hasked.2 hnew]
        rintro listing ⟨⟩
        exact .inr hmem
      · -- The first new category writes the listing anew, with what the old one gives back.
        rw [suppressAll_cons, suppress_of_not_mem h hany hmem, suppressAll_listed hbefore ?_ ?_
          hasked.2, unlisted_cons_of_not_mem hmem, List.append_assoc (Marker.categories listing),
          List.singleton_append]
        · rw [List.forall_mem_append, List.forall_mem_singleton]
          exact ⟨fun c hc => Marker.isEntry_of_mem_categories hlisting hc, hasked.1.toIsEntry⟩
        · rw [List.mem_append, List.mem_singleton, not_or]
          exact ⟨hany, Ne.symm hasked.1.ne_any⟩

/-- How a line reads after some categories have been asked for on it, by how it read before. -/
structure Suppresses (asked : List Text) (old new : Text) : Prop where
  /-- A line on which nothing is asked for stays as it is. -/
  nothing_asked : asked = [] → new = old
  /-- A line without a marker gets one with the distinct categories, in a comment at its end. -/
  no_marker : asked ≠ [] → ¬HasWord nolint old →
    new = old ++ "  // NOLINT(".toList ++ join ", ".toList asked.eraseDups ++ [')']
  /-- A line whose first marker has no brackets stays as it is. -/
  bare : ∀ {before after}, IsFirst nolint old before after → after.head? ≠ some '(' → new = old
  /-- A line whose first marker has a bracket that is not closed stays as it is. -/
  unclosed : ∀ {before inner}, IsFirst nolint old before ('(' :: inner) → ')' ∉ inner → new = old
  /-- A line whose first marker lists the category that stands for all stays as it is. -/
  any : ∀ {before listing after}, IsFirst nolint old before ('(' :: (listing ++ ')' :: after)) →
    ')' ∉ listing → anyCategory ∈ Marker.categories listing → new = old
  /-- A line whose first marker lists all that is asked for stays as it is. -/
  all_listed : ∀ {before listing after},
    IsFirst nolint old before ('(' :: (listing ++ ')' :: after)) → ')' ∉ listing →
    (∀ category ∈ asked, category ∈ Marker.categories listing) → new = old
  /-- Otherwise the marker is renewed in its place: what it lists, then what is new. -/
  some_new : ∀ {before listing after},
    IsFirst nolint old before ('(' :: (listing ++ ')' :: after)) → ')' ∉ listing →
    anyCategory ∉ Marker.categories listing →
    (∃ category ∈ asked, category ∉ Marker.categories listing) →
    new = before ++ ("NOLINT(".toList ++ join ", ".toList
      (Marker.categories listing ++ unlisted (Marker.categories listing) asked) ++ [')']) ++ after

/-- The closed form of a line after any number of categories. -/
theorem suppresses_suppressAll (hasked : ∀ c ∈ asked, IsCategory c) (line : Text) :
    Suppresses asked line (suppressAll asked line) where
  nothing_asked := by
    rintro rfl
    rfl
  no_marker hne h := by
    rw [suppressAll_of_not_hasWord h hne hasked]
    simp [listed, Marker.nolint_eq]
  bare {before after} hfirst hhead := by
    refine suppressAll_of_no_listing hfirst ?_
    rintro inner rfl
    exact absurd rfl hhead
  unclosed {before inner} hfirst hopen := by
    refine suppressAll_of_no_listing hfirst fun other heq => ?_
    exact (List.cons.inj heq).2 ▸ hopen
  any {before listing after} hfirst hlisting hany :=
    suppressAll_of_listing_covers hfirst hlisting (.inl hany)
  all_listed {before listing after} hfirst hlisting hall :=
    suppressAll_of_listing_covers hfirst hlisting (.inr hall)
  some_new {before listing after} hfirst hlisting hany hnew := by
    have hfind := Marker.find?_of_isFirst hfirst
    rw [Marker.ofRest_listing before after hlisting] at hfind
    rw [suppressAll_of_listing (Marker.opens_of_isFirst hfirst) hlisting hfind hany hasked]
    · simp [listed, Marker.nolint_eq]
    · obtain ⟨category, hcategory, hmem⟩ := hnew
      exact fun hnil => hmem (unlisted_eq_nil_iff.1 hnil category hcategory)

/-- A listing that was written with all that is asked for stays as it is. -/
theorem suppressAll_listed_of_forall_mem (hbefore : Marker.Opens before)
    (hpresent : ∀ c ∈ present, IsEntry c) (hall : ∀ c ∈ asked, c ∈ present) (after : Text) :
    suppressAll asked (before ++ listed present ++ after) = before ++ listed present ++ after := by
  refine suppressAll_of_covers (Marker.find?_listed hbefore hpresent after) ?_
  rintro _ ⟨⟩
  rw [Marker.categories_join hpresent]
  exact .inr hall

/-- Asking for the same categories again changes nothing. -/
theorem suppressAll_suppressAll (hasked : ∀ c ∈ asked, IsCategory c) (line : Text) :
    suppressAll asked (suppressAll asked line) = suppressAll asked line := by
  by_cases hne : asked = []
  · subst hne
    rfl
  · -- The cases are those of one step: a comment is written, the line is covered, a listing grows.
    cases hfind : Marker.find? line with
    | none =>
        have hno := Marker.find?_eq_none_iff.1 hfind
        rw [suppressAll_of_not_hasWord hno hne hasked, ← List.append_nil (_ ++ listed _)]
        refine suppressAll_listed_of_forall_mem (Marker.opens_append_comment hno) (fun c hc => ?_)
          (fun c hc => ?_) []
        · exact (hasked c (List.mem_eraseDups.1 hc)).toIsEntry
        · exact List.mem_eraseDups.2 hc
    | some marker =>
        by_cases hcovers : ∀ listing ∈ marker.listing, anyCategory ∈ Marker.categories listing
            ∨ ∀ category ∈ asked, category ∈ Marker.categories listing
        · rw [suppressAll_of_covers hfind hcovers, suppressAll_of_covers hfind hcovers]
        · -- What is written lists the old categories and the new ones, so it lists all.
          obtain ⟨before, rest, hfirst, rfl⟩ := Marker.find?_eq_some_iff.1 hfind
          push Not at hcovers
          obtain ⟨listing, hmarker, hany, category, hcategory, hmem⟩ := hcovers
          obtain ⟨hlisting, after, rfl⟩ := Marker.eq_of_listing_ofRest hmarker
          rw [Marker.ofRest_listing before after hlisting] at hfind
          rw [suppressAll_of_listing (Marker.opens_of_isFirst hfirst) hlisting hfind hany hasked
            fun hnil => hmem (unlisted_eq_nil_iff.1 hnil category hcategory)]
          refine suppressAll_listed_of_forall_mem (Marker.opens_of_isFirst hfirst) (fun c hc => ?_)
            (fun c hc => mem_append_unlisted hc) after
          rcases List.mem_append.1 hc with hc | hc
          · exact Marker.isEntry_of_mem_categories hlisting hc
          · exact (hasked c (List.mem_filter.1 (List.mem_eraseDups.1 hc)).1).toIsEntry

/-! ## Lines of a document -/

/-- A line on which something is asked for is not empty. -/
theorem suppress_ne_nil (category line : Text) : suppress category line ≠ [] := by
  cases hfind : Marker.find? line with
  | none => simp [suppress, hfind, suppressionComment, listed]
  | some marker =>
      obtain ⟨before, rest, hfirst, rfl⟩ := Marker.find?_eq_some_iff.1 hfind
      have hline : line ≠ [] := by
        rw [hfirst.eq_append]
        simp [Marker.nolint_eq]
      rw [suppress, hfind]
      dsimp only
      split
      · exact hline
      · split
        · exact hline
        · simp [listed]

/-- A listing of categories that are each on one line is on one line. -/
theorem feed_not_mem_listed {categories : List Text} (h : ∀ c ∈ categories, '\n' ∉ c) :
    '\n' ∉ listed categories := by
  intro hmem
  rw [listed, List.append_assoc, List.cons_append, List.mem_append, List.mem_cons,
    List.mem_append] at hmem
  rcases hmem with hmem | hmem | hmem | hmem
  · exact absurd hmem (by decide)
  · exact absurd hmem (by decide)
  · rcases mem_of_mem_join hmem with hbetween | ⟨category, hcategory, hmem⟩
    · exact absurd hbetween (by decide)
    · exact h category hcategory hmem
  · exact absurd hmem (by decide)

/-- A line with a listing ends with its bracket or with what comes after. -/
theorem getLast?_append_listed (before after : Text) (categories : List Text) :
    (before ++ listed categories ++ after).getLast? = (')' :: after).getLast? := by
  have hsplit : before ++ listed categories ++ after
      = before ++ (nolint ++ '(' :: join ", ".toList categories) ++ ')' :: after := by
    simp [listed]
  rw [hsplit, List.getLast?_append_of_ne_nil _ (List.cons_ne_nil _ after)]

/-- A line on which a category on one line is asked for fits in the place of the line before. -/
theorem fitsFor_suppress (hcategory : '\n' ∉ category) (hline : '\n' ∉ line) :
    FitsFor (suppress category line) line := by
  have hsame : FitsFor line line := ⟨hline, id⟩
  cases hfind : Marker.find? line with
  | none =>
      -- the comment that is added ends with a bracket
      rw [suppress, hfind]
      refine ⟨?_, fun hlast => ?_⟩
      · simp [suppressionComment, listed, Marker.nolint_eq, hcategory, hline]
      · have hline : line ++ "  ".toList ++ suppressionComment category
            = line ++ "  // ".toList ++ listed [category] ++ [] := by
          simp [suppressionComment]
        rw [hline, getLast?_append_listed] at hlast
        exact absurd hlast (by decide)
  | some marker =>
      obtain ⟨before, rest, hfirst, rfl⟩ := Marker.find?_eq_some_iff.1 hfind
      rw [suppress, hfind]
      dsimp only
      split
      · exact hsame
      · next listing hlisting =>
          split
          · exact hsame
          · obtain ⟨hbracket, after, rfl⟩ := Marker.eq_of_listing_ofRest hlisting
            rw [Marker.ofRest_listing before after hbracket]
            have heq := hfirst.eq_append
            constructor
            · -- nothing is written but the old parts of the line and the category
              have hfeed : '\n' ∉ listed (Marker.categories listing ++ [category]) := by
                refine feed_not_mem_listed (List.forall_mem_append.2 ⟨fun c hc hmem => ?_, ?_⟩)
                · refine hline (heq ▸ ?_)
                  simp [Marker.mem_listing_of_mem_categories hc hmem]
                · exact List.forall_mem_singleton.2 hcategory
              rw [heq, List.mem_append, List.mem_append, not_or, not_or] at hline
              rw [List.mem_append, List.mem_append, not_or, not_or]
              exact ⟨⟨hline.1, hfeed⟩, fun hmem => hline.2.2 (by simp [hmem])⟩
            · -- the line ends as before, with the bracket or with what comes after it
              intro hlast
              have hold : line = before ++ (nolint ++ '(' :: listing) ++ ')' :: after := by
                rw [heq]
                simp
              rw [getLast?_append_listed] at hlast
              rw [hold, List.getLast?_append_of_ne_nil _ (List.cons_ne_nil _ after)]
              exact hlast

end LintMend

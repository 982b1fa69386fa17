import LintMend.Files.Tree

/-! # Walks in a tree that grows

What stands in a file tree stands in directories, and goes on standing when something is put beside
it.
* `Files.Sound`: whatever stands has a directory above it, and the present directory is there.
* `Files.Keeps`: a tree in which all that stood in another still stands, and is still a directory or
  still a file. `Keeps.find` says that a path leads to the same place in it.
* `Files.walk_append`: a walk goes on where another one ends.
* `Sound.of_find_missing`: a path that leads nowhere, but whose directory is there, leads to a place
  where nothing stands yet.
* `Sound.write`: writing to a path keeps a tree sound, and the file stands there afterwards. -/

namespace LintMend.Files

variable {fs after : Files} {place other : Place}

/-! ## Sound trees -/

/-- Whether everything stands in a directory, and the present directory is there. -/
structure Sound (fs : Files) : Prop where
  /-- The present directory is there. -/
  here : fs.standsAt? fs.here = some .directory
  /-- What stands has a directory above it. -/
  above : ∀ place name, fs.standsAt? (place ++ [name]) ≠ none →
    fs.standsAt? place = some .directory

/-- Nothing stands below the root of an empty tree. -/
theorem standsAt?_empty (here : Place) (name : Text) (place : Place) :
    standsAt? ⟨.empty, here⟩ (name :: place) = none := by
  have hnone : ∀ place : Place, ((⟨none, .empty⟩ : Spot Entry).descend place).value = none := by
    intro place
    induction place with
    | nil => rfl
    | cons name place ih => rw [Spot.descend_cons, Trie.spot_empty, ih]
  exact hnone place

/-- An empty tree is sound. -/
theorem sound_empty : Sound ⟨.empty, []⟩ where
  here := rfl
  above := by
    intro place name hstands
    have hne : place ++ [name] ≠ [] := by simp
    obtain ⟨first, rest, hcons⟩ := List.exists_cons_of_ne_nil hne
    rw [hcons] at hstands
    exact absurd (standsAt?_empty [] first rest) hstands

/-- Above a place of a sound tree that stands, something stands. -/
theorem Sound.stands_dropLast (hs : fs.Sound) (h : fs.standsAt? place ≠ none) :
    fs.standsAt? place.dropLast ≠ none := by
  rcases List.eq_nil_or_concat place with rfl | ⟨front, last, rfl⟩
  · exact h
  · rw [List.concat_eq_append] at h ⊢
    rw [List.dropLast_concat, hs.above front last h]
    exact Option.some_ne_none _

/-! ## Walks -/

/-- A walk goes on where another one ends. -/
theorem walk_append (fs : Files) (place : Place) (front back : List Text) :
    fs.walk place (front ++ back)
      = match fs.walk place front with
        | .ok reached => fs.walk reached back
        | .error why => .error why := by
  induction front generalizing place with
  | nil => rw [List.nil_append, walk_nil]
  | cons name front ih =>
      rw [List.cons_append, walk_cons, walk_cons]
      split
      · rfl
      · rfl
      split
      · exact ih place
      split
      · exact ih place.dropLast
      split
      · rfl
      split
      · rfl
      · exact ih (place ++ [name])

/-- A walk from a place that stands ends at one that stands. -/
theorem Sound.stands_of_walk (hs : fs.Sound) {names : List Text}
    (hplace : fs.standsAt? place ≠ none) (h : fs.walk place names = .ok other) :
    fs.standsAt? other ≠ none := by
  induction names generalizing place with
  | nil =>
      rw [walk_nil] at h
      cases h
      exact hplace
  | cons name names ih =>
      rw [walk_cons] at h
      split at h
      · cases h
      · cases h
      split at h
      · exact ih hplace h
      split at h
      · exact ih (hs.stands_dropLast hplace) h
      split at h
      · cases h
      split at h
      · cases h
      · next hstands =>
          refine ih ?_ h
          simpa using hstands

/-- What a walk of one name, which leads nowhere, says about that name. -/
theorem walk_singleton_eq_missing {name : Text} (hplace : fs.standsAt? place ≠ none)
    (h : fs.walk place [name] = .error .missing) :
    fs.standsAt? place = some .directory ∧ name ≠ [] ∧ name ≠ selfName ∧ name ≠ parentName
      ∧ (Text.encode name).length ≤ maxName ∧ fs.standsAt? (place ++ [name]) = none := by
  rw [walk_cons] at h
  split at h
  · next hnone => exact absurd hnone hplace
  · cases h
  · next hdirectory =>
      split at h
      · rw [walk_nil] at h
        cases h
      · next hself =>
          split at h
          · rw [walk_nil] at h
            cases h
          · next hparent =>
              split at h
              · cases h
              · next hlength =>
                  split at h
                  · next hnone =>
                      rw [not_or] at hself
                      exact ⟨hdirectory, hself.1, hself.2, hparent, Nat.le_of_not_lt hlength,
                        Option.isNone_iff_eq_none.1 hnone⟩
                  · rw [walk_nil] at h
                    cases h

/-- A name in a directory leads to what stands there under that name. -/
theorem walk_singleton {name : Text} (hplace : fs.standsAt? place = some .directory)
    (hself : name ≠ [] ∧ name ≠ selfName) (hparent : name ≠ parentName)
    (hlength : (Text.encode name).length ≤ maxName)
    (hstands : fs.standsAt? (place ++ [name]) ≠ none) :
    fs.walk place [name] = .ok (place ++ [name]) := by
  have hsome : (fs.standsAt? (place ++ [name])).isNone = false := by
    rw [Option.isNone_eq_false_iff, Option.isSome_iff_ne_none]
    exact hstands
  rw [walk_cons, hplace]
  dsimp only
  rw [if_neg (not_or.2 hself), if_neg hparent, if_neg (Nat.not_lt.2 hlength), hsome, walk_nil]
  rfl

/-! ## Trees that grow -/

/-- Whether all that stands in a tree stands in another one too, directories as directories and
files as files. -/
structure Keeps (fs after : Files) : Prop where
  /-- The present directory is the same. -/
  here : after.here = fs.here
  /-- What stands goes on standing, and stays a directory or a file. -/
  kind : ∀ place entry, fs.standsAt? place = some entry →
    ∃ left, after.standsAt? place = some left ∧ (left = .directory ↔ entry = .directory)

/-- A tree keeps what stands in it. -/
theorem Keeps.refl (fs : Files) : Keeps fs fs := ⟨rfl, fun _ entry h => ⟨entry, h, Iff.rfl⟩⟩

/-- What is kept by what is kept is kept. -/
theorem Keeps.trans {last : Files} (h : Keeps fs after) (h' : Keeps after last) :
    Keeps fs last where
  here := h'.here.trans h.here
  kind := by
    intro place entry hstands
    obtain ⟨left, hleft, hkind⟩ := h.kind place entry hstands
    obtain ⟨final, hfinal, hkind'⟩ := h'.kind place left hleft
    exact ⟨final, hfinal, hkind'.trans hkind⟩

/-- A directory is kept. -/
theorem Keeps.directory (h : Keeps fs after) (hplace : fs.standsAt? place = some .directory) :
    after.standsAt? place = some .directory := by
  obtain ⟨left, hleft, hkind⟩ := h.kind place .directory hplace
  rw [hleft, hkind.2 rfl]

/-- What stands is not lost. -/
theorem Keeps.stands (h : Keeps fs after) (hplace : fs.standsAt? place ≠ none) :
    after.standsAt? place ≠ none := by
  obtain ⟨entry, hentry⟩ := Option.ne_none_iff_exists'.1 hplace
  obtain ⟨left, hleft, -⟩ := h.kind place entry hentry
  rw [hleft]
  exact Option.some_ne_none left

/-- A walk leads to the same place. -/
theorem Keeps.walk (h : Keeps fs after) {names : List Text}
    (hwalk : fs.walk place names = .ok other) : after.walk place names = .ok other := by
  induction names generalizing place with
  | nil =>
      rw [walk_nil] at hwalk ⊢
      exact hwalk
  | cons name names ih =>
      rw [walk_cons] at hwalk ⊢
      split at hwalk
      · cases hwalk
      · cases hwalk
      · next hdirectory =>
          rw [h.directory hdirectory]
          dsimp only
          split at hwalk
          · next hself =>
              rw [if_pos hself]
              exact ih hwalk
          · next hself =>
              rw [if_neg hself]
              split at hwalk
              · next hparent =>
                  rw [if_pos hparent]
                  exact ih hwalk
              · next hparent =>
                  rw [if_neg hparent]
                  split at hwalk
                  · cases hwalk
                  · next hlength =>
                      rw [if_neg hlength]
                      split at hwalk
                      · cases hwalk
                      · next hstands =>
                          have hkept : ¬(after.standsAt? (place ++ [name])).isNone = true := by
                            rw [Option.isNone_iff_eq_none] at hstands ⊢
                            exact h.stands hstands
                          rw [if_neg hkept]
                          exact ih hwalk

/-- A path leads to the same place. -/
theorem Keeps.find (h : Keeps fs after) {path : Text} (hfind : fs.find path = .ok place) :
    after.find path = .ok place := by
  have hstart : after.start path = fs.start path := by rw [start, start, h.here]
  rw [Files.find] at hfind ⊢
  split at hfind
  · cases hfind
  · next hne =>
      rw [if_neg hne]
      split at hfind
      · cases hfind
      · next hlength =>
          rw [if_neg hlength, hstart]
          exact h.walk hfind

/-- Nothing is lost when something is put where nothing stood, or a file where a file stood. -/
theorem Keeps.put {entry : Entry}
    (h : ∀ old, fs.standsAt? place = some old → (entry = .directory ↔ old = .directory)) :
    Keeps fs (fs.put place entry) where
  here := rfl
  kind := by
    intro other old hold
    by_cases hother : other = place
    · subst hother
      by_cases hroot : other = []
      · subst hroot
        exact ⟨old, hold, Iff.rfl⟩
      · exact ⟨entry, standsAt?_put_self fs hroot entry, h old hold⟩
    · exact ⟨old, by rw [standsAt?_put_of_ne fs hother, hold], Iff.rfl⟩

/-- A tree stays sound when something is put into a directory and nothing is lost by it. -/
theorem Sound.put {entry : Entry} {name : Text} (hs : fs.Sound)
    (hplace : fs.standsAt? place = some .directory)
    (hkeeps : Keeps fs (fs.put (place ++ [name]) entry)) :
    (fs.put (place ++ [name]) entry).Sound where
  here := hkeeps.directory hs.here
  above := by
    intro front last hstands
    by_cases hsame : front ++ [last] = place ++ [name]
    · rw [(List.append_inj' hsame rfl).1]
      exact hkeeps.directory hplace
    · rw [standsAt?_put_of_ne fs hsame] at hstands
      exact hkeeps.directory (hs.above front last hstands)

/-! ## New entries -/

/-- A path starts from a directory. -/
theorem Sound.start (hs : fs.Sound) (path : Text) :
    fs.standsAt? (fs.start path) = some .directory := by
  rw [Files.start]
  split
  · rfl
  · exact hs.here

/-- Where something new is made nothing stands yet, but a directory is there. As soon as something
stands at the place, the path leads to it. -/
theorem Sound.of_find_missing (hs : fs.Sound) {path : Text} (hpath : path ≠ [])
    (hfind : fs.find path = .error .missing) (hnew : fs.findNew path = .ok place) :
    fs.standsAt? place = none
      ∧ (∃ front last, place = front ++ [last] ∧ fs.standsAt? front = some .directory)
      ∧ ∀ after, Keeps fs after → after.standsAt? place ≠ none → after.find path = .ok place := by
  have hpieces : Text.pieces (· == '/') path ≠ [] := Text.pieces_ne_nil _ path
  have hsplit := List.dropLast_concat_getLast hpieces
  rw [Files.find, if_neg hpath] at hfind
  rw [findNew, List.getLast?_eq_some_getLast hpieces] at hnew
  generalize (Text.pieces (· == '/') path).dropLast = front at hsplit hnew
  generalize (Text.pieces (· == '/') path).getLast hpieces = last at hsplit hnew
  cases hwalk : fs.walk (fs.start path) front with
  | error why =>
      rw [hwalk] at hnew
      cases hnew
  | ok reached =>
      rw [hwalk] at hnew
      cases hnew
      split at hfind
      · cases hfind
      · next hlength =>
          -- the last name leads nowhere from the directory that the others lead to
          rw [← hsplit, walk_append, hwalk] at hfind
          have hstart : fs.standsAt? (fs.start path) ≠ none := by
            rw [hs.start path]
            exact Option.some_ne_none _
          obtain ⟨hdirectory, hnil, hself, hparent, hname, hnone⟩ :=
            walk_singleton_eq_missing (hs.stands_of_walk hstart hwalk) hfind
          refine ⟨hnone, ⟨reached, last, rfl, hdirectory⟩, fun after hkeeps hstands => ?_⟩
          have hsame : after.start path = fs.start path := by
            rw [Files.start, Files.start, hkeeps.here]
          rw [Files.find, if_neg hpath, if_neg hlength, hsame, ← hsplit, walk_append,
            hkeeps.walk hwalk]
          exact walk_singleton (hkeeps.directory hdirectory) ⟨hnil, hself⟩ hparent hname hstands

/-- Something put at a new place keeps a tree sound, and stands at the end of the path. -/
theorem Sound.put_new (hs : fs.Sound) {path : Text} (hpath : path ≠ [])
    (hfind : fs.find path = .error .missing) (hnew : fs.findNew path = .ok place) (entry : Entry) :
    (fs.put place entry).Sound ∧ Keeps fs (fs.put place entry)
      ∧ (fs.put place entry).find path = .ok place
      ∧ (fs.put place entry).standsAt? place = some entry := by
  obtain ⟨hnone, ⟨front, last, rfl, hdirectory⟩, hleads⟩ := hs.of_find_missing hpath hfind hnew
  have hkeeps : Keeps fs (fs.put (front ++ [last]) entry) :=
    Keeps.put fun old hold => absurd hold (by rw [hnone]; exact nofun)
  have hstands := standsAt?_put_self fs (List.append_ne_nil_of_right_ne_nil front
    (List.cons_ne_nil last [])) entry
  refine ⟨hs.put hdirectory hkeeps, hkeeps, hleads _ hkeeps ?_, hstands⟩
  rw [hstands]
  exact Option.some_ne_none entry

/-- A file that is written over keeps a tree sound. -/
theorem Sound.put_file (hs : fs.Sound) {old content : Octets} {executable : Bool}
    (hplace : fs.standsAt? place = some (.file old executable)) :
    (fs.put place (.file content executable)).Sound
      ∧ Keeps fs (fs.put place (.file content executable))
      ∧ (fs.put place (.file content executable)).standsAt? place
        = some (.file content executable) := by
  have hkeeps : Keeps fs (fs.put place (.file content executable)) := by
    refine Keeps.put fun entry hentry => ?_
    rw [hplace, Option.some.injEq] at hentry
    rw [← hentry]
    exact ⟨nofun, nofun⟩
  rcases List.eq_nil_or_concat place with rfl | ⟨front, last, rfl⟩
  · cases hplace
  · rw [List.concat_eq_append] at hplace hkeeps ⊢
    have hdirectory : fs.standsAt? front = some .directory :=
      hs.above front last (by rw [hplace]; exact Option.some_ne_none _)
    exact ⟨hs.put hdirectory hkeeps, hkeeps, standsAt?_put_self fs (by simp) _⟩

/-- What stands at the end of a path is its entry. -/
theorem entry_of_find {path : Text} (hnull : path.contains '\x00' = false)
    (hfind : fs.find path = .ok place) : fs.entry path = .ok (fs.standsAt? place) := by
  rw [entry, hnull, hfind]
  rfl

/-- What can be read at a path is the content of the file that stands there. -/
theorem read_of_entry {path : Text} {content : Octets} {executable : Bool}
    (h : fs.entry path = .ok (some (.file content executable))) : fs.read path = .ok content := by
  rw [entry] at h
  split at h
  · cases h
  · next hnull =>
      rw [read, if_neg hnull]
      split at h
      · next place hfind =>
          rw [hfind]
          dsimp only
          rw [Except.ok.inj h]
      · cases h
      · cases h

/-- Where a file stands, one goes on standing. -/
theorem Keeps.entry_file (h : Keeps fs after) {path : Text} {content : Octets}
    {executable : Bool} (hfile : fs.entry path = .ok (some (.file content executable))) :
    ∃ content' executable', after.entry path = .ok (some (.file content' executable')) := by
  rw [entry] at hfile
  split at hfile
  · cases hfile
  · next hnull =>
      split at hfile
      · next place hfind =>
          -- the path still leads to the same place, and a file does not become a directory
          obtain ⟨left, hleft, hkind⟩ := h.kind place _ (Except.ok.inj hfile)
          rw [entry_of_find (by simpa using hnull) (h.find hfind), hleft]
          cases left with
          | directory => cases hkind.1 rfl
          | file content' executable' => exact ⟨content', executable', rfl⟩
      · cases hfile
      · cases hfile

/-- Writing to a path keeps a tree sound, loses nothing, and leaves a file with the content at the
end of the path. -/
theorem Sound.write (hs : fs.Sound) {path : Text} (hpath : path ≠ []) {content : Octets}
    (h : fs.write path content = .ok after) :
    after.Sound ∧ Keeps fs after
      ∧ ∃ executable, after.entry path = .ok (some (.file content executable)) := by
  rw [Files.write] at h
  split at h
  · cases h
  · next hnull =>
      rw [Bool.not_eq_true] at hnull
      split at h
      · next place hfind =>
          split at h
          · next old executable hfile =>
              cases h
              obtain ⟨hsound, hkeeps, hstands⟩ := hs.put_file hfile
              refine ⟨hsound, hkeeps, executable, ?_⟩
              rw [entry_of_find hnull (hkeeps.find hfind), hstands]
          · cases h
      · next hfind =>
          split at h
          · next place hnew =>
              cases h
              obtain ⟨hsound, hkeeps, hleads, hstands⟩ :=
                hs.put_new hpath hfind hnew (.file content false)
              refine ⟨hsound, hkeeps, false, ?_⟩
              rw [entry_of_find hnull hleads, hstands]
          · cases h
      · cases h

/-- Where nothing can be written no file stands. -/
theorem entry_ne_file_of_write_eq_error {path : Text} {content : Octets} {fault : FileFault}
    (h : fs.write path content = .error fault) (old : Octets) (executable : Bool) :
    fs.entry path ≠ .ok (some (.file old executable)) := by
  intro hentry
  rw [entry] at hentry
  rw [Files.write] at h
  split at hentry
  · cases hentry
  · next hnull =>
      rw [if_neg hnull] at h
      split at hentry
      · next place hfind =>
          rw [hfind] at h
          dsimp only at h
          rw [Except.ok.inj hentry] at h
          cases h
      · cases hentry
      · cases hentry

/-- A new directory keeps a tree sound. -/
theorem Sound.makeDirectory (hs : fs.Sound) {path : Text} (hpath : path ≠ [])
    (h : fs.makeDirectory path = .ok after) : after.Sound ∧ Keeps fs after := by
  rw [Files.makeDirectory] at h
  split at h
  · cases h
  split at h
  · cases h
  · next hfind =>
      split at h
      · next place hnew =>
          cases h
          obtain ⟨hsound, hkeeps, -⟩ := hs.put_new hpath hfind hnew .directory
          exact ⟨hsound, hkeeps⟩
      · cases h
  · cases h

end LintMend.Files

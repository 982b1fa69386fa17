import LintMend.Proofs.Files.Walk
import LintMend.Proofs.Text.Pieces

/-! # Directories on the way

What is made when the directories above a file are made, and why a file is at the end of no path
whose directories could not be made.
* `Path.WellFormed`: paths whose names are what stands between slashes; `Path.wellFormed_ofText`.
* `Files.Sound.find_text`: such a path leads where its names lead.
* `Files.Sound.ensureDirectory_of_prefix`: where it leads to something, the directories on the way
  need not be made.
* `Files.Sound.makeDirectories`: making directories keeps a tree sound, whether it fails or not.
* `Files.Sound.entry_ne_file_of_fault`: if it fails, no file is below them. -/

namespace LintMend

/-! ## Well-formed paths -/

namespace Path

/-- Whether the names of a path are such as stand between slashes. -/
def WellFormed (p : Path) : Prop := ∀ name ∈ p.names, name ≠ [] ∧ '/' ∉ name

/-- A path that is read from a text is well-formed. -/
theorem wellFormed_ofText (t : Text) : (ofText t).WellFormed := by
  intro name hname
  obtain ⟨hpiece, hkept⟩ := List.mem_filter.1 hname
  have hne : name ≠ [] ∧ name ≠ selfName := of_decide_eq_true hkept
  refine ⟨hne.1, fun hslash => ?_⟩
  have hnot := (Text.of_mem_pieces hpiece hslash).2
  exact absurd hnot (by decide)

variable {p : Path}

/-- So is a path of some of its first names. -/
theorem WellFormed.of_prefix (hp : p.WellFormed) {front : List Text} (hfront : front <+: p.names) :
    WellFormed ⟨p.anchor, front⟩ := fun name hname => hp name (hfront.subset hname)

/-- Names joined by slashes are parted at the slashes again. -/
theorem pieces_join {names : List Text} (hne : names ≠ [])
    (hnames : ∀ name ∈ names, '/' ∉ name) :
    Text.pieces (· == '/') (Text.join ['/'] names) = names := by
  induction names with
  | nil => exact absurd rfl hne
  | cons name names ih =>
      rw [List.forall_mem_cons] at hnames
      by_cases hlast : names = []
      · subst hlast
        rw [Text.join_singleton, Text.pieces_of_not_mem hnames.1]
      · rw [Text.join_cons_of_ne_nil _ _ hlast, List.append_assoc, List.singleton_append,
          Text.pieces_append_cons hnames.1, ih hlast hnames.2]

/-- The text of a well-formed path is not empty. -/
theorem WellFormed.text_ne_nil (hp : p.WellFormed) : p.text ≠ [] := by
  rw [text]
  split
  · split
    · exact List.cons_ne_nil _ _
    · next hne =>
        obtain ⟨first, others, hcons⟩ := List.exists_cons_of_ne_nil hne
        intro hnil
        have hfirst := (hp first (by rw [hcons]; exact List.mem_cons_self)).1
        have hpieces := pieces_join hne fun name hname => (hp name hname).2
        rw [hnil, Text.pieces_nil, hcons, List.cons.injEq] at hpieces
        exact hfirst hpieces.1.symm
  · exact List.cons_ne_nil _ _
  · exact List.cons_ne_nil _ _

/-- The first of some joined texts are at the beginning. -/
theorem join_append (between : Text) (front back : List Text) :
    ∃ rest, Text.join between (front ++ back) = Text.join between front ++ rest := by
  induction front with
  | nil => exact ⟨_, rfl⟩
  | cons piece front ih =>
      by_cases hfront : front = []
      · subst hfront
        by_cases hback : back = []
        · exact ⟨[], by rw [hback, List.append_nil, List.append_nil]⟩
        · refine ⟨between ++ Text.join between back, ?_⟩
          rw [List.singleton_append, Text.join_cons_of_ne_nil _ _ hback, Text.join_singleton,
            List.append_assoc]
      · obtain ⟨rest, hrest⟩ := ih
        refine ⟨rest, ?_⟩
        have hmore : front ++ back ≠ [] := List.append_ne_nil_of_left_ne_nil hfront back
        rw [List.cons_append, Text.join_cons_of_ne_nil _ _ hmore, hrest,
          Text.join_cons_of_ne_nil _ _ hfront, List.append_assoc _ _ rest]

/-- The text of a path begins with the text of its first names, unless there are none and that is a
dot. -/
theorem text_append (anchor : Anchor) (front back : List Text) :
    text ⟨anchor, front⟩ = selfName
      ∨ ∃ rest, text ⟨anchor, front ++ back⟩ = text ⟨anchor, front⟩ ++ rest := by
  obtain ⟨rest, hrest⟩ := join_append ['/'] front back
  cases anchor with
  | here =>
      by_cases hfront : front = []
      · exact .inl (if_pos hfront)
      · refine .inr ⟨rest, ?_⟩
        simp only [text, hfront, List.append_eq_nil_iff, false_and, if_false, hrest]
  | root => exact .inr ⟨rest, by simp only [text, hrest, List.cons_append]⟩
  | doubleRoot => exact .inr ⟨rest, by simp only [text, hrest, List.cons_append]⟩

end Path

/-! ## Finding -/

namespace Files

variable {fs after : Files} {place : Place} {p : Path}

/-- Where a path with this anchor starts. -/
def startOf (fs : Files) (anchor : Anchor) : Place := if anchor = .here then fs.here else []

/-- An empty name stays at the root. -/
theorem walk_root_nil_cons (fs : Files) (names : List Text) :
    fs.walk [] ([] :: names) = fs.walk [] names := by
  rw [walk_cons, standsAt?_nil]
  exact if_pos (.inl rfl)

/-- The pieces of joined names lead from the root where the names lead. -/
theorem walk_root_pieces_join {names : List Text} (hnames : ∀ name ∈ names, '/' ∉ name) :
    fs.walk [] (Text.pieces (· == '/') (Text.join ['/'] names)) = fs.walk [] names := by
  by_cases hne : names = []
  · subst hne
    exact walk_root_nil_cons fs []
  · rw [Path.pieces_join hne hnames]

/-- A well-formed path leads where its names lead, if it is not too long. -/
theorem Sound.find_text (hs : fs.Sound) (hp : p.WellFormed) :
    fs.find p.text = if maxPath ≤ (Text.encode p.text).length then .error .nameTooLong
      else fs.walk (fs.startOf p.anchor) p.names := by
  have hnames : ∀ name ∈ p.names, '/' ∉ name := fun name hname => (hp name hname).2
  have hwalk : fs.walk (fs.start p.text) (Text.pieces (· == '/') p.text)
      = fs.walk (fs.startOf p.anchor) p.names := by
    obtain ⟨anchor, names⟩ := p
    cases anchor with
    | here =>
        by_cases hne : names = []
        · subst hne
          have hpieces : Text.pieces (· == '/') selfName = [selfName] := by decide
          change fs.walk fs.here (Text.pieces (· == '/') selfName) = fs.walk fs.here []
          rw [hpieces, walk_cons, hs.here]
          exact if_pos (.inr rfl)
        · have htext : Path.text ⟨.here, names⟩ = Text.join ['/'] names := if_neg hne
          have hpieces := Path.pieces_join hne hnames
          -- a path that does not begin with a slash starts at the present directory
          have hhead : (Text.join ['/'] names).head? ≠ some '/' := by
            intro hhead
            obtain ⟨rest, hrest⟩ := List.head?_eq_some_iff.1 hhead
            rw [hrest, Text.pieces_cons_of_separates (by decide)] at hpieces
            have hmem : [] ∈ names := hpieces ▸ List.mem_cons_self
            exact (hp [] hmem).1 rfl
          rw [htext, hpieces, Files.start, if_neg hhead]
          rfl
    | root =>
        change fs.walk [] (Text.pieces (· == '/') ('/' :: Text.join ['/'] names)) = _
        rw [Text.pieces_cons_of_separates (by decide), walk_root_nil_cons,
          walk_root_pieces_join hnames]
        rfl
    | doubleRoot =>
        change fs.walk [] (Text.pieces (· == '/') ('/' :: '/' :: Text.join ['/'] names)) = _
        rw [Text.pieces_cons_of_separates (by decide), Text.pieces_cons_of_separates (by decide),
          walk_root_nil_cons, walk_root_nil_cons, walk_root_pieces_join hnames]
        rfl
  rw [find, if_neg hp.text_ne_nil, hwalk]

/-- A text has an octet at least for each character. -/
theorem length_le_length_encode (t : Text) : t.length ≤ (Text.encode t).length := by
  induction t with
  | nil => exact Nat.le_refl 0
  | cons c t ih =>
      have hc : 1 ≤ (Text.encodeChar c).length := by
        rw [Text.encodeChar]
        split
        · exact Nat.le_refl 1
        split
        · exact Nat.le_add_left 1 1
        split
        · exact Nat.le_add_left 1 2
        · exact Nat.le_add_left 1 3
      rw [Text.encode_cons, List.length_append, List.length_cons, Nat.add_comm t.length]
      exact Nat.add_le_add hc ih

/-- The text of some of the first names is no longer than that of all of them. -/
theorem length_encode_text_le (hp : p.WellFormed) {front back : List Text}
    (hnames : p.names = front ++ back) :
    (Text.encode (Path.text ⟨p.anchor, front⟩)).length ≤ (Text.encode p.text).length := by
  have htext : p.text = Path.text ⟨p.anchor, front ++ back⟩ := by rw [← hnames]
  rcases Path.text_append p.anchor front back with hself | ⟨rest, hrest⟩
  · have hone : 1 ≤ p.text.length := List.length_pos_iff.2 hp.text_ne_nil
    have hdot : (Text.encode selfName).length = 1 := by decide
    rw [hself, hdot]
    exact Nat.le_trans hone (length_le_length_encode p.text)
  · rw [htext, hrest, Text.encode_append, List.length_append]
    exact Nat.le_add_right _ _

/-- What a path leads to is in a directory, and so is everything on the way. -/
theorem Sound.find_of_prefix (hs : fs.Sound) (hp : p.WellFormed) {front back : List Text}
    (hnames : p.names = front ++ back) (hback : back ≠ []) (hfind : fs.find p.text = .ok place) :
    ∃ reached, fs.find (Path.text ⟨p.anchor, front⟩) = .ok reached
      ∧ fs.standsAt? reached = some .directory := by
  have hfront : Path.WellFormed ⟨p.anchor, front⟩ :=
    hp.of_prefix (hnames ▸ List.prefix_append front back)
  have hlonger := length_encode_text_le hp hnames
  rw [hs.find_text hp] at hfind
  split at hfind
  · cases hfind
  · next hlength =>
      rw [hnames, walk_append] at hfind
      have hshort : ¬maxPath ≤ (Text.encode (Path.text ⟨p.anchor, front⟩)).length := by omega
      rw [hs.find_text hfront, if_neg hshort]
      cases hwalk : fs.walk (fs.startOf p.anchor) front with
      | error why =>
          rw [hwalk] at hfind
          cases hfind
      | ok reached =>
          refine ⟨reached, rfl, ?_⟩
          -- the walk goes on from there, which it does only from a directory
          rw [hwalk] at hfind
          obtain ⟨name, others, rfl⟩ := List.exists_cons_of_ne_nil hback
          dsimp only at hfind
          rw [walk_cons] at hfind
          split at hfind
          · cases hfind
          · cases hfind
          · assumption

/-- A directory that is there already is left alone. -/
theorem ensureDirectory_of_find {path : Text} (hnull : path.contains '\x00' = false)
    (hfind : fs.find path = .ok place) (hplace : fs.standsAt? place = some .directory) :
    fs.ensureDirectory path = .ok fs := by
  have hmake : fs.makeDirectory path = .error (.mishap .present path) := by
    rw [makeDirectory, hnull, hfind]
    rfl
  have hdirectory : fs.isDirectory path = .ok true := by
    rw [isDirectory, entry_of_find hnull hfind, hplace]
    rfl
  rw [ensureDirectory, hmake]
  dsimp only
  rw [hdirectory]

/-- Where a path leads to something, the directories on the way are there. -/
theorem Sound.ensureDirectory_of_prefix (hs : fs.Sound) (hp : p.WellFormed)
    {front back : List Text} (hnames : p.names = front ++ back) (hback : back ≠ [])
    (hnull : p.text.contains '\x00' = false) (hfind : fs.find p.text = .ok place) :
    fs.ensureDirectory (Path.text ⟨p.anchor, front⟩) = .ok fs := by
  have hplain : (Path.text ⟨p.anchor, front⟩).contains '\x00' = false := by
    have htext : p.text = Path.text ⟨p.anchor, front ++ back⟩ := by rw [← hnames]
    rcases Path.text_append p.anchor front back with hself | ⟨rest, hrest⟩
    · rw [hself]
      decide
    · rw [htext, hrest, List.contains_eq_any_beq, List.any_append, Bool.or_eq_false_iff] at hnull
      rw [List.contains_eq_any_beq]
      exact hnull.1
  obtain ⟨reached, hreached, hdirectory⟩ := hs.find_of_prefix hp hnames hback hfind
  exact ensureDirectory_of_find hplain hreached hdirectory

/-! ## Making directories -/

/-- Making sure of a directory keeps a tree sound. -/
theorem Sound.ensureDirectory (hs : fs.Sound) {path : Text} (hpath : path ≠ [])
    (h : fs.ensureDirectory path = .ok after) : after.Sound ∧ Keeps fs after := by
  rw [Files.ensureDirectory] at h
  split at h
  · next hmake =>
      cases h
      exact hs.makeDirectory hpath hmake
  · cases h
  · cases h
  · split at h
    · cases h
    · cases h
      exact ⟨hs, Keeps.refl _⟩
    · cases h

/-- So does the attempt of it. -/
theorem Sound.ofStep_ensureDirectory (hs : fs.Sound) {path : Text} (hpath : path ≠ []) :
    (Attempt.ofStep fs (fs.ensureDirectory path)).files.Sound
      ∧ Keeps fs (Attempt.ofStep fs (fs.ensureDirectory path)).files := by
  cases hmade : fs.ensureDirectory path with
  | ok made => exact hs.ensureDirectory hpath hmade
  | error fault => exact ⟨hs, Keeps.refl fs⟩

/-- If that attempt fails, the directory cannot be made in what it leaves. -/
theorem ensureDirectory_of_ofStep {path : Text}
    (h : (Attempt.ofStep fs (fs.ensureDirectory path)).fault ≠ none) :
    ∃ fault, (Attempt.ofStep fs (fs.ensureDirectory path)).files.ensureDirectory path
      = .error fault := by
  cases hmade : fs.ensureDirectory path with
  | ok made =>
      rw [hmade] at h
      exact absurd rfl h
  | error fault => exact ⟨fault, hmade⟩

/-- An attempt to make directories keeps a tree sound, whether it fails or not. -/
theorem Sound.makeDirectoriesFrom (hs : fs.Sound) {anchor : Anchor} (more : Nat)
    {names : List Text} (hnames : Path.WellFormed ⟨anchor, names.reverse⟩) :
    (fs.makeDirectoriesFrom anchor more names).files.Sound
      ∧ Keeps fs (fs.makeDirectoriesFrom anchor more names).files := by
  fun_induction Files.makeDirectoriesFrom fs anchor more names with
  | case1 => exact hs.ofStep_ensureDirectory hnames.text_ne_nil
  | case2 => exact ⟨hs, Keeps.refl fs⟩
  | case3 name above path _ more _ ih =>
      -- the directories above are made first, and then this one in what they have left
      have habove : Path.WellFormed ⟨anchor, above.reverse⟩ := by
        refine hnames.of_prefix ?_
        rw [List.reverse_cons]
        exact List.prefix_append _ _
      obtain ⟨hsound, hkeeps⟩ := ih habove
      rw [Attempt.andThen]
      split
      · exact ⟨hsound, hkeeps⟩
      · obtain ⟨hsound', hkeeps'⟩ := hsound.ofStep_ensureDirectory hnames.text_ne_nil
        exact ⟨hsound', hkeeps.trans hkeeps'⟩
  | case4 => exact hs.ofStep_ensureDirectory hnames.text_ne_nil

/-- Where an attempt to make directories fails, one on the way is not there and cannot be made. -/
theorem ensureDirectory_of_fault {anchor : Anchor} {more : Nat} {names : List Text}
    (h : (fs.makeDirectoriesFrom anchor more names).fault ≠ none) :
    ∃ front, front <+: names.reverse ∧ ∃ fault,
      (fs.makeDirectoriesFrom anchor more names).files.ensureDirectory
        (Path.text ⟨anchor, front⟩) = .error fault := by
  fun_induction makeDirectoriesFrom fs anchor more names with
  | case1 => exact ⟨[], List.prefix_refl _, ensureDirectory_of_ofStep h⟩
  | case2 name above path _ hmissing => exact ⟨_, List.prefix_refl _, _, hmissing⟩
  | case3 name above path _ more _ ih =>
      rw [Attempt.andThen] at h ⊢
      split at h
      · next fault hfault =>
          obtain ⟨front, hfront, hlast⟩ := ih (by rw [hfault]; exact nofun)
          refine ⟨front, ?_, hlast⟩
          rw [List.reverse_cons]
          exact hfront.trans (List.prefix_append _ _)
      · exact ⟨_, List.prefix_refl _, ensureDirectory_of_ofStep h⟩
  | case4 => exact ⟨_, List.prefix_refl _, ensureDirectory_of_ofStep h⟩

/-- Making the directories above a path keeps a tree sound, whether it fails or not. -/
theorem Sound.makeDirectories (hs : fs.Sound) (hp : p.WellFormed) :
    (fs.makeDirectories p.parent).files.Sound
      ∧ Keeps fs (fs.makeDirectories p.parent).files := by
  refine hs.makeDirectoriesFrom _ ?_
  rw [List.reverse_reverse]
  exact hp.of_prefix (List.dropLast_prefix p.names)

/-- A path at whose end a file stands has names, and no null character in its text. -/
theorem Sound.find_of_file (hs : fs.Sound) (hp : p.WellFormed) {content : Octets}
    {executable : Bool} (h : fs.entry p.text = .ok (some (.file content executable))) :
    p.names ≠ [] ∧ p.text.contains '\x00' = false ∧ ∃ place, fs.find p.text = .ok place := by
  rw [entry] at h
  split at h
  · cases h
  · next hnull =>
      split at h
      · next place hfind =>
          refine ⟨fun hnames => ?_, by simpa using hnull, place, hfind⟩
          -- without names the path leads to a directory
          have hstart : fs.standsAt? (fs.startOf p.anchor) = some .directory := by
            rw [startOf]
            split
            · exact hs.here
            · rfl
          rw [hs.find_text hp, hnames, walk_nil] at hfind
          split at hfind
          · cases hfind
          · cases hfind
            rw [hstart] at h
            cases h
      · cases h
      · cases h

/-- If the directories above a path cannot be made, no file is at the end of the path. -/
theorem Sound.entry_ne_file_of_fault (hs : fs.Sound) (hp : p.WellFormed)
    (h : (fs.makeDirectories p.parent).fault ≠ none) (content : Octets) (executable : Bool) :
    (fs.makeDirectories p.parent).files.entry p.text
      ≠ .ok (some (.file content executable)) := by
  intro hfile
  obtain ⟨hsound, -⟩ := hs.makeDirectories hp
  obtain ⟨hne, hnull, place, hfind⟩ := hsound.find_of_file hp hfile
  -- the directory that could not be made is on the way to the file, so it is there
  obtain ⟨front, ⟨middle, hmiddle⟩, fault, hfault⟩ := ensureDirectory_of_fault h
  have hnames : p.names = front ++ (middle ++ [p.names.getLast hne]) := by
    rw [← List.append_assoc, hmiddle, List.reverse_reverse]
    exact (List.dropLast_concat_getLast hne).symm
  have hthere := hsound.ensureDirectory_of_prefix hp hnames (by simp) hnull hfind
  exact nomatch hthere.symm.trans hfault

end Files

end LintMend

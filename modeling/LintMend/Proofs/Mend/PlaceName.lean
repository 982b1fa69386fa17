import LintMend.Mend.GuardName
import LintMend.Proofs.Files.Spelling

/-! # Guard names by place

The guard of a file that has none is named for where the file is: for the names that lead down to it
from the root of the project, or for its own name if it is not below that root.
* `GuardName.capitals`, `GuardName.ofText_eq`: how a name is made of a text.
* `GuardName.exists_stem_ofPath`: the names are all made of capital letters, digits and low lines.
* `GuardName.ofPath_of_below`, `GuardName.ofPath_of_not_below`: the name of a file that is at or
  under the root, and of one that is not.
* `GuardName.NamedByPlace`, `GuardName.namedByPlace`: so how the paths are spelled does not
  matter. -/

namespace LintMend

open Text

namespace GuardName

variable {base : Place} {path : Path} {root : Option Path}

/-! ## Capitals -/

/-- A text with low lines for all but the plain letters and digits, in upper case, and with a low
line at its end. -/
def capitals (t : Text) : Text :=
  (t.map fun c => if c.isAlphanum then c else '_').map Char.toUpper ++ ['_']

/-- This is how a guard name is made of a text. -/
theorem ofText_eq (t : Text) : ofText t = capitals t := by
  have hchar : sanitizeChar = Char.toUpper ∘ fun c => if c.isAlphanum then c else '_' := by
    funext c
    rw [sanitizeChar, Function.comp_apply]
    split
    · rfl
    · decide
  rw [ofText, capitals, List.map_map, hchar]

/-- Whether a character is a capital letter of the plain set, a digit, or the low line. -/
def isCapital (c : Char) : Bool := c.isUpper || c.isDigit || c == '_'

/-- A character of a guard name is one of these. -/
theorem isCapital_sanitizeChar (c : Char) : isCapital (sanitizeChar c) = true := by
  rw [sanitizeChar]
  split
  · next h => exact of_isAlphanum (P := fun c => isCapital c.toUpper = true) (by decide) h
  · decide

/-- Every name that a path gives is made of such characters, and ends with a low line. -/
theorem exists_stem_ofPath (base : Place) (path root : Option Path) :
    ∃ stem, ofPath base path root = stem ++ ['_'] ∧ ∀ c ∈ stem, isCapital c = true := by
  have htext : ∀ t, ∃ stem, ofText t = stem ++ ['_'] ∧ ∀ c ∈ stem, isCapital c = true := by
    refine fun t => ⟨_, rfl, fun c hc => ?_⟩
    obtain ⟨d, -, rfl⟩ := List.mem_map.1 hc
    exact isCapital_sanitizeChar d
  unfold ofPath
  split
  · have huntitled : untitled.all isCapital = true := by decide
    exact ⟨untitled, rfl, List.all_eq_true.1 huntitled⟩
  · split
    · exact htext _
    · exact htext _

/-! ## Files and roots -/

/-- The names below the root are those behind its own. -/
theorem below?_eq_some_iff {names : List Text} :
    below? base path root = some names ↔ ∃ r top, root = some r ∧ r.resolve? base = some top
      ∧ path.resolve? base = some (top ++ names) := by
  unfold below?
  constructor
  · intro h
    split at h
    · cases h
    · next r =>
        split at h
        · next place top hplace htop =>
            exact ⟨r, top, rfl, htop, by rw [hplace, Place.below?_eq_some_iff.1 h]⟩
        · cases h
  · rintro ⟨r, top, rfl, htop, hplace⟩
    simp only [htop, hplace]
    exact Place.below?_eq_some_iff.2 rfl

/-- A file that is at or under the root is named for the names that lead down to it. -/
theorem ofPath_of_below {names : List Text} (h : below? base path root = some names) :
    ofPath base (some path) root = ofText (Path.text ⟨.here, names⟩) := by
  simp only [ofPath, h]

/-- A file that is not under the root is named for its own name. -/
theorem ofPath_of_not_below (h : below? base path root = none) :
    ofPath base (some path) root = ofText path.name := by
  simp only [ofPath, h]

/-- It does not matter whether the names that lead to a file are joined by slashes or by low
lines. -/
theorem ofText_text {names : List Text} (h : names ≠ []) :
    ofText (Path.text ⟨.here, names⟩) = capitals (join ['_'] names) := by
  have hslash : ['/'].map sanitizeChar = ['_'].map sanitizeChar := by decide
  have htext : Path.text ⟨.here, names⟩ = join ['/'] names := if_neg h
  rw [htext, ← ofText_eq, ofText, ofText, map_join, map_join, hslash]

/-- Paths to the same places give the same name, if the file is under the root or its own name is
the same. -/
theorem ofPath_congr {path' r r' : Path} (hpath : path'.resolve? base = path.resolve? base)
    (hr : r'.resolve? base = r.resolve? base)
    (h : below? base path (some r) ≠ none ∨ path'.name = path.name) :
    ofPath base (some path') (some r') = ofPath base (some path) (some r) := by
  have hbelow : below? base path' (some r') = below? base path (some r) := by
    simp only [below?, hpath, hr]
  cases hnames : below? base path (some r) with
  | some names => rw [ofPath_of_below hnames, ofPath_of_below (hbelow.trans hnames)]
  | none =>
      rw [ofPath_of_not_below hnames, ofPath_of_not_below (hbelow.trans hnames),
        h.resolve_left (not_not.2 hnames)]

/-! ## Texts that lead somewhere -/

section Texts

variable {path : Text} {root : Option Text}

/-- The names below the root are those of the place of the file behind those of the root's. -/
theorem below?_ofText_eq_some_iff (hpath : '\x00' ∉ path) (hroot : ∀ r, root = some r → '\x00' ∉ r)
    {names : List Text} :
    below? base (.ofText path) (root.map .ofText) = some names ↔ ∃ r, root = some r
      ∧ (Path.ofText path).resolve base = (Path.ofText r).resolve base ++ names := by
  rw [below?_eq_some_iff]
  constructor
  · rintro ⟨_, top, hr, htop, hplace⟩
    obtain ⟨r, rfl, rfl⟩ := Option.map_eq_some_iff.1 hr
    rw [Path.resolve?_of_not_mem (hroot r rfl)] at htop
    rw [Path.resolve?_of_not_mem hpath] at hplace
    cases htop
    exact ⟨r, rfl, Option.some.inj hplace⟩
  · rintro ⟨r, rfl, hplace⟩
    refine ⟨_, _, rfl, Path.resolve?_of_not_mem (hroot r rfl) base, ?_⟩
    rw [Path.resolve?_of_not_mem hpath, hplace]

/-- A file whose place is not under that of a root is named for its own name. -/
theorem ofPath_ofText_of_not_prefix (hpath : '\x00' ∉ path)
    (hroot : ∀ r, root = some r → '\x00' ∉ r)
    (h : ∀ r, root = some r → ¬(Path.ofText r).resolve base <+: (Path.ofText path).resolve base) :
    ofPath base (some (.ofText path)) (root.map .ofText) = capitals (Path.ofText path).name := by
  rw [← ofText_eq]
  refine ofPath_of_not_below (Option.eq_none_iff_forall_ne_some.2 fun names hnames => ?_)
  obtain ⟨r, hr, hplace⟩ := (below?_ofText_eq_some_iff hpath hroot).1 hnames
  exact h r hr ⟨names, hplace.symm⟩

/-- A directory is not below another one because its name begins like the name of that. -/
theorem not_prefix_of_longer_name (above others : Place) (last : Text) {more : Text}
    (h : more ≠ []) : ¬above ++ [last] <+: above ++ (last ++ more) :: others := by
  rw [List.prefix_append_right_inj, List.cons_prefix_cons]
  rintro ⟨hname, -⟩
  exact h (List.self_eq_append_right.1 hname)

end Texts

/-! ## Guards -/

/-- Whether the guard of a file is named for its place. -/
structure NamedByPlace (base : Place) (path : Text) (root : Option Text) : Prop where
  /-- A file under the root is named for the names that lead down to it. -/
  under : ∀ r names, root = some r → names ≠ [] →
    (Path.ofText path).resolve base = (Path.ofText r).resolve base ++ names →
    ofPath base (some (.ofText path)) (root.map .ofText) = capitals (join ['_'] names)
  /-- It has the same name however the two paths are spelled. If the file is not under the root, its
  own name has to be the same. -/
  respelled : ∀ r path' r', root = some r → Relation.EqvGen (Path.Respells base) path path' →
    Relation.EqvGen (Path.Respells base) r r' →
    (Path.ofText r).resolve base <+: (Path.ofText path).resolve base
      ∨ (Path.ofText path').name = (Path.ofText path).name →
    ofPath base (some (.ofText path')) (some (.ofText r'))
      = ofPath base (some (.ofText path)) (root.map .ofText)
  /-- A file that is not under the root, or for which there is no root, is named for its name. -/
  beside : (∀ r, root = some r →
      ¬(Path.ofText r).resolve base <+: (Path.ofText path).resolve base) →
    ofPath base (some (.ofText path)) (root.map .ofText) = capitals (Path.ofText path).name
  /-- A directory is not under the root because its name begins like that of the root. -/
  sibling : ∀ r above last more others, root = some r → more ≠ [] →
    (Path.ofText r).resolve base = above ++ [last] →
    (Path.ofText path).resolve base = above ++ (last ++ more) :: others →
    ofPath base (some (.ofText path)) (root.map .ofText) = capitals (Path.ofText path).name
  /-- The name is made of capital letters, digits and low lines, and ends with a low line. -/
  stem : ∃ stem, ofPath base (some (.ofText path)) (root.map .ofText) = stem ++ ['_']
    ∧ ∀ c ∈ stem, isCapital c = true

/-- The guards of all files are named for their places. -/
theorem namedByPlace {path : Text} {root : Option Text} (hpath : '\x00' ∉ path)
    (hroot : ∀ r, root = some r → '\x00' ∉ r) (base : Place) : NamedByPlace base path root := by
  refine ⟨fun r names hr hne hplace => ?_, ?_, ofPath_ofText_of_not_prefix hpath hroot, ?_,
    exists_stem_ofPath _ _ _⟩
  · have hbelow := (below?_ofText_eq_some_iff hpath hroot).2 ⟨r, hr, hplace⟩
    rw [ofPath_of_below hbelow, ofText_text hne]
  · rintro r path' r' rfl hpath' hr' h
    refine ofPath_congr (Path.resolve?_eq_of_eqvGen hpath').symm
      (Path.resolve?_eq_of_eqvGen hr').symm (h.imp_left ?_)
    rintro ⟨names, hplace⟩
    have hbelow := (below?_ofText_eq_some_iff hpath hroot).2 ⟨r, rfl, hplace.symm⟩
    exact Option.ne_none_iff_exists'.2 ⟨names, hbelow⟩
  · rintro r above last more others rfl hmore htop hplace
    refine ofPath_ofText_of_not_prefix hpath hroot fun r hr => ?_
    cases hr
    rw [htop, hplace]
    exact not_prefix_of_longer_name above others last hmore

/-- A header that is spelled in a roundabout way, and one of a root that only begins like its
directory. -/
theorem namedByPlace_roundabout :
    let here : Place := ["home".toList, "me".toList]
    let path : Text := "../you//src/x/../a-b/./é.h".toList
    let top : Text := "/home/you/./src".toList
    let like : Text := "/home/you/sr".toList
    ofPath here (some (.ofText path)) (some (.ofText top)) = "A_B___H_".toList
      ∧ ofPath here (some (.ofText ("/home/me/".toList ++ path)))
          (some (.ofText "/home/you/src".toList)) = "A_B___H_".toList
      ∧ ofPath here (some (.ofText path)) (some (.ofText like)) = "__H_".toList := by
  intro here path top like
  have hpath : '\x00' ∉ path := by decide
  have htop : ∀ r, some top = some r → '\x00' ∉ r := by
    rintro r ⟨⟩
    decide
  have hlike : ∀ r, some like = some r → '\x00' ∉ r := by
    rintro r ⟨⟩
    decide
  have hplaced := namedByPlace hpath htop here
  have hname : ofPath here (some (.ofText path)) (some (.ofText top)) = "A_B___H_".toList :=
    (hplaced.under top ["a-b".toList, "é.h".toList] rfl (by decide) (by decide)).trans (by decide)
  refine ⟨hname, ?_, ?_⟩
  · have habsolute : Path.Respells here path ("/home/me/".toList ++ path) :=
      .fromRoot (by decide) (by decide)
    have hdirect : Path.Respells here "/home/you/src".toList top :=
      .behindSlash .self "/home/you".toList "src".toList
    exact (hplaced.respelled top _ _ rfl (.rel _ _ habsolute) (.symm _ _ (.rel _ _ hdirect))
      (.inl (by decide))).trans hname
  · exact ((namedByPlace hpath hlike here).sibling like ["home".toList, "you".toList] "sr".toList
      "c".toList ["a-b".toList, "é.h".toList] rfl (by decide) (by decide) (by decide)).trans
      (by decide)

end GuardName

end LintMend

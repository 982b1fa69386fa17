import LintMend.Proofs.Files.Walk

/-! # Names that are too long

When a path cannot be looked for. It has too many octets, or one of its names has, and the names
before that one lead to a directory: a walk that ends before it does not get to see the name.
* `Files.walk_eq_nameTooLong_iff`: the walks that meet such a name, by induction on the names.
* `Files.IsTooLong`, `Files.find_eq_nameTooLong_iff`: the paths that do.
* `Files.entry_eq_error_iff`: nothing else keeps one from saying what stands at a path, in a tree
  without permissions. -/

namespace LintMend.Files

variable {fs : Files} {place : Place}

/-! ## Walks -/

/-- A walk of one name meets a mishap of that kind if the name is too long. -/
theorem walk_singleton_eq_nameTooLong_iff {name : Text} :
    fs.walk place [name] = .error .nameTooLong
      ↔ fs.standsAt? place = some .directory ∧ maxName < (Text.encode name).length := by
  constructor
  · intro h
    rw [walk_cons] at h
    split at h
    · cases h
    · cases h
    · next hdirectory =>
        split at h
        · rw [walk_nil] at h
          cases h
        split at h
        · rw [walk_nil] at h
          cases h
        split at h
        · next hlong => exact ⟨hdirectory, hlong⟩
        split at h
        · cases h
        · rw [walk_nil] at h
          cases h
  · rintro ⟨hdirectory, hlong⟩
    -- the names that are not looked for in the directory are all short
    have hself : ¬ (name = [] ∨ name = selfName) := by
      rintro (rfl | rfl) <;> exact absurd hlong (by decide)
    have hparent : name ≠ parentName := by
      rintro rfl
      exact absurd hlong (by decide)
    rw [walk_cons, hdirectory]
    simp only [if_neg hself, if_neg hparent, if_pos hlong]

/-- A walk meets a name that is too long if the names before it lead to a directory. -/
theorem walk_eq_nameTooLong_iff {names : List Text} :
    fs.walk place names = .error .nameTooLong
      ↔ ∃ front name back reached, names = front ++ name :: back
        ∧ fs.walk place front = .ok reached ∧ fs.standsAt? reached = some .directory
        ∧ maxName < (Text.encode name).length := by
  constructor
  · intro h
    induction names generalizing place with
    | nil =>
        rw [walk_nil] at h
        cases h
    | cons name names ih =>
        -- the first name leads to a place from which the walk goes on, or is too long itself
        have hstep := fs.walk_append place [name]
        rw [← List.singleton_append, hstep] at h
        split at h
        · next next hnext =>
            obtain ⟨front, long, back, reached, rfl, hfront, hlong⟩ := ih h
            refine ⟨name :: front, long, back, reached, rfl, ?_, hlong⟩
            rw [← List.singleton_append, hstep, hnext]
            exact hfront
        · next why hwhy =>
            cases h
            exact ⟨[], name, names, place, rfl, fs.walk_nil place,
              walk_singleton_eq_nameTooLong_iff.1 hwhy⟩
  · rintro ⟨front, name, back, reached, rfl, hfront, hlong⟩
    rw [walk_append, hfront, ← List.singleton_append]
    show fs.walk reached ([name] ++ back) = _
    rw [walk_append, walk_singleton_eq_nameTooLong_iff.2 hlong]

/-! ## Paths -/

/-- Whether a path is too long, or has a name that is too long behind one of a directory. -/
def IsTooLong (fs : Files) (path : Text) : Prop :=
  maxPath ≤ (Text.encode path).length
    ∨ ∃ front name back reached, Text.pieces (· == '/') path = front ++ name :: back
      ∧ fs.walk (fs.start path) front = .ok reached ∧ fs.standsAt? reached = some .directory
      ∧ maxName < (Text.encode name).length

/-- The empty path is not too long. -/
theorem IsTooLong.ne_nil {path : Text} (h : fs.IsTooLong path) : path ≠ [] := by
  rintro rfl
  rcases h with hlong | ⟨front, name, back, reached, hpieces, -, -, hlong⟩
  · exact absurd hlong (by decide)
  · have hname : name ∈ Text.pieces (· == '/') [] := by simp [hpieces]
    obtain rfl : name = [] := by simpa [Text.pieces] using hname
    exact absurd hlong (by decide)

/-- Only a path that is too long, or has such a name, leads to a mishap of that kind. -/
theorem find_eq_nameTooLong_iff {path : Text} :
    fs.find path = .error .nameTooLong ↔ fs.IsTooLong path := by
  rw [find]
  split
  · next hnil =>
      constructor
      · intro h
        cases h
      · intro h
        exact absurd hnil h.ne_nil
  split
  · next hlong => exact ⟨fun _ => .inl hlong, fun _ => rfl⟩
  · next hshort =>
      rw [IsTooLong, walk_eq_nameTooLong_iff]
      exact (or_iff_right hshort).symm

/-- Of a path that is too long, or has such a name, it cannot be said what stands there. With a
null character nothing stands there, however long the path is. -/
theorem entry_eq_error_iff {path : Text} {fault : FileFault} :
    fs.entry path = .error fault
      ↔ '\x00' ∉ path ∧ fs.IsTooLong path ∧ fault = .mishap .nameTooLong path := by
  rw [← find_eq_nameTooLong_iff, entry]
  split
  · next hnull =>
      constructor
      · intro h
        cases h
      · intro h
        exact absurd (List.contains_iff_mem.1 hnull) h.1
  · next hnull =>
      have hplain : '\x00' ∉ path := fun hmem => hnull (List.contains_iff_mem.2 hmem)
      split
      · next place hfind => simp [hfind]
      · next hfind => simp [hfind, hplain, eq_comm]
      · next why hother hfind =>
          constructor
          · intro h
            cases h
          · rintro ⟨-, hlong, -⟩
            exact absurd (Except.error.inj (hfind.symm.trans hlong)) hother

/-- Neither can it be said whether anything stands there. -/
theorem pathExists_eq_error_iff {path : Text} {fault : FileFault} :
    fs.pathExists path = .error fault ↔ fs.entry path = .error fault := by
  rw [pathExists]
  cases fs.entry path <;> simp [Except.map]

/-- Nor whether that is a directory. -/
theorem isDirectory_eq_error_iff {path : Text} {fault : FileFault} :
    fs.isDirectory path = .error fault ↔ fs.entry path = .error fault := by
  rw [isDirectory]
  cases fs.entry path <;> simp [Except.map]

end LintMend.Files

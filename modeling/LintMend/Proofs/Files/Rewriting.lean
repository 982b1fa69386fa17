import LintMend.Proofs.Files.Walk

/-! # Writing over a file

A file that can be read can be written over, and nothing else changes by that.
* `Files.read_eq_ok_iff`: what can be read is the content of the file that a path leads to.
* `Files.Rewritten`: a tree that is another one with the content of one file replaced.
* `Files.write_of_read`: writing to a path that can be read leaves such a tree. -/

namespace LintMend.Files

variable {fs : Files} {path : Text} {old : Octets}

/-- What can be read at a path is the content of the file that it leads to. -/
theorem read_eq_ok_iff :
    fs.read path = .ok old ↔ path.contains '\x00' = false ∧
      ∃ place executable, fs.find path = .ok place
        ∧ fs.standsAt? place = some (.file old executable) := by
  rw [read]
  constructor
  · intro h
    split at h
    · cases h
    · next hnull =>
        refine ⟨Bool.eq_false_iff.2 hnull, ?_⟩
        split at h
        · cases h
        · next place hfind =>
            split at h
            · next content executable hfile =>
                cases h
                exact ⟨place, executable, hfind, hfile⟩
            · cases h
            · cases h
  · rintro ⟨hnull, place, executable, hfind, hfile⟩
    rw [hnull, hfind]
    dsimp only
    rw [hfile]
    rfl

/-- Whether a tree is another one in which the file at a path has new content, and nothing else has
changed. -/
structure Rewritten (fs : Files) (path : Text) (new : Octets) (after : Files) : Prop where
  /-- The content is read at the path. -/
  read : after.read path = .ok new
  /-- The present directory is the same. -/
  here : after.here = fs.here
  /-- A file stood where the path leads and stands there now, and may be executed if it could be
  before. What stands at all other places is the same. -/
  stands : ∃ place executable old, fs.find path = .ok place
    ∧ fs.standsAt? place = some (.file old executable)
    ∧ after.standsAt? place = some (.file new executable)
    ∧ ∀ other, other ≠ place → after.standsAt? other = fs.standsAt? other

/-- A file that can be read can be written over, and nothing else changes. -/
theorem write_of_read (h : fs.read path = .ok old) (new : Octets) :
    ∃ after, fs.write path new = .ok after ∧ Rewritten fs path new after := by
  obtain ⟨hnull, place, executable, hfind, hfile⟩ := read_eq_ok_iff.1 h
  have hplace : place ≠ [] := by
    rintro rfl
    rw [standsAt?_nil] at hfile
    cases hfile
  have hself := standsAt?_put_self fs hplace (.file new executable)
  have hkeeps : Keeps fs (fs.put place (.file new executable)) := by
    refine Keeps.put fun entry hentry => ?_
    rw [hfile] at hentry
    cases hentry
    exact iff_of_false nofun nofun
  refine ⟨fs.put place (.file new executable), ?_, ?_, rfl, ?_⟩
  · rw [write, hnull, hfind]
    dsimp only
    rw [hfile]
    rfl
  · exact read_eq_ok_iff.2 ⟨hnull, place, executable, hkeeps.find hfind, hself⟩
  · exact ⟨place, executable, old, hfind, hfile, hself, fun other hother =>
      standsAt?_put_of_ne fs hother _⟩

/-- Writing the content that a file has changes nothing. -/
theorem Rewritten.standsAt?_eq {after : Files} (h : Rewritten fs path old after)
    (hread : fs.read path = .ok old) (place : Place) :
    after.standsAt? place = fs.standsAt? place := by
  obtain ⟨-, here, _, hfind, hfile⟩ := read_eq_ok_iff.1 hread
  obtain ⟨there, executable, content, hfind', hfile', hself, hothers⟩ := h.stands
  -- the path leads to one place
  rw [hfind] at hfind'
  cases hfind'
  rw [hfile] at hfile'
  cases hfile'
  by_cases hplace : place = here
  · rw [hplace, hself, hfile]
  · exact hothers place hplace

end LintMend.Files

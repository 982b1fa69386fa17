import LintMend.Document.Basic
import LintMend.Proofs.Files.Directories
import LintMend.Proofs.Files.Rewriting
import LintMend.Proofs.Text.Octets
import Mathlib.Data.List.Basic

/-! # Documents that are stored

A text that is saved and loaded again comes back with its line ends unified. That happens only once:
whatever octets a file holds, the document that is loaded from it is saved and loaded as it is.
* `Text.joinFeeds`, `Text.unifyNewlines_eq`: unifying line ends, first of the pairs and then of the
  single carriage returns.
* `Files.Accepts`, `Files.exists_write_iff`: which paths can be written to, whatever the content.
* `Document.save_of_read`, `Document.load_of_read`: the document in a file can be saved, and a file
  that holds a text is loaded with its line ends unified.
* `Document.load_of_save`: so what is loaded after a save has its line ends unified.
* `Document.load_eq_of_save`: which documents can be saved, and what comes back of them. -/

namespace LintMend

open Text

/-! ## Line ends -/

namespace Text

/-- The text with each carriage return and line feed next to each other made one line feed. -/
def joinFeeds : Text → Text
  | [] => []
  | [c] => [c]
  | c :: d :: rest =>
      if c = '\r' ∧ d = '\n' then '\n' :: joinFeeds rest else c :: joinFeeds (d :: rest)

/-- Line ends are unified by joining the pairs, and exchanging the carriage returns that are
left. -/
theorem unifyNewlines_eq (t : Text) : unifyNewlines t = exchange '\r' '\n' (joinFeeds t) := by
  induction t using joinFeeds.induct with
  | case1 => rfl
  | case2 c =>
      by_cases h : c = '\r' <;> simp [unifyNewlines, joinFeeds, exchange, h]
  | case3 c d rest h ih =>
      obtain ⟨rfl, rfl⟩ := h
      rw [unifyNewlines, if_pos rfl, if_pos rfl, ih, joinFeeds, if_pos ⟨rfl, rfl⟩]
      rfl
  | case4 c d rest h ih =>
      rw [unifyNewlines, joinFeeds, if_neg h]
      by_cases hc : c = '\r'
      · rw [if_pos hc, if_neg fun hd => h ⟨hc, hd⟩, ih, hc]
        rfl
      · rw [if_neg hc, ih, exchange, exchange, List.map_cons, if_neg hc]

end Text

/-! ## Paths that can be written to -/

namespace Files

variable {fs : Files} {path : Text}

/-- Whether a path can be written to: it leads to a file, or to nothing in a directory that is
there. -/
def Accepts (fs : Files) (path : Text) : Prop :=
  path.contains '\x00' = false ∧
    ((∃ content, fs.read path = .ok content)
      ∨ fs.find path = .error .missing ∧ ∃ place, fs.findNew path = .ok place)

/-- Whether a path can be written to does not depend on what is written. -/
theorem exists_write_iff {content : Octets} :
    (∃ after, fs.write path content = .ok after) ↔ fs.Accepts path := by
  constructor
  · rintro ⟨after, h⟩
    rw [Files.write] at h
    split at h
    · cases h
    · next hnull =>
        rw [Bool.not_eq_true] at hnull
        refine ⟨hnull, ?_⟩
        split at h
        · next place hfind =>
            split at h
            · next old executable hfile =>
                exact .inl ⟨old, read_eq_ok_iff.2 ⟨hnull, place, executable, hfind, hfile⟩⟩
            · cases h
        · next hfind =>
            split at h
            · next place hnew => exact .inr ⟨hfind, place, hnew⟩
            · cases h
        · cases h
  · rintro ⟨hnull, ⟨old, hread⟩ | ⟨hfind, place, hnew⟩⟩
    · obtain ⟨after, hwrite, -⟩ := write_of_read hread content
      exact ⟨after, hwrite⟩
    · refine ⟨fs.put place (.file content false), ?_⟩
      rw [Files.write, hnull, hfind]
      dsimp only
      rw [hnew]
      rfl

end Files

namespace Document

variable {fs saved : Files} {path : Path} {d : Document}

/-! ## Saving and loading -/

/-- A document is saved by writing its text to its file. -/
theorem save_eq_ok_iff (hpath : d.path = some path) :
    d.save fs = .ok saved ↔ fs.write path.text (encode d.text) = .ok saved := by
  rw [save, hpath]
  dsimp only
  split
  · next written hwrite => rw [hwrite, Except.ok.injEq, Except.ok.injEq]
  · next fault hwrite =>
      rw [hwrite]
      exact iff_of_false nofun nofun

/-- A document in a file can be saved, and only the content of the file changes. -/
theorem save_of_read {content : Octets} (h : fs.read path.text = .ok content)
    (hpath : d.path = some path) :
    ∃ saved, d.save fs = .ok saved ∧ fs.Rewritten path.text (encode d.text) saved := by
  obtain ⟨saved, hwrite, hsaved⟩ := Files.write_of_read h (encode d.text)
  exact ⟨saved, (save_eq_ok_iff hpath).2 hwrite, hsaved⟩

/-- The document in a file that holds a text has its line ends unified. -/
theorem load_of_read {t : Text} (h : fs.read path.text = .ok (encode t)) (root : Option Path) :
    load fs path root = .ok ⟨unifyNewlines t, some path, root, fs.here⟩ := by
  have htext : decodeFile (encode t) = unifyNewlines t :=
    congrArg unifyNewlines (decodeLossy_encode t)
  rw [load, h, ← htext]
  rfl

/-- After a save the file holds the text, and it is loaded with its line ends unified. -/
theorem load_of_save (hs : fs.Sound) (hwell : path.WellFormed) (hpath : d.path = some path)
    (hsave : d.save fs = .ok saved) (root : Option Path) :
    saved.read path.text = .ok (encode d.text)
      ∧ load saved path root = .ok ⟨unifyNewlines d.text, some path, root, fs.here⟩ := by
  obtain ⟨-, hkeeps, executable, hentry⟩ :=
    hs.write hwell.text_ne_nil ((save_eq_ok_iff hpath).1 hsave)
  have hread := Files.read_of_entry hentry
  exact ⟨hread, hkeeps.here ▸ load_of_read hread root⟩

/-- The document in a file, whatever octets that holds, has no carriage returns. -/
theorem return_not_mem_of_load {root : Option Path} (h : load fs path root = .ok d) :
    '\r' ∉ d.text ∧ d.path = some path ∧ d.root = root ∧ d.base = fs.here := by
  rw [load] at h
  cases hread : fs.read path.text with
  | error fault =>
      rw [hread] at h
      cases h
  | ok content =>
      rw [hread] at h
      cases h
      exact ⟨not_mem_unifyNewlines _, rfl, rfl, rfl⟩

/-- A document can be saved to a path that can be written to, whatever its text, and to no other. It
is loaded again with the pairs at its line ends joined and the other carriage returns exchanged. The
document in any file is saved, and loaded again as it is. -/
theorem load_eq_of_save (hs : fs.Sound) (hwell : path.WellFormed) (root : Option Path) :
    (∀ d : Document, d.path = some path →
        ((∃ saved, d.save fs = .ok saved) ↔ fs.Accepts path.text)
        ∧ ∀ saved, d.save fs = .ok saved → saved.read path.text = .ok (encode d.text)
          ∧ load saved path root
            = .ok ⟨exchange '\r' '\n' (joinFeeds d.text), some path, root, fs.here⟩)
      ∧ ∀ content, fs.read path.text = .ok content → ∃ d saved, load fs path root = .ok d
        ∧ '\r' ∉ d.text ∧ d.save fs = .ok saved ∧ load saved path root = .ok d := by
  refine ⟨fun d hpath => ⟨?_, fun saved hsave => ?_⟩, fun content hread => ?_⟩
  · exact (exists_congr fun saved => save_eq_ok_iff hpath).trans Files.exists_write_iff
  · rw [← unifyNewlines_eq]
    exact load_of_save hs hwell hpath hsave root
  · obtain ⟨d, hload⟩ : ∃ d, load fs path root = .ok d := by
      rw [load, hread]
      exact ⟨_, rfl⟩
    obtain ⟨hreturn, hpath, hroot, hbase⟩ := return_not_mem_of_load hload
    obtain ⟨saved, hsave, -⟩ := save_of_read hread hpath
    have hagain := (load_of_save hs hwell hpath hsave root).2
    rw [unifyNewlines_of_not_mem hreturn] at hagain
    refine ⟨d, saved, hload, hreturn, hsave, hagain.trans ?_⟩
    subst hroot
    rw [← hpath, ← hbase, Buffer.ofText_text]

/-- The path of a header. -/
def oddPath : Path := .ofText "a.h".toList

/-- A tree in which that header is no text: an octet that begins no character, a line end of two
octets, and half a character. -/
def oddTree : Files :=
  Files.put ⟨.empty, []⟩ ["a.h".toList] (.file [0xFF, 0x0D, 0x0A, 0xE2, 0x82] false)

/-- The tree is sound. -/
theorem sound_oddTree : oddTree.Sound :=
  have hpath : "a.h".toList ≠ [] := by decide
  (Files.sound_empty.put_new hpath (by decide +kernel) (by decide +kernel) _).1

/-- The document in that header, with a replacement character at each end, comes back as it is. A
text with carriage returns comes back without them. -/
theorem load_eq_of_save_oddTree :
    (oddTree.Sound ∧ oddPath.WellFormed)
      ∧ (∃ saved, save ⟨"x\r\r\ny\rz".toList, some oddPath, none, []⟩ oddTree = .ok saved
        ∧ load saved oddPath none = .ok ⟨"x\n\ny\nz".toList, some oddPath, none, []⟩)
      ∧ ∃ saved, load oddTree oddPath none
          = .ok ⟨['\uFFFD', '\n', '\uFFFD'], some oddPath, none, []⟩
        ∧ save ⟨['\uFFFD', '\n', '\uFFFD'], some oddPath, none, []⟩ oddTree = .ok saved
        ∧ load saved oddPath none
          = .ok ⟨['\uFFFD', '\n', '\uFFFD'], some oddPath, none, []⟩ := by
  have hwell := Path.wellFormed_ofText "a.h".toList
  obtain ⟨htexts, hfiles⟩ := load_eq_of_save sound_oddTree hwell none
  have hread : oddTree.read oddPath.text = .ok [0xFF, 0x0D, 0x0A, 0xE2, 0x82] := by
    decide +kernel
  have hload : load oddTree oddPath none
      = .ok ⟨['\uFFFD', '\n', '\uFFFD'], some oddPath, none, []⟩ := by decide +kernel
  refine ⟨⟨sound_oddTree, hwell⟩, ?_, ?_⟩
  · obtain ⟨hcan, hback⟩ := htexts ⟨"x\r\r\ny\rz".toList, some oddPath, none, []⟩ rfl
    have haccepts : oddTree.Accepts oddPath.text := ⟨by decide +kernel, .inl ⟨_, hread⟩⟩
    obtain ⟨saved, hsave⟩ := hcan.2 haccepts
    refine ⟨saved, hsave, (hback saved hsave).2.trans ?_⟩
    decide +kernel
  · obtain ⟨d, saved, hload', -, hsave, hagain⟩ := hfiles _ hread
    obtain rfl := Except.ok.inj (hload.symm.trans hload')
    exact ⟨saved, hload, hsave, hagain⟩

end Document

end LintMend

import LintMend.Proofs.Files.Directories
import LintMend.Proofs.Settings.Written

/-! # Saved settings

What is in the settings file after settings have been saved, and what is loaded from it.
* `Settings.load_of_file`, `Settings.load_of_ne_file`: what is loaded depends on whether a file
  stands at the path, and on its content.
* `SettingsStore.entry_save`: after a save the text of the settings is the content of the file.
* `SettingsStore.entry_save_ne_file`: a save that fails leaves no file, and there was none before.
* `SettingsStore.ofFile_save`: after a save a new store holds the same settings, and the file is
  ASCII. -/

namespace LintMend

/-! ## Loading -/

namespace Settings

variable {fs : Files} {path : Path}

/-- Settings are loaded from the content of the file. -/
theorem load_of_file {content : Octets} {executable : Bool}
    (h : fs.entry path.text = .ok (some (.file content executable))) :
    load fs path = ofOctets content := by
  rw [load, Files.isFile, h, Files.read_of_entry h]
  rfl

/-- Where no file stands the settings are empty, unless the path cannot be looked at. -/
theorem load_of_ne_file
    (h : ∀ content executable, fs.entry path.text ≠ .ok (some (.file content executable))) :
    load fs path = .ok empty ∨ ∃ fault, load fs path = .error (.file fault) := by
  rw [load, Files.isFile]
  cases hentry : fs.entry path.text with
  | error fault => exact .inr ⟨fault, rfl⟩
  | ok entry =>
      match entry with
      | none => exact .inl rfl
      | some .directory => exact .inl rfl
      | some (.file content executable) => exact absurd hentry (h content executable)

end Settings

/-! ## Saving -/

namespace SettingsStore

variable {fs : Files} {store : SettingsStore}

/-- A save makes the directories, and writes the file if that has not failed. -/
theorem save_eq (store : SettingsStore) (fs : Files) :
    store.save fs = match (fs.makeDirectories store.path.parent).fault with
      | some _ => fs.makeDirectories store.path.parent
      | none => Attempt.ofStep (fs.makeDirectories store.path.parent).files
          ((fs.makeDirectories store.path.parent).files.write store.path.text
            (Text.encode store.settings.text)) := rfl

/-- A save keeps a tree sound and loses nothing, whether it fails or not. -/
theorem sound_save (hs : fs.Sound) (hpath : store.path.WellFormed) :
    (store.save fs).files.Sound ∧ Files.Keeps fs (store.save fs).files := by
  obtain ⟨hsound, hkeeps⟩ := hs.makeDirectories hpath
  rw [save_eq]
  split
  · exact ⟨hsound, hkeeps⟩
  · cases hwrite : (fs.makeDirectories store.path.parent).files.write store.path.text
        (Text.encode store.settings.text) with
    | error fault => exact ⟨hsound, hkeeps⟩
    | ok after =>
        obtain ⟨hsound', hkeeps', -⟩ := hsound.write hpath.text_ne_nil hwrite
        exact ⟨hsound', hkeeps.trans hkeeps'⟩

/-- After a save the text of the settings is the content of the file. -/
theorem entry_save (hs : fs.Sound) (hpath : store.path.WellFormed)
    (h : (store.save fs).fault = none) :
    ∃ executable, (store.save fs).files.entry store.path.text
      = .ok (some (.file (Text.encode store.settings.text) executable)) := by
  obtain ⟨hsound, -⟩ := hs.makeDirectories hpath
  rw [save_eq] at h ⊢
  split at h
  · next fault hfault => exact nomatch hfault.symm.trans h
  · cases hwrite : (fs.makeDirectories store.path.parent).files.write store.path.text
        (Text.encode store.settings.text) with
    | error fault =>
        rw [hwrite] at h
        cases h
    | ok after =>
        obtain ⟨-, -, hentry⟩ := hsound.write hpath.text_ne_nil hwrite
        exact hentry

/-- A save that fails leaves no file, and there was none before. -/
theorem entry_save_ne_file (hs : fs.Sound) (hpath : store.path.WellFormed)
    (h : (store.save fs).fault ≠ none) (content : Octets) (executable : Bool) :
    (store.save fs).files.entry store.path.text ≠ .ok (some (.file content executable)) := by
  rw [save_eq] at h ⊢
  split at h
  · exact hs.entry_ne_file_of_fault hpath h content executable
  · cases hwrite : (fs.makeDirectories store.path.parent).files.write store.path.text
        (Text.encode store.settings.text) with
    | error fault => exact Files.entry_ne_file_of_write_eq_error hwrite content executable
    | ok after =>
        rw [hwrite] at h
        exact absurd rfl h

/-- After a save the file is read as the text of the settings. -/
theorem load_save (hs : fs.Sound) (hpath : store.path.WellFormed)
    (h : (store.save fs).fault = none) :
    Settings.load (store.save fs).files store.path = .ok store.settings := by
  obtain ⟨executable, hentry⟩ := entry_save hs hpath h
  rw [Settings.load_of_file hentry, Settings.ofOctets_encode_text]

/-- Whatever settings a store holds, they come back: after a save that does not fail, a new store
for the same path holds them, with whatever environment. What the file holds is ASCII. -/
theorem ofFile_save (hs : fs.Sound) (hpath : store.path.WellFormed)
    (h : (store.save fs).fault = none) :
    (∀ env, ofFile (store.save fs).files store.path env = .ok ⟨store.path, env, store.settings⟩)
      ∧ ∃ content, (store.save fs).files.read store.path.text = .ok content
        ∧ ∀ octet ∈ content, octet.toNat < 0x80 := by
  obtain ⟨executable, hentry⟩ := entry_save hs hpath h
  refine ⟨fun env => ?_, _, Files.read_of_entry hentry, fun octet hoctet => ?_⟩
  · rw [ofFile, load_save hs hpath h]
    rfl
  · exact store.settings.lt_of_mem_encode_text hoctet

/-- A store with an empty value, and with values that need every kind of escape. Its file is in a
directory that is still to be made. -/
def escapedStore : SettingsStore :=
  (((⟨Path.ofText "conf/s.json".toList, ⟨[], []⟩, .empty⟩ : SettingsStore).set .interpreter
    (some [])).set .script (some "\"C:\\py\"\r\n\t\x00\x7f".toList)).set .options
    (some ['é', '\u2028', Char.ofNat 0x1F600])

/-- Its settings come back from an empty tree. -/
theorem ofFile_save_escapedStore :
    (escapedStore.save ⟨.empty, []⟩).fault = none
      ∧ ofFile (escapedStore.save ⟨.empty, []⟩).files escapedStore.path ⟨[], []⟩
        = .ok escapedStore
      ∧ escapedStore.get .options = some ['é', '\u2028', Char.ofNat 0x1F600] := by
  have hsave : (escapedStore.save ⟨.empty, []⟩).fault = none := by decide +kernel
  have hback := (ofFile_save Files.sound_empty (Path.wellFormed_ofText _) hsave).1 ⟨[], []⟩
  exact ⟨hsave, hback, rfl⟩

end SettingsStore

end LintMend

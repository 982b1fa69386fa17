import LintMend.Proofs.Json.Faults
import LintMend.Proofs.Settings.Saved

/-! # Loading whatever a file holds

What comes of loading settings from a file with any content.
* `Settings.ofOctets_eq_error`: it fails if the octets are no text, if a number is too long, and if
  lists and records are nested too deep.
* `Settings.ofJson_eq_or`: settings that are not empty come from a record whose values are texts or
  null.
* `SettingsStore.ofFile_of_content`: both, and when it does not fail.
* `SettingsStore.ofFile_strayOctet`: one octet that is no text is enough to fail. -/

namespace LintMend

/-! ## Octets -/

namespace Settings

/-- Octets that are no text are not loaded. -/
theorem ofOctets_of_ne_encode {content : Octets} (h : ∀ t, content ≠ Text.encode t) :
    ∃ e, ofOctets content = .error (.octets e) := by
  rw [ofOctets]
  cases hdecode : Text.decode content with
  | ok t => exact absurd (Text.decode_eq_ok_iff.1 hdecode) (h t)
  | error e => exact ⟨e, rfl⟩

/-- A text is not loaded only if it has a number that is too long, or too many brackets. -/
theorem shows_of_ofOctets {t : Text} {fault : LoadFault}
    (h : ofOctets (Text.encode t) = .error fault) :
    (∃ e, fault = .overlong e ∧ Json.HasLongRun (Text.unifyNewlines t))
      ∨ ∃ container, fault = .tooDeep container
        ∧ Json.maxDepth < (Text.unifyNewlines t).countP Json.isOpening := by
  rw [ofOctets, Text.decode_encode] at h
  dsimp only at h
  split at h
  · cases h
  · cases h
  · next e hread =>
      cases h
      exact .inl ⟨e, rfl, Json.shows_of_read hread⟩
  · next container hread =>
      cases h
      exact .inr ⟨container, rfl, Json.shows_of_read hread⟩

/-! ## Records -/

/-- A value that counts for a setting is a text or null. -/
theorem valueOf_eq_ok_iff {key : SettingKey} {v : Json} {value : Option Text} :
    valueOf key v = .ok value ↔ v = valueJson value := by
  constructor
  · intro h
    cases v <;> cases h <;> rfl
  · rintro rfl
    cases value <;> rfl

/-- Whether a value is held for a setting among the members of a record: under its name or, if that
is not there, under that of its field. A setting that is not there has none. -/
def IsAmong (members : List (Text × Json)) (key : SettingKey) (value : Option Text) : Prop :=
  match (Json.member? key.name members).or (Json.member? key.fieldName members) with
  | none => value = none
  | some v => v = valueJson value

/-- A value among the members is one that is held there. -/
theorem valueAmong_eq_ok_iff {members : List (Text × Json)} {key : SettingKey}
    {value : Option Text} :
    valueAmong members key = .ok value ↔ IsAmong members key value := by
  rw [valueAmong, IsAmong]
  cases (Json.member? key.name members).or (Json.member? key.fieldName members) with
  | none => exact ⟨fun h => (Except.ok.inj h).symm, fun h => congrArg Except.ok h.symm⟩
  | some v => exact valueOf_eq_ok_iff

/-- Settings that are not empty come from a record that holds a text or null for each of them. -/
theorem ofJson_eq_or (v : Json) :
    ofJson v = empty ∨ ∃ members, v = .record members
      ∧ ∀ key, IsAmong members key ((ofJson v).get key) := by
  cases v with
  | record members =>
      rw [ofJson]
      split
      -- one value of the wrong kind is enough to lose all of them
      · next p c o hp hc ho =>
          refine .inr ⟨members, rfl, fun key => ?_⟩
          cases key with
          | interpreter => exact valueAmong_eq_ok_iff.1 hp
          | script => exact valueAmong_eq_ok_iff.1 hc
          | options => exact valueAmong_eq_ok_iff.1 ho
      · exact .inl rfl
  | _ => exact .inl rfl

end Settings

/-! ## Files -/

namespace SettingsStore

/-- What comes of a store for a file with any content.
* If the content is no text there is no store.
* If it is a text without long runs of digits and with few brackets there is one, and otherwise the
  run or the brackets are why there is none.
* The settings of the store are empty unless the text describes a record that holds a text or null
  for each of them. -/
theorem ofFile_of_content {fs : Files} {path : Path} {content : Octets} {executable : Bool}
    (h : fs.entry path.text = .ok (some (.file content executable))) (env : Environment) :
    ((∀ t, content ≠ Text.encode t) → ∃ e, ofFile fs path env = .error (.octets e))
      ∧ (∀ t, content = Text.encode t → ¬Json.HasLongRun (Text.unifyNewlines t) →
        (Text.unifyNewlines t).countP Json.isOpening ≤ Json.maxDepth →
        ∃ settings, ofFile fs path env = .ok ⟨path, env, settings⟩)
      ∧ (∀ t fault, content = Text.encode t → ofFile fs path env = .error fault →
        (∃ e, fault = .overlong e ∧ Json.HasLongRun (Text.unifyNewlines t))
          ∨ ∃ container, fault = .tooDeep container
            ∧ Json.maxDepth < (Text.unifyNewlines t).countP Json.isOpening)
      ∧ ∀ store, ofFile fs path env = .ok store →
        store.settings = .empty
          ∨ ∃ t members, content = Text.encode t
            ∧ Json.read (Text.unifyNewlines t) = .ok (.record members)
            ∧ ∀ key, Settings.IsAmong members key (store.settings.get key) := by
  have hof : ofFile fs path env
      = (Settings.ofOctets content).map fun settings => ⟨path, env, settings⟩ := by
    rw [ofFile, Settings.load_of_file h]
  rw [hof]
  refine ⟨fun hnone => ?_, ?_, ?_, ?_⟩
  · obtain ⟨e, he⟩ := Settings.ofOctets_of_ne_encode hnone
    exact ⟨e, by rw [he]; rfl⟩
  · rintro t rfl hrun hbrackets
    cases hload : Settings.ofOctets (Text.encode t) with
    | ok settings => exact ⟨settings, rfl⟩
    | error fault =>
        rcases Settings.shows_of_ofOctets hload with ⟨e, -, hlong⟩ | ⟨container, -, hdeep⟩
        · exact absurd hlong hrun
        · exact absurd hbrackets (Nat.not_le.2 hdeep)
  · rintro t fault rfl hfault
    cases hload : Settings.ofOctets (Text.encode t) with
    | ok settings =>
        rw [hload] at hfault
        cases hfault
    | error fault' =>
        rw [hload] at hfault
        cases hfault
        exact Settings.shows_of_ofOctets hload
  · intro store hstore
    cases hdecode : Text.decode content with
    | error e =>
        rw [Settings.ofOctets, hdecode] at hstore
        cases hstore
    | ok t =>
        have hcontent := Text.decode_eq_ok_iff.1 hdecode
        rw [Settings.ofOctets, hdecode] at hstore
        dsimp only at hstore
        split at hstore
        · next v hread =>
            cases hstore
            rcases Settings.ofJson_eq_or v with hempty | ⟨members, rfl, hmembers⟩
            · exact .inl hempty
            · exact .inr ⟨t, members, hcontent, hread, hmembers⟩
        · cases hstore
          exact .inl rfl
        · cases hstore
        · cases hstore

/-- A tree with one file, which holds the given octets. -/
def oneFile (content : Octets) : Files :=
  Files.put ⟨.empty, []⟩ ["s.json".toList] (.file content false)

/-- A file of one octet that begins no character: there is no store for it. -/
theorem ofFile_strayOctet :
    (oneFile [0xff]).entry "s.json".toList = .ok (some (.file [0xff] false))
      ∧ ofFile (oneFile [0xff]) (Path.ofText "s.json".toList) ⟨[], []⟩
        = .error (.octets ⟨0, 0xff, 0, .start⟩) := ⟨rfl, rfl⟩

/-- The text of a record in which one setting goes by the name of its field. -/
def fieldText : Text := "\x7b\"cpplint_options\": \"-x\", \"other\": [1]\x7d".toList

/-- There is a store for a file with that text. -/
theorem ofFile_of_content_fieldText :
    (oneFile (Text.encode fieldText)).entry "s.json".toList
        = .ok (some (.file (Text.encode fieldText) false))
      ∧ ∃ settings, ofFile (oneFile (Text.encode fieldText)) (Path.ofText "s.json".toList) ⟨[], []⟩
        = .ok ⟨Path.ofText "s.json".toList, ⟨[], []⟩, settings⟩ := by
  have hentry : (oneFile (Text.encode fieldText)).entry (Path.ofText "s.json".toList).text
      = .ok (some (.file (Text.encode fieldText) false)) := rfl
  have hplain : Text.unifyNewlines fieldText = fieldText := by decide
  refine ⟨hentry, (ofFile_of_content hentry ⟨[], []⟩).2.1 fieldText rfl ?_ ?_⟩
  · rintro ⟨digits, hinfix, -, hlength⟩
    have hshort : digits.length ≤ fieldText.length := by
      rw [hplain] at hinfix
      exact hinfix.length_le
    have hfew : fieldText.length ≤ Numeral.maxDigits := by decide
    exact absurd hlength (Nat.not_lt.2 (Nat.le_trans hshort hfew))
  · rw [hplain]
    decide

end SettingsStore

end LintMend

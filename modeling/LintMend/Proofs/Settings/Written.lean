import LintMend.Proofs.Json.Quoted
import LintMend.Proofs.Text.Octets
import LintMend.Proofs.Text.Pieces
import LintMend.Settings.Store

/-! # Written settings are read back

The JSON text that settings are written as holds those settings, whatever their values.
* `Json.readName_quote`, `Settings.readValue_valueText`: a name and a value that are written are
  read back, whatever follows them.
* `Settings.readMembers_keys`: so are the members of the record, by induction on them.
* `Settings.ofOctets_encode_text`: the octets of the text hold the settings.
* `Settings.lt_of_mem_encode_text`: they are all below 128. -/

namespace LintMend

/-! ## Names -/

namespace Json

/-- A line feed is skipped. -/
theorem skipBlanks_feed_cons (t : Text) : skipBlanks ('\n' :: t) = skipBlanks t := rfl

/-- The name of a member is read back up to the value. -/
theorem readName_quote (name rest : Text) :
    readName (quote name ++ ':' :: rest) = .ok (name, skipBlanks rest) := by
  have hquoted : quote name ++ ':' :: rest
      = '"' :: (name.flatMap quoteChar ++ '"' :: ':' :: rest) := by
    simp [quote]
  have hcolon : skipBlanks (':' :: rest) = ':' :: rest :=
    List.dropWhile_cons_of_neg (by decide)
  rw [hquoted, readName, if_pos rfl, unquoteFrom_quoted]
  dsimp only
  rw [hcolon]
  exact if_pos rfl

end Json

namespace Settings

open Json

/-! ## Values -/

/-- The JSON value of a setting. -/
def valueJson : Option Text → Json
  | none => .null
  | some t => .text t

/-- A value that is written is read back, whatever follows it. -/
theorem readScalar_valueText (value : Option Text) (rest : Text) :
    readScalar (valueText value ++ rest) = .ok (valueJson value, rest) := by
  cases value with
  | none =>
      have hnull : constant? ("null".toList ++ rest) = some (.null, rest) := by
        simp [constant?, constants, Text.after?]
      unfold readScalar
      rw [valueText, hnull]
      rfl
  | some t =>
      have hquoted : quote t ++ rest = '"' :: (t.flatMap quoteChar ++ '"' :: rest) := by
        simp [quote]
      have hnone : constant? ('"' :: (t.flatMap quoteChar ++ '"' :: rest)) = none := by
        simp [constant?, constants, Text.after?]
      rw [valueText, hquoted, readScalar, hnone]
      dsimp only
      rw [if_pos rfl, unquoteFrom_quoted]
      rfl

/-- The depth does not matter to a value that holds no others. -/
theorem readValue_valueText (depth : Nat) (value : Option Text) (rest : Text) :
    readValue depth (valueText value ++ rest) = .ok (valueJson value, rest) := by
  have hfirst : ∃ c t, valueText value ++ rest = c :: t ∧ c ≠ '[' ∧ c ≠ '\x7b' := by
    cases value with
    | none => exact ⟨'n', _, rfl, by decide, by decide⟩
    | some t => exact ⟨'"', _, rfl, by decide, by decide⟩
  obtain ⟨c, t, ht, hlist, hrecord⟩ := hfirst
  rw [← readScalar_valueText value rest, ht]
  cases depth with
  | zero => rw [readValue, if_neg hlist, if_neg hrecord]
  | succ depth => rw [readValue, if_neg hlist, if_neg hrecord]

/-! ## Members -/

variable (s : Settings)

/-- A setting as the member of a record. -/
def memberOf (key : SettingKey) : Text × Json := (key.name, valueJson (s.get key))

/-- Behind its indentation a member begins with its name. -/
theorem skipBlanks_memberText_append (key : SettingKey) (rest : Text) :
    skipBlanks (s.memberText key ++ rest)
      = quote key.name ++ ':' :: ' ' :: (valueText (s.get key) ++ rest) := by
  have hmember : s.memberText key ++ rest
      = ' ' :: ' ' :: '"' :: (key.name.flatMap quoteChar
          ++ '"' :: ':' :: ' ' :: (valueText (s.get key) ++ rest)) := by
    simp [memberText, quote]
  rw [hmember, skipBlanks, List.dropWhile_cons_of_pos (by decide),
    List.dropWhile_cons_of_pos (by decide), List.dropWhile_cons_of_neg (by decide)]
  simp [quote]

/-- The members that are written for some settings are read back, with the closing bracket behind
them. -/
theorem readMembers_keys (depth : Nat) {keys : List SettingKey} (hne : keys ≠ []) {fuel : Nat}
    (hfuel : keys.length ≤ fuel) (rest : Text) :
    readMembers (readValue depth) fuel
        (skipBlanks (Text.join ",\n".toList (keys.map s.memberText) ++ '\n' :: '\x7d' :: rest))
      = .ok (keys.map s.memberOf, rest) := by
  induction keys generalizing fuel with
  | nil => exact absurd rfl hne
  | cons key keys ih =>
      obtain ⟨fuel, rfl⟩ := Nat.exists_eq_succ_of_ne_zero (Nat.ne_of_gt (Nat.lt_of_lt_of_le
        (Nat.succ_pos keys.length) hfuel))
      have hvalue : ∀ behind, skipBlanks (' ' :: (valueText (s.get key) ++ behind))
          = valueText (s.get key) ++ behind := by
        intro behind
        cases s.get key <;> rfl
      -- the last member is followed by a line feed, the others by a comma and a line feed
      by_cases hlast : keys = []
      · subst hlast
        have hclose : skipBlanks ('\n' :: '\x7d' :: rest) = '\x7d' :: rest := rfl
        rw [List.map_singleton, Text.join_singleton, skipBlanks_memberText_append, readMembers,
          readName_quote, hvalue]
        dsimp only
        rw [readValue_valueText]
        dsimp only
        rw [hclose]
        rfl
      · have hmap : keys.map s.memberText ≠ [] := fun h => hlast (List.map_eq_nil_iff.1 h)
        have hlength : keys.length ≤ fuel := Nat.le_of_succ_le_succ hfuel
        have hcomma : ∀ behind, skipBlanks (",\n".toList ++ behind) = ',' :: '\n' :: behind :=
          fun _ => rfl
        rw [List.map_cons, Text.join_cons_of_ne_nil _ _ hmap, List.append_assoc, List.append_assoc,
          skipBlanks_memberText_append, readMembers, readName_quote, hvalue]
        dsimp only
        rw [readValue_valueText]
        dsimp only
        rw [hcomma]
        dsimp only
        rw [if_neg (by decide), if_pos rfl, skipBlanks_feed_cons, ih hlast hlength]
        rfl

/-! ## Texts -/

/-- What is written behind the opening bracket, up to the name of the first setting. -/
theorem skipBlanks_members :
    ∃ rest, skipBlanks ('\n' :: (Text.join ",\n".toList (SettingKey.all.map s.memberText)
        ++ ['\n', '\x7d'])) = '"' :: rest ∧ SettingKey.all.length ≤ rest.length + 1 := by
  have hfirst : ∃ behind, Text.join ",\n".toList (SettingKey.all.map s.memberText)
      ++ ['\n', '\x7d'] = s.memberText .interpreter ++ behind := by
    rw [SettingKey.all, List.map_cons, Text.join_cons_of_ne_nil _ _ (by simp), List.append_assoc,
      List.append_assoc]
    exact ⟨_, rfl⟩
  obtain ⟨behind, hbehind⟩ := hfirst
  rw [hbehind, skipBlanks_feed_cons, skipBlanks_memberText_append, quote, List.cons_append]
  refine ⟨_, rfl, ?_⟩
  have hkeys : SettingKey.all.length = 3 := rfl
  simp only [List.length_append, List.length_cons]
  omega

/-- The text of settings describes the record of their members. -/
theorem read_text : Json.read s.text = .ok (.record (SettingKey.all.map s.memberOf)) := by
  obtain ⟨rest, hopen, hfuel⟩ := s.skipBlanks_members
  have hbracket : skipBlanks s.text = '\x7b' :: '\n' ::
      (Text.join ",\n".toList (SettingKey.all.map s.memberText) ++ ['\n', '\x7d']) := rfl
  have hmembers := @readMembers_keys s 989 SettingKey.all (by decide) _ hfuel []
  rw [← skipBlanks_feed_cons, hopen] at hmembers
  have hrecord : readRecord (readValue 989) ('\n' ::
      (Text.join ",\n".toList (SettingKey.all.map s.memberText) ++ ['\n', '\x7d']))
      = .ok (.record (SettingKey.all.map s.memberOf), []) := by
    rw [readRecord, hopen]
    dsimp only
    rw [if_neg (by decide), hmembers]
    rfl
  have hvalue : readValue maxDepth (skipBlanks s.text)
      = .ok (.record (SettingKey.all.map s.memberOf), []) := by
    rw [hbracket, ← hrecord]
    rfl
  rw [Json.read, hvalue]
  rfl

/-- Each setting is found among the members. -/
theorem valueAmong_members (key : SettingKey) :
    valueAmong (SettingKey.all.map s.memberOf) key = .ok (s.get key) := by
  have hmember : Json.member? key.name (SettingKey.all.map s.memberOf)
      = some (valueJson (s.get key)) := by
    cases key <;> rfl
  rw [valueAmong, hmember]
  cases s.get key <;> rfl

/-- The record of their members holds the settings. -/
theorem ofJson_members : ofJson (.record (SettingKey.all.map s.memberOf)) = s := by
  simp only [ofJson, valueAmong_members]
  rfl

/-- Settings are written in characters that can be printed, and in line feeds. -/
theorem isPrintable_of_mem_text {c : Char} (h : c ∈ s.text) : c = '\n' ∨ IsPrintable c := by
  have hmember : ∀ key, ∀ d ∈ s.memberText key, IsPrintable d := by
    intro key d hd
    have hvalue : ∀ value : Option Text, ∀ e ∈ valueText value, IsPrintable e := by
      rintro (_ | t) e he
      · exact isPrintable_of_all (by decide) he
      · exact isPrintable_of_mem_quote he
    simp only [memberText, List.mem_append] at hd
    rcases hd with ((hd | hd) | hd) | hd
    · exact isPrintable_of_all (by decide) hd
    · exact isPrintable_of_mem_quote hd
    · exact isPrintable_of_all (by decide) hd
    · exact hvalue _ d hd
  rw [text, List.cons_append, List.cons_append, List.mem_cons, List.mem_cons, List.mem_append] at h
  rcases h with rfl | rfl | h | h
  · exact .inr (by decide)
  · exact .inl rfl
  · rcases Text.mem_of_mem_join h with h | ⟨piece, hpiece, hc⟩
    · rcases List.mem_cons.1 h with rfl | h
      · exact .inr (by decide)
      · exact .inl (List.mem_singleton.1 h)
    · obtain ⟨key, -, rfl⟩ := List.mem_map.1 hpiece
      exact .inr (hmember key c hc)
  · rcases List.mem_cons.1 h with rfl | h
    · exact .inl rfl
    · exact .inr (List.mem_singleton.1 h ▸ by decide)

/-! ## Octets -/

/-- The octets of the text hold the settings. -/
theorem ofOctets_encode_text : ofOctets (Text.encode s.text) = .ok s := by
  have hreturn : '\r' ∉ s.text := by
    intro h
    rcases s.isPrintable_of_mem_text h with heq | hplain
    · exact absurd heq (by decide)
    · exact absurd hplain (by decide)
  rw [ofOctets, Text.decode_encode]
  dsimp only
  rw [Text.unifyNewlines_of_not_mem hreturn, read_text]
  exact congrArg Except.ok s.ofJson_members

/-- They are all below 128. -/
theorem lt_of_mem_encode_text {octet : UInt8} (h : octet ∈ Text.encode s.text) :
    octet.toNat < 0x80 := by
  refine Text.lt_of_mem_encode (fun c hc => ?_) octet h
  rcases s.isPrintable_of_mem_text hc with rfl | hplain
  · decide
  · exact Nat.lt_of_le_of_lt hplain.2 (by decide)

end Settings

end LintMend

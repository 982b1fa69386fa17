import LintMend.Environment
import LintMend.Files.Tree
import LintMend.Settings.Basic
import LintMend.Text.Lines

/-! # The settings file

Settings are kept in a file (§4.1); variables of the environment override them without being kept.
* `Settings.defaultPath`: where the file is.
* `Settings.load`: the settings in a file; a file that is not there or is not JSON holds none.
* `SettingsStore`: the settings of a file, and the environment that overrides them. -/

namespace LintMend

/-- Why settings cannot be loaded. -/
inductive LoadFault
  /-- The file cannot be looked for. -/
  | file (fault : FileFault)
  /-- The file does not hold a text. -/
  | octets (fault : Text.Malformed)
  /-- A number in the file is too long. -/
  | overlong (e : OverlongNumeral)
  /-- The values in the file are nested too deep. -/
  | tooDeep (container : Json.Container)
  /-- There is no home directory to look in. -/
  | noHome
  deriving DecidableEq, Repr

/-- How malformed octets are reported. -/
def malformedMessage (e : Text.Malformed) : Text :=
  let reason := match e.why with
    | .start => "invalid start byte".toList
    | .continuation => "invalid continuation byte".toList
    | .truncated => "unexpected end of data".toList
  let place :=
    if e.more = 0 then
      "byte 0x".toList ++ Numeral.writeHex 2 e.octet.toNat ++ " in position ".toList
        ++ Numeral.write e.position
    else
      "bytes in position ".toList ++ Numeral.write e.position ++ "-".toList
        ++ Numeral.write (e.position + e.more)
  "'utf-8' codec can't decode ".toList ++ place ++ ": ".toList ++ reason

/-- How the failure to load settings reads. -/
def LoadFault.message : LoadFault → Text
  | file fault => fault.message
  | octets fault => malformedMessage fault
  | overlong e => e.message
  | tooDeep .list =>
      "maximum recursion depth exceeded while decoding a JSON array from a unicode string".toList
  | tooDeep .record =>
      "maximum recursion depth exceeded while decoding a JSON object from a unicode string".toList
  | noHome => "Could not determine home directory.".toList

namespace Settings

/-- The variable that says where the settings file is. -/
def pathVariable : Text := "CPPLINT_BRIDGE_SETTINGS".toList

/-- Where the settings file is: where the variable says, or in the home directory
(`default_settings_path`). -/
def defaultPath (env : Environment) : Except LoadFault Path :=
  match env.nonempty? pathVariable with
  | some written =>
      match env.expandHome (Path.ofText written) with
      | some path => .ok path
      | none => .error .noHome
  | none =>
      match env.expandHome (Path.ofText ['~']) with
      | some home =>
          .ok (((home.child ".config".toList).child "cpplint-bridge".toList).child
            "settings.json".toList)
      | none => .error .noHome

/-- The settings in some octets. -/
def ofOctets (content : Octets) : Except LoadFault Settings :=
  match Text.decode content with
  | .error fault => .error (.octets fault)
  | .ok t =>
      match Json.read (Text.unifyNewlines t) with
      | .ok v => .ok (ofJson v)
      | .error .malformed => .ok empty
      | .error (.overlong e) => .error (.overlong e)
      | .error (.tooDeep container) => .error (.tooDeep container)

/-- The settings in the file at a path (`SettingsStore._load`). -/
def load (fs : Files) (path : Path) : Except LoadFault Settings :=
  match fs.isFile path.text with
  | .error fault => .error (.file fault)
  | .ok false => .ok empty
  | .ok true =>
      match fs.read path.text with
      | .error _ => .ok empty
      | .ok content => ofOctets content

end Settings

/-- The settings of a file, and the environment that overrides them (`SettingsStore`). -/
structure SettingsStore where
  /-- Where the file is. -/
  path : Path
  /-- The environment. -/
  environment : Environment
  /-- The settings as they are to be kept. -/
  settings : Settings
  deriving DecidableEq, Repr

/-- Why a setting is not changed. -/
inductive SetFault
  /-- There is no such setting. -/
  | unknown (e : UnknownSetting)
  /-- The value is not a text. -/
  | field (fault : FieldFault)
  deriving DecidableEq, Repr

namespace SettingsStore

/-- The store for the file at a path. -/
def ofFile (fs : Files) (path : Path) (env : Environment) : Except LoadFault SettingsStore :=
  (Settings.load fs path).map fun settings => ⟨path, env, settings⟩

/-- The value that counts: that of the environment, if it is not empty, else the one that is
kept. -/
def get (store : SettingsStore) (key : SettingKey) : Option Text :=
  match store.environment.nonempty? key.overrideName with
  | some value => some value
  | none => store.settings.get key

/-- The value that counts for the setting of that name (`SettingsStore.get`). -/
def getNamed (store : SettingsStore) (name : Text) : Except UnknownSetting (Option Text) :=
  match SettingKey.ofName? name with
  | none => .error ⟨name⟩
  | some key => .ok (store.get key)

/-- The store with another value to keep. -/
def set (store : SettingsStore) (key : SettingKey) (value : Option Text) : SettingsStore :=
  { store with settings := store.settings.set key value }

/-- A change is kept, and counts unless the environment overrides the setting. -/
theorem get_set (store : SettingsStore) (key : SettingKey) (value : Option Text) :
    (store.set key value).get key = (store.environment.nonempty? key.overrideName).or value := by
  simp only [get, set, Settings.get_set]
  cases store.environment.nonempty? key.overrideName <;> simp

/-- The store with another value for the setting of that name, which must be a text or null
(`SettingsStore.set`). -/
def setNamed (store : SettingsStore) (name : Text) (value : Json) :
    Except SetFault SettingsStore :=
  match SettingKey.ofName? name with
  | none => .error (.unknown ⟨name⟩)
  | some key =>
      match Settings.valueOf key value with
      | .error fault => .error (.field fault)
      | .ok v => .ok (store.set key v)

/-- Write the settings to their file, and make the directories that it needs
(`SettingsStore.save`). -/
def save (store : SettingsStore) (fs : Files) : Attempt :=
  (fs.makeDirectories store.path.parent).andThen fun made =>
    made.write store.path.text (Text.encode store.settings.text)

end SettingsStore

end LintMend

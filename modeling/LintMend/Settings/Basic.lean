import LintMend.Field
import LintMend.Json.Reader

/-! # Settings

What has to be known to run the checker (§4.1): the interpreter, the script, and further options.
Each setting is a text or unset.
* `SettingKey`: the settings and the names that they go by.
* `Settings`: their values; `Settings.get`, `Settings.set`.
* `Settings.ofJson`: the settings that a JSON value holds; a value of the wrong kind spoils all.
* `Settings.text`: the settings as a JSON text. -/

namespace LintMend

/-- A setting. -/
inductive SettingKey
  | interpreter
  | script
  | options
  deriving DecidableEq, Repr

namespace SettingKey

/-- The settings in the order in which they are listed. -/
def all : List SettingKey := [interpreter, script, options]

/-- The name of a setting. -/
def name : SettingKey → Text
  | interpreter => "python".toList
  | script => "cpplint".toList
  | options => "cpplintOptions".toList

/-- The name of the field that holds a setting, which a file may use as well. -/
def fieldName : SettingKey → Text
  | interpreter => "python".toList
  | script => "cpplint".toList
  | options => "cpplint_options".toList

/-- The variable that overrides a setting. -/
def overrideName : SettingKey → Text
  | interpreter => "CPPLINT_BRIDGE_PYTHON".toList
  | script => "CPPLINT_BRIDGE_CPPLINT".toList
  | options => "CPPLINT_BRIDGE_OPTIONS".toList

/-- The setting of that name. -/
def ofName? (t : Text) : Option SettingKey := all.find? fun key => key.name == t

/-- Every setting is found by its name. -/
@[simp] theorem ofName?_name (key : SettingKey) : ofName? key.name = some key := by
  cases key <;> decide

end SettingKey

/-- A name that no setting has. -/
structure UnknownSetting where
  /-- The name. -/
  name : Text
  deriving DecidableEq, Repr

/-- How the refusal of an unknown name reads. -/
def UnknownSetting.message (e : UnknownSetting) : Text :=
  "unknown setting '".toList ++ e.name ++ "'; expected one of ".toList
    ++ Text.join ", ".toList (SettingKey.all.map SettingKey.name)

/-- The values of the settings (`CpplintSettings`). -/
structure Settings where
  /-- The interpreter. -/
  interpreter : Option Text
  /-- The script of the checker. -/
  script : Option Text
  /-- Further options for the checker. -/
  options : Option Text
  deriving DecidableEq, Repr

namespace Settings

/-- Settings of which none has a value. -/
def empty : Settings := ⟨none, none, none⟩

/-- The value of a setting. -/
def get (s : Settings) : SettingKey → Option Text
  | .interpreter => s.interpreter
  | .script => s.script
  | .options => s.options

/-- The settings with another value for one of them. -/
def set (s : Settings) (key : SettingKey) (value : Option Text) : Settings :=
  match key with
  | .interpreter => { s with interpreter := value }
  | .script => { s with script := value }
  | .options => { s with options := value }

@[simp] theorem get_empty (key : SettingKey) : empty.get key = none := by cases key <;> rfl

/-- A setting has the value that it was given, and the others keep theirs. -/
theorem get_set (s : Settings) (key other : SettingKey) (value : Option Text) :
    (s.set key value).get other = if other = key then value else s.get other := by
  cases key <;> cases other <;> rfl

/-! ## JSON -/

/-- The value of a setting that a JSON value gives: a text, or null for none. -/
def valueOf (key : SettingKey) (v : Json) : Except FieldFault (Option Text) :=
  match v with
  | .null => .ok none
  | .text t => .ok (some t)
  | _ => .error (.notText key.fieldName)

/-- The value of a setting among the members of a record. The name of the setting goes before the
name of its field. -/
def valueAmong (members : List (Text × Json)) (key : SettingKey) :
    Except FieldFault (Option Text) :=
  match (Json.member? key.name members).or (Json.member? key.fieldName members) with
  | none => .ok none
  | some v => valueOf key v

/-- The settings in a JSON value (`CpplintSettings.model_validate`). Anything but a record, and a
record with a value of the wrong kind, holds no settings at all. -/
def ofJson (v : Json) : Settings :=
  match v with
  | .record members =>
      match valueAmong members .interpreter, valueAmong members .script,
          valueAmong members .options with
      | .ok p, .ok c, .ok o => ⟨p, c, o⟩
      | _, _, _ => empty
  | _ => empty

/-- A value as a JSON text. -/
def valueText : Option Text → Text
  | none => "null".toList
  | some t => Json.quote t

/-- One setting as the member of a JSON record. -/
def memberText (s : Settings) (key : SettingKey) : Text :=
  "  ".toList ++ Json.quote key.name ++ ": ".toList ++ valueText (s.get key)

/-- The settings as a JSON text. -/
def text (s : Settings) : Text :=
  '\x7b' :: '\n' :: Text.join ",\n".toList (SettingKey.all.map s.memberText) ++ ['\n', '\x7d']

end Settings

end LintMend

import LintMend.Text.Basic

/-! # Notifications

What the user is told about the configuration and about launches that fail (§3.8).
* `Notification`: title, message, severity, and the actions that are offered.
* `Notification.configurationError`: the notification about the configuration. -/

namespace LintMend

/-- How serious a notification is. -/
inductive NoticeSeverity
  | info
  | warning
  | error
  deriving DecidableEq, Repr

namespace NoticeSeverity

/-- The name of a severity. -/
def name : NoticeSeverity → Text
  | info => "info".toList
  | warning => "warning".toList
  | error => "error".toList

/-- The severity of that name. -/
def ofName? (t : Text) : Option NoticeSeverity :=
  [info, warning, error].find? fun severity => severity.name == t

end NoticeSeverity

/-- What the user can do about a notification (`NotificationAction`). -/
structure NoticeAction where
  /-- What it is called. -/
  label : Text
  /-- How it is done by hand. -/
  hint : Text
  /-- Whether the host can do it. -/
  handled : Bool
  deriving DecidableEq, Repr

/-- Something that the user is told. -/
structure Notification where
  /-- The title. -/
  title : Text
  /-- The message. -/
  message : Text
  /-- How serious it is. -/
  severity : NoticeSeverity
  /-- What can be done about it. -/
  actions : List NoticeAction
  deriving DecidableEq, Repr

namespace Notification

/-- The action that opens the settings. -/
def openSettings (handled : Bool) : NoticeAction :=
  ⟨"Open Settings".toList,
    "run `cpplint-bridge config set <python|cpplint|cpplintOptions> VALUE`".toList, handled⟩

/-- The notification about the configuration (`CpplintRunner.notify_configuration_error`). -/
def configurationError (message : Text) (handled : Bool) : Notification :=
  ⟨"Cpplint Configuration Error".toList, message, .warning, [openSettings handled]⟩

end Notification

end LintMend

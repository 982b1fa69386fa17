import LintMend.Display.Console
import LintMend.Notice.Basic
import LintMend.Placed

/-! # Reports

The lines that the user sees (§4.2, `echo`, `ConsoleNotificationSink`; §4.4, `_render_findings`).
* `MessageKind`: the kinds of status lines, each with a mark and a style.
* `Report.Output`: a console on which lines are set; `Output.on`, `Output.of`: how it comes about.
* `Report.status`: a status line.
* `Report.notification`: the lines of a notification.
* `Report.findings`: two lines for each finding: where it is and what it says, and its fixes. -/

namespace LintMend

/-- The kind of a status line. -/
inductive MessageKind
  | info
  | success
  | warning
  | error
  deriving DecidableEq, Repr

namespace MessageKind

/-- The name of a kind. -/
def name : MessageKind → Text
  | info => "info".toList
  | success => "success".toList
  | warning => "warning".toList
  | error => "error".toList

/-- The kind of that name. -/
def ofName? (t : Text) : Option MessageKind :=
  [info, success, warning, error].find? fun kind => kind.name == t

/-- The mark in front of a status line. -/
def mark : MessageKind → Text
  | info => "ℹ️ ".toList
  | success => "✅ ".toList
  | warning => "⚠️ ".toList
  | error => "❌ ".toList

/-- The style of a status line. -/
def style : MessageKind → Style
  | info => .cyan
  | success => .green
  | warning => .yellow
  | error => .boldRed

/-- The kind of the status line for a notification. -/
def ofNotice : NoticeSeverity → MessageKind
  | .info => info
  | .warning => warning
  | .error => error

end MessageKind

namespace Report

/-- What reports are written to. -/
structure Output where
  /-- Whether it is a terminal. -/
  terminal : Bool
  /-- Whether style codes can be sent to it. -/
  takesCodes : Bool
  /-- Its width in columns. -/
  width : Nat
  /-- The number of columns that a character takes up. -/
  columns : Char → Nat
  /-- Whether colour is asked for; if nothing is said, a terminal gets it. -/
  color : Option Bool
  /-- Whether status lines begin with their marks. -/
  marks : Bool

/-- What reports are written to on a console (`build_console`). -/
def Output.on (con : Console) (env : Environment) (color : Option Bool) (marks : Bool) :
    Except SizeFault Output :=
  match con.width env with
  | .error fault => .error fault
  | .ok width => .ok ⟨con.terminal, con.takesCodes env, width, con.columns, color, marks⟩

/-- What reports are written to on a plain console, except that characters may be wider there. -/
def Output.of (env : Environment) (terminal : Bool) (color : Option Bool) (marks : Bool)
    (columns : Char → Nat := Screen.plainColumns) : Except SizeFault Output :=
  Output.on { Console.plain terminal with columns := columns } env color marks

/-- Whether style codes are written: only where they can be sent. -/
def Output.isColored (out : Output) : Bool := out.takesCodes && out.color.getD out.terminal

/-- A line. It is never broken, however narrow the output is; on one without a column there is
nothing of it. -/
def line (out : Output) (cells : List Cell) : Text :=
  if out.width = 0 then [] else Screen.write out.columns out.isColored cells

/-- A status line (`echo`). -/
def status (out : Output) (kind : MessageKind) (message : Text) : Text :=
  line out (Screen.cells (some kind.style) ((if out.marks then kind.mark else []) ++ message))

/-- The lines of a notification: title and message, and one line for each action. -/
def noticeLines (out : Output) (n : Notification) : List Text :=
  status out (MessageKind.ofNotice n.severity) (n.title ++ ": ".toList ++ n.message)
    :: n.actions.map fun action => status out .info (action.label ++ ": ".toList ++ action.hint)

/-- What is written for a notification (`ConsoleNotificationSink.notify`). -/
def notification (out : Output) (n : Notification) : Text := (noticeLines out n).flatten

/-- The style in which the label of a severity is shown. -/
def severityStyle : Severity → Style
  | .high => .boldRed
  | .medium => .yellow
  | .low => .dim

/-- The line that says where a finding is and what it says. -/
def findingCells (path : Text) (p : PlacedFinding) : List Cell :=
  Screen.cells none (path ++ ':' :: Numeral.write (p.line + 1) ++ ": ".toList)
    ++ Screen.cells (some (severityStyle p.severity)) ('[' :: p.severity.label ++ [']'])
    ++ Screen.cells none (' ' :: p.display ++ " [".toList ++ p.finding.category ++ [']'])

/-- The line that lists the fixes of a finding. -/
def fixesCells (p : PlacedFinding) : List Cell :=
  Screen.cells none ("    fixes: ".toList ++ Text.join "; ".toList (p.fixes.map Fix.name))

/-- The lines of a finding. -/
def findingLines (out : Output) (path : Text) (p : PlacedFinding) : List Text :=
  [line out (findingCells path p), line out (fixesCells p)]

/-- What is written for a finding. -/
def finding (out : Output) (path : Text) (p : PlacedFinding) : Text :=
  (findingLines out path p).flatten

/-- What is written for some findings in the file at a path (`_render_findings`). -/
def findings (out : Output) (path : Text) (ps : List PlacedFinding) : Text :=
  ps.flatMap (finding out path)

/-- It is a line for the place and one for the fixes. -/
theorem finding_eq (out : Output) (path : Text) (p : PlacedFinding) :
    finding out path p = line out (findingCells path p) ++ line out (fixesCells p) := by
  rw [finding, findingLines, List.flatten_cons, List.flatten_singleton]

end Report

end LintMend

import LintMend.Main
import LintMend.Proofs.Finding.Grammar
import LintMend.Proofs.Finding.Printed
import LintMend.Proofs.Text.Pieces
import LintMend.Proofs.Text.Rows
import LintMend.Proofs.Text.WholeWord
import LintMend.Proofs.Mend.Suppression
import LintMend.Proofs.Mend.SuppressionRun
import LintMend.Proofs.Text.LineEdits
import LintMend.Proofs.Text.PlainLines
import LintMend.Proofs.Mend.Directive
import LintMend.Proofs.Mend.Guard
import LintMend.Proofs.Mend.GuardName
import LintMend.Proofs.Mend.GuardRename
import LintMend.Proofs.Mend.FoundGuard
import LintMend.Proofs.Mend.Guarded
import LintMend.Proofs.Mend.SpecificFixes
import LintMend.Proofs.Launch.ShellWords
import LintMend.Proofs.Launch.Command
import LintMend.Proofs.Json.Quoted
import LintMend.Proofs.Settings.Written
import LintMend.Proofs.Files.Directories
import LintMend.Proofs.Settings.Saved
import LintMend.Proofs.Json.Faults
import LintMend.Proofs.Settings.Loading
import LintMend.Proofs.Settings.Session
import LintMend.Proofs.Lint.Report
import LintMend.Proofs.Mend.Offered
import LintMend.Proofs.Files.LongNames
import LintMend.Proofs.Lint.Run
import LintMend.Proofs.Lint.Notices
import LintMend.Proofs.Mend.Renaming
import LintMend.Proofs.Mend.Wrapping
import LintMend.Proofs.Mend.Picked
import LintMend.Proofs.Mend.KeptLines
import LintMend.Proofs.Files.Rewriting
import LintMend.Proofs.CommandLine.Lint
import LintMend.Proofs.CommandLine.LineEnds
import LintMend.Proofs.Text.Tiling
import LintMend.Proofs.Text.Splicing
import LintMend.Proofs.Document.Edits
import LintMend.Proofs.Mend.Template
import LintMend.Proofs.Mend.WrittenName
import LintMend.Proofs.Text.Offsets
import LintMend.Proofs.Document.Placement
import LintMend.Proofs.Document.Stored
import LintMend.Proofs.Files.Spelling
import LintMend.Proofs.Mend.PlaceName
import LintMend.Proofs.Mend.Suggestion
import LintMend.Proofs.Display.Screen
import LintMend.Proofs.Display.Report

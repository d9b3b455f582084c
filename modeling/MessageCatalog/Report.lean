import MessageCatalog.Generation
import MessageCatalog.Text.Count
import MessageCatalog.Text.Style

/-!
# Reports

What a run prints about itself, line by line.

## Main definitions

* `Report.error`, `Report.failure`, `Report.warning` — the lines about what went wrong.
* `Report.settingsSource`, `Report.document` — the lines that are only printed when asked for.
* `Report.generated`, `Report.created` — the lines about what was written.
-/

namespace MessageCatalog.Report

open Text (Style)

variable (colored : Bool)

/-- The mark of what went well. -/
def successMark : String := "✓"

/-- The mark of what went wrong. -/
def failureMark : String := "✘"

/-- The line about an error. -/
def error (message : String) : String :=
  Style.paint colored .boldRed "error:" ++ " " ++ message ++ "\n"

/-- The line about a run that failed. -/
def failure (message : String) : String :=
  Style.paint colored .red failureMark ++ " " ++
    Style.paint colored .red (message ++ " (no files were written)") ++ "\n"

/-- The line about a warning. -/
def warning (found : Warning) : String :=
  Style.paint colored .boldYellow "warning:" ++ " " ++ found.message ++ "\n"

/-- The line about where the settings come from. -/
def settingsSource (path : Option Path) : String :=
  Style.paint colored .boldCyan "config:" ++ " " ++ (path.map Path.text).getD "defaults" ++ "\n"

/-- The line about a document. -/
def document (reference : String) (summary : DocumentSummary) : String :=
  "  " ++ Style.paint colored .blue "-->" ++ " " ++ summary.path.text ++ " " ++
    Style.paint colored .dimmed (Text.counted summary.keyCount "key" "keys") ++
    (if summary.name = reference then Style.paint colored .dimmed " (reference)" else "") ++ "\n"

/-- The line about a file that was written. -/
def written (file : OutputFile) : String :=
  "  " ++ Style.paint colored .dimmed "wrote" ++ " " ++ file.path.text ++ "\n"

/-- The lines about a generation that was written. -/
def generated (generation : Generation) : String :=
  Style.paint colored .green successMark ++ " " ++
    Style.paint colored .green
      ("Generated " ++ Text.counted generation.constantCount "key constant" "key constants" ++
        " from '" ++ generation.reference ++ "' and " ++
        Text.counted generation.documents.length "locale" "locales") ++ "\n" ++
    written colored generation.keys ++ written colored generation.messages

/-- The line about a file that was created. -/
def created (name : String) : String :=
  Style.paint colored .green successMark ++ " " ++
    Style.paint colored .green ("Created " ++ name) ++ "\n"

end MessageCatalog.Report

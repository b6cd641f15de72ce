import DocCatalog.Report.Basic
import DocCatalog.Report.Elapsed
/-!
# Reports as text

* `Entry`: a warning or an error as it is listed.
* `warningEntries`, `errorEntries`: the lists, phase by phase.
* `failedPhases`: the phases for which there are suggestions.
* `render`: the whole report.
-/

namespace DocCatalog.Report

/-- A listed problem, with further lines below it. -/
structure Entry where
  phase : Phase
  text : String
  below : List String
  deriving DecidableEq, Repr

/-! ## Entries

What was found in the files is listed with the warnings or the errors of its phase. -/

def Entry.ofWarning (w : Warning) : Entry :=
  ⟨w.phase, (match w.location with | some l => l ++ ": " | none => "") ++ w.message, []⟩

def Entry.ofDiagnostic (d : Phase × Diagnostic) : Entry :=
  ⟨d.1, d.2.location ++ ": " ++ d.2.message, []⟩

def Entry.ofSyncError (e : SyncError) : Entry :=
  ⟨e.phase, e.message,
    (e.file.map ("    File: " ++ ·)).toList ++ (e.details.map ("    Details: " ++ ·)).toList⟩

/-- The warnings of a phase. -/
def warningsIn (r : Report) (p : Phase) : List Entry :=
  (r.warnings.filter (·.phase == p)).map Entry.ofWarning
    ++ ((r.findings .warn).filter (·.1 == p)).map Entry.ofDiagnostic

/-- The errors of a phase. -/
def errorsIn (r : Report) (p : Phase) : List Entry :=
  ((r.findings .error).filter (·.1 == p)).map Entry.ofDiagnostic
    ++ (r.syncErrors.filter (·.phase == p)).map Entry.ofSyncError

def warningEntries (r : Report) : List Entry := Phase.all.flatMap r.warningsIn

def errorEntries (r : Report) : List Entry := Phase.all.flatMap r.errorsIn

/-- The phases with an error. -/
def failedPhases (r : Report) : List Phase := Phase.all.filter fun p => !(r.errorsIn p).isEmpty

/-! ## Lines -/

def title (r : Report) : String :=
  (if r.dryRun then "MCP SYNC DRY RUN COMPLETED"
    else if r.hasErrors then "MCP SYNC COMPLETED" else "MCP SYNC COMPLETED SUCCESSFULLY")
    ++ if r.hasErrors then " WITH ERRORS" else ""

def rule : String := String.ofList (List.replicate 48 '=')

def headLines (r : Report) : List String :=
  [rule, r.title, rule, "",
   "Statistics:",
   "  Components found: " ++ toString r.stats.components,
   "  Commands found:   " ++ toString r.stats.commands,
   "  Patterns found:   " ++ toString r.stats.patterns,
   "  Packages found:   " ++ toString r.stats.packages,
   "  Time taken:       " ++ secondsText r.stats.millis ++ "s"]

def previewText : Preview → String
  | .created lines => "new, " ++ toString lines ++ " lines"
  | .unchanged => "unchanged"
  | .changed added removed => "changed, +" ++ toString added ++ " -" ++ toString removed

def fileLine (f : FileOutcome) : String :=
  "  - " ++ f.path ++ " (" ++ toString f.records ++ " records, " ++ previewText f.preview ++ ")"

def fileLines (r : Report) : List String :=
  ["", if r.dryRun then "Files that would be generated:" else "Files generated:"]
    ++ (if r.files.isEmpty then ["  (none)"] else [])
    ++ r.files.map fileLine
    ++ (if r.dryRun then ["  [DRY RUN] No files were written"] else [])
    ++ r.files.flatMap fun f =>
      match f.diff with
      | some d => ["", d]
      | none => []

def entryLines (e : Entry) : List String :=
  ("  [" ++ e.phase.text ++ "] " ++ e.text) :: e.below

def warningLines (r : Report) : List String :=
  if r.warningCount == 0 then []
  else
    ["", "Warnings (" ++ toString r.warningCount ++ "):"] ++ r.warningEntries.flatMap entryLines

def suggestionLines (p : Phase) : List String :=
  ("  " ++ p.text ++ ":") :: p.suggestions.map ("    - " ++ ·)

def errorLines (r : Report) : List String :=
  if !r.hasErrors then []
  else
    ["", "Errors (" ++ toString r.errorCount ++ "):"] ++ r.errorEntries.flatMap entryLines
      ++ ["", "Suggestions:"] ++ r.failedPhases.flatMap suggestionLines

/-- The report as text. -/
def render (r : Report) : String :=
  String.join
    ((r.headLines ++ r.fileLines ++ r.warningLines ++ r.errorLines).map (· ++ "\n"))

end DocCatalog.Report

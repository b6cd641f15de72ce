import DocCatalog.Report.Phase
import DocCatalog.Record.Diagnostic
/-!
# Reports

What a run did and what it met.

* `Report`: the statistics, the generated files, and four lists of problems.
* `errorCount`, `warningCount`, `hasErrors`: how it ended.
-/

namespace DocCatalog

/-- A notice about a run that keeps nothing from being done. -/
structure Warning where
  phase : Phase
  location : Option String
  message : String
  deriving DecidableEq, Repr

/-- A phase that could not do its work. -/
structure SyncError where
  phase : Phase
  message : String
  file : Option String
  /-- The causes of the failure. -/
  details : Option String
  deriving DecidableEq, Repr

/-- How a generated module compares with the file in its place. -/
inductive Preview where
  | created (lines : Nat)
  | unchanged
  | changed (added removed : Nat)
  deriving DecidableEq, Repr

structure FileOutcome where
  kind : RecordKind
  /-- Relative to the root of the project. -/
  path : String
  records : Nat
  preview : Preview
  diff : Option String
  written : Bool
  code : String
  deriving DecidableEq, Repr

structure Stats where
  components : Nat := 0
  commands : Nat := 0
  patterns : Nat := 0
  packages : Nat := 0
  filesGenerated : List String := []
  /-- The time that the run took, in thousandths of a second. -/
  millis : Nat := 0
  deriving DecidableEq, Repr

structure Report where
  dryRun : Bool := false
  stats : Stats := {}
  files : List FileOutcome := []
  warnings : List Warning := []
  /-- The findings of the extractors. -/
  diagnostics : List (Phase × Diagnostic) := []
  syncErrors : List SyncError := []
  deriving DecidableEq, Repr

namespace Report

/-- The findings of the given severity. -/
def findings (r : Report) (s : Severity) : List (Phase × Diagnostic) :=
  r.diagnostics.filter fun d => d.2.severity == s

def errorCount (r : Report) : Nat := r.syncErrors.length + (r.findings .error).length

def warningCount (r : Report) : Nat := r.warnings.length + (r.findings .warn).length

def hasErrors (r : Report) : Bool := !r.syncErrors.isEmpty || !(r.findings .error).isEmpty

end Report

end DocCatalog

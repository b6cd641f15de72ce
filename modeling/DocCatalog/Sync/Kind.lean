import DocCatalog.Diff.Unified
import DocCatalog.Emit.Module
import DocCatalog.Extract.Merge
import DocCatalog.Files.Replace
import DocCatalog.Report.Basic
import DocCatalog.Sync.Log
import DocCatalog.Text.Split
/-!
# Synchronizing one kind

The records of a kind are written to a module, which is checked before it takes the place of the one
before.

* `Ending`: how it ended, in exactly one of three ways.
* `Kind.validate`: what is wrong with the code of a module.
* `Kind.write`: puts the module in its place, or only says what would change.
* `Kind.sync`: all steps from the extracted records on.
-/

namespace DocCatalog.Sync

/-- What has been asked for. -/
structure Options where
  dryRun : Bool := false
  verbose : Bool := false
  /-- Arguments that nothing is known about. -/
  unknown : List String := []
  deriving DecidableEq, Repr

/-- Where the module of a kind goes. -/
structure Destination where
  /-- The root of the project. -/
  root : String
  /-- Relative to the root. -/
  path : String
  deriving DecidableEq, Repr

def Destination.fullPath (d : Destination) : String := Path.join d.root d.path

/-- How the synchronization of a kind ended. -/
inductive Ending where
  | generated (file : FileOutcome)
  /-- There was nothing to write. -/
  | untouched (message : String)
  | failed (error : SyncError)
  deriving DecidableEq, Repr

/-- What the synchronization of a kind did. -/
structure KindRun where
  /-- How many records have been found. -/
  found : Nat := 0
  diagnostics : List Diagnostic := []
  /-- The records that have no entry. -/
  exclusions : List String := []
  ending : Ending
  tree : Tree
  log : List LogLine

namespace Kind

/-! ## The module

Code that is refused is not written, and what was there before stays as it is. -/

/-- What is wrong with the code of a module. It has to export its table. -/
def validate (code exportName : String) : Option String :=
  match Outline.ofText .plain code with
  | .error line => some ("generated code does not parse: " ++ (Finding.unparsed line).message)
  | .ok outline =>
    if outline.exported.any fun d => d.kind == .const && d.name == exportName then none
    else some ("generated code does not export `" ++ exportName ++ "`")

/-- How new code compares with what is there. -/
def preview (old : Option String) (new : String) : Preview :=
  match old with
  | none => .created (Text.lines new.toList).length
  | some old =>
    if old == new then .unchanged
    else
      let (added, removed) := Diff.counts old new
      .changed added removed

/-- The difference is shown only when nothing is written. -/
def difference (o : Options) (path : String) (old : Option String) (new : String) : Option String :=
  match old with
  | none => none
  | some old =>
    if o.dryRun && o.verbose && old != new then some (Diff.unified path old new) else none

/-- Puts a module in its place, or only says what would change. -/
def write (kind : RecordKind) (o : Options) (d : Destination) (m : Emit.GeneratedModule)
    (t : Tree) : Ending × Tree × List LogLine :=
  let old := (t.readText d.fullPath).toOption
  let outcome (written : Bool) : FileOutcome :=
    { kind := kind
      path := d.path
      records := m.recordCount
      preview := preview old m.code
      diff := difference o d.path old m.code
      written := written
      code := m.code }
  if o.dryRun then (.generated (outcome false), t, [])
  else
    match t.replace d.fullPath m.code with
    | (t, none) =>
      (.generated (outcome true), t, [.about .debug (.write kind) ("wrote " ++ d.fullPath)])
    | (t, some e) =>
      (.failed ⟨.write kind, e.message, some d.path, some (": ".intercalate e.causes)⟩, t,
        [.about .warn (.write kind) e.message])

/-- Leaves what is there untouched. -/
def leave (kind : RecordKind) (d : Destination) (reason : String) (t : Tree) :
    Ending × Tree × List LogLine :=
  let message := reason ++ "; " ++ d.path ++ " left untouched"
  (.untouched message, t, [.about .warn (.generate kind) message])

/-! ## The records

A kind without records leaves its module alone, and so does one of which every record was left out.
-/

variable {ρ : Type} [Catalogued ρ]

/-- What is told about the files and the records. -/
def extractionLog (e : Extract.Extraction ρ) : List LogLine :=
  let kind := Catalogued.kind ρ
  let file (f : Extract.FileSummary) : String :=
    f.path ++ ": " ++ toString f.records ++ " record(s)" ++ if f.succeeded then "" else " (failed)"
  let record (r : ρ) : String :=
    kind.noun ++ " `" ++ Catalogued.name r ++ "` at " ++ (Catalogued.provenance r).text
      ++ (if (Catalogued.description r).isEmpty then " (no description)" else "")
      ++ (if (Catalogued.example? r).isNone then " (no example)" else "")
  (e.files.map file ++ e.records.map record).map (.about .debug (.extract kind))

/-- Generates the module of the records, and checks it. -/
def finish (g : Emit.Generator ρ) (o : Options) (d : Destination) (records : List ρ) (t : Tree) :
    List String × Ending × Tree × List LogLine :=
  let kind := Catalogued.kind ρ
  if records.isEmpty then ([], leave kind d ("no " ++ kind.slug ++ " extracted") t)
  else
    let m := Emit.generate g records
    let log := m.warnings.map (.about .debug (.generate kind))
    let (ending, t, rest) :=
      if m.recordCount == 0 then
        leave kind d ("every extracted " ++ kind.noun ++ " was excluded") t
      else
        match validate m.code g.exportName with
        | some message => (.failed ⟨.validate kind, message, some d.path, none⟩, t, [])
        | none => write kind o d m t
    (m.warnings, ending, t, log ++ rest)

/-- Synchronizes a kind from what has been extracted. -/
def sync (g : Emit.Generator ρ) (o : Options) (d : Destination)
    (extracted : Except Extract.DiscoverError (Extract.Extraction ρ)) (t : Tree) : KindRun :=
  let kind := Catalogued.kind ρ
  match extracted with
  | .error e =>
    let details := if e.causes.isEmpty then none else some (": ".intercalate e.causes)
    { ending := .failed ⟨.extract kind, e.message, none, details⟩
      tree := t
      log := [.about .warn (.extract kind) e.message] }
  | .ok e =>
    let (exclusions, ending, t, log) := finish g o d e.records t
    { found := e.records.length
      diagnostics := e.diagnostics
      exclusions := exclusions
      ending := ending
      tree := t
      log := extractionLog e ++ log }

end Kind

end DocCatalog.Sync

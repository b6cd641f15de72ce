import DocCatalog.Config.Project
import DocCatalog.Emit.Commands
import DocCatalog.Emit.Components
import DocCatalog.Emit.Patterns
import DocCatalog.Extract.Command
import DocCatalog.Extract.Component
import DocCatalog.Extract.Pattern
import DocCatalog.Reference.QuickReference
import DocCatalog.Sync.Kind
/-!
# Runs

A run extracts all kinds from one tree and then synchronizes kind by kind. A kind that fails keeps no
other from being synchronized.

* `readReference`: the quick reference, if there is one to be read.
* `runCommands`: commands are completed from the quick reference first.
* `run`: the whole run, with its report.
-/

namespace DocCatalog.Sync

/-- What a run did. -/
structure RunResult where
  report : Report
  tree : Tree
  log : List LogLine

/-- Where the module of a kind goes. -/
def destination (root : String) (c : Config) (kind : RecordKind) : Destination :=
  ⟨root, Path.tidy (Path.join c.outputDir (c.source kind).output)⟩

/-! ## The quick reference

The quick reference only adds to commands, so that one that cannot be read is a warning and no
failure. -/

/-- What became of the quick reference. -/
structure ReferenceRun where
  reference : Reference.QuickReference := .empty
  diagnostics : List Diagnostic := []
  log : List LogLine := []

/-- Reads the quick reference that the configuration names. One that cannot be read says nothing. -/
def readReference (t : Tree) (root : String) (c : SourceConfig) : ReferenceRun :=
  let phase := Phase.extract .command
  match c.reference with
  | none => {}
  | some path =>
    match t.readText (Path.join root path) with
    | .error e =>
      { diagnostics := [(Finding.unreadReference e.text).place path none]
        log := [.about .warn phase (path ++ ": " ++ e.text)] }
    | .ok text =>
      let reference := Reference.QuickReference.parse text
      { reference := reference
        diagnostics :=
          if reference.hasPackageSection then [] else [Finding.noPackages.place path none]
        log := [.about .debug phase ("read quick reference " ++ path)] }

/-! ## Kinds

Each kind is given the tree that the one before it has left. -/

def runComponents (root : String) (c : Config) (o : Options)
    (extracted : Except Extract.DiscoverError (Extract.Extraction ComponentRecord)) (t : Tree) :
    KindRun :=
  Kind.sync (Emit.Components.generator c.components.patterns) o (destination root c .component)
    extracted t

/-- Also gives the number of packages. Without commands the quick reference is not read. -/
def runCommands (root : String) (c : Config) (o : Options)
    (extracted : Except Extract.DiscoverError (Extract.Extraction CommandRecord)) (t : Tree) :
    KindRun × Nat :=
  let sources := c.commands.patterns ++ c.commands.reference.toList
  let sync (packages : List PackageInfo) := Kind.sync (Emit.Commands.generator sources packages) o
    (destination root c .command)
  match extracted with
  | .error e => (sync [] (.error e) t, 0)
  | .ok e =>
    if e.records.isEmpty then (sync [] (.ok e) t, 0)
    else
      let r := readReference t root c.commands
      let packages := r.reference.packages
      let k := sync packages (.ok { e with records := r.reference.enrich e.records }) t
      ({ k with diagnostics := r.diagnostics ++ k.diagnostics, log := r.log ++ k.log },
        packages.length)

def runPatterns (root : String) (c : Config) (o : Options)
    (extracted : Except Extract.DiscoverError (Extract.Extraction PatternRecord)) (t : Tree) :
    KindRun :=
  Kind.sync (Emit.Patterns.generator c.patterns.patterns) o (destination root c .pattern)
    extracted t

/-! ## Reports -/

/-- The warnings of a kind: records without an entry, then a module that was left untouched. -/
def KindRun.warnings (kind : RecordKind) (k : KindRun) : List Warning :=
  let untouched :=
    match k.ending with
    | .untouched message => [message]
    | _ => []
  (k.exclusions ++ untouched).map fun m => ⟨.generate kind, none, m⟩

def KindRun.files (k : KindRun) : List FileOutcome :=
  match k.ending with
  | .generated file => [file]
  | _ => []

def KindRun.errors (k : KindRun) : List SyncError :=
  match k.ending with
  | .failed e => [e]
  | _ => []

def unknownMessage (argument : String) : String := "unknown argument: " ++ argument

/-- The report of a run, from what it did with each kind. -/
def reportOf (o : Options) (components commands patterns : KindRun) (packages : Nat) : Report :=
  let kinds : List (RecordKind × KindRun) :=
    [(.component, components), (.command, commands), (.pattern, patterns)]
  let files := kinds.flatMap fun (_, k) => k.files
  { dryRun := o.dryRun
    stats :=
      { components := components.found
        commands := commands.found
        patterns := patterns.found
        packages := packages
        filesGenerated := files.map (·.path) }
    files := files
    warnings :=
      o.unknown.map (fun a => ⟨.parseArgs, none, unknownMessage a⟩)
        ++ kinds.flatMap fun (kind, k) => k.warnings kind
    diagnostics :=
      kinds.flatMap fun (kind, k) => k.diagnostics.map fun d => (.extract kind, d)
    syncErrors := kinds.flatMap fun (_, k) => k.errors }

/-! ## Runs -/

/-- What is told before anything is read. -/
def openingLog (root : String) (o : Options) : List LogLine :=
  o.unknown.map (fun a => ⟨.warn, unknownMessage a⟩)
    ++ (if o.dryRun then [⟨.info, "dry run: no files will be written"⟩] else [])
    ++ [⟨.debug, "extracting from " ++ root⟩]

/-- Synchronizes the project with the given root. Everything is extracted before anything is written. -/
def run (t : Tree) (root : String) (c : Config) (o : Options) : RunResult :=
  let top := (t.locate root).toOption.getD []
  let components :=
    Extract.extract (Extract.Component.ofFile c.components.categoryRoot) t top c.components
  let commands := Extract.extract Extract.Command.ofFile t top c.commands
  let patterns := Extract.extract Extract.Pattern.ofFile t top c.patterns
  let first := runComponents root c o components t
  let (second, packages) := runCommands root c o commands first.tree
  let third := runPatterns root c o patterns second.tree
  { report := reportOf o first second third packages
    tree := third.tree
    log := openingLog root o ++ first.log ++ second.log ++ third.log }

end DocCatalog.Sync

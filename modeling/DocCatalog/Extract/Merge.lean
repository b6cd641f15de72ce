import DocCatalog.Extract.Discover
import DocCatalog.Extract.FileResult
import DocCatalog.Outline.OfTree
/-!
# Merging files

The records of all files together have different names: of equal names the first one counts.

* `ofSource`: what one file gives. A file that cannot be read gives nothing but a diagnostic.
* `keepFirst`: takes those records of a file of which the names are new.
* `merge`: all files in turn.
* `extract`: finds files and merges what they give.
-/

namespace DocCatalog.Extract

variable {ρ : Type}

/-! ## One file -/

/-- What one file gives, where `ofFile` extracts from an outline. -/
def ofSource (ofFile : Outline → String → FileResult ρ) (s : SourceFile) : FileResult ρ :=
  match s.content.readText with
  | .error e => .failed ((Finding.unreadFile e.text).place s.path none)
  | .ok text =>
    match Outline.ofText (Script.Dialect.ofPath s.path) text with
    | .error line => .failed ((Finding.unparsed line).place s.path (some line))
    | .ok outline => ofFile outline s.path

/-! ## Names

Files come in the order of their paths, so that of several records with one name that of the first
file is kept. -/

/-- The names that have been met, with the places of their records. -/
abbrev Seen := List (String × Provenance)

/-- The records of a file that are kept, and the diagnostics of the others. -/
structure Kept (ρ : Type) where
  records : List ρ
  duplicates : List Diagnostic
  seen : Seen

variable [Catalogued ρ]

/-- The diagnostic of a record of which the name has been met at another place. -/
def duplicate (file : String) (first : Provenance) (r : ρ) : Diagnostic :=
  let here := Catalogued.provenance r
  (Finding.duplicate (Catalogued.kind ρ) (Catalogued.name r) first here).place file (some here.line)

/-- Takes the records of which the names are new. -/
def keepFirst (file : String) (seen : Seen) : List ρ → Kept ρ
  | [] => ⟨[], [], seen⟩
  | r :: rs =>
    match seen.lookup (Catalogued.name r) with
    | some first =>
      let k := keepFirst file seen rs
      { k with duplicates := duplicate file first r :: k.duplicates }
    | none =>
      let k := keepFirst file ((Catalogued.name r, Catalogued.provenance r) :: seen) rs
      { k with records := r :: k.records }

/-! ## All files -/

/-- What became of a file. -/
structure FileSummary where
  path : String
  /-- How many of its records have been kept. -/
  records : Nat
  succeeded : Bool
  deriving DecidableEq, Repr

structure Extraction (ρ : Type) where
  records : List ρ
  diagnostics : List Diagnostic
  files : List FileSummary
  deriving Repr

/-- The diagnostics of a file in the order of lines, those without a line first. -/
def byLine (ds : List Diagnostic) : List Diagnostic :=
  ds.mergeSort fun a b => a.line.getD 0 ≤ b.line.getD 0

/-- Merges the results of files in turn. -/
def mergeFrom (seen : Seen) : List (String × FileResult ρ) → Extraction ρ
  | [] => ⟨[], [], []⟩
  | (path, result) :: rest =>
    let k := keepFirst path seen result.records
    let e := mergeFrom k.seen rest
    { records := k.records ++ e.records
      diagnostics := byLine (result.diagnostics ++ k.duplicates) ++ e.diagnostics
      files := ⟨path, k.records.length, result.succeeded⟩ :: e.files }

def merge (results : List (String × FileResult ρ)) : Extraction ρ := mergeFrom [] results

/-- Extracts from all files of a configuration. -/
def extract (ofFile : Outline → String → FileResult ρ) (t : Tree) (root : Place)
    (c : SourceConfig) : Except DiscoverError (Extraction ρ) := do
  let sources ← discover t root c
  return merge (sources.map fun s => (s.path, ofSource ofFile s))

end DocCatalog.Extract

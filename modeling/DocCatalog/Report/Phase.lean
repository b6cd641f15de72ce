import DocCatalog.Record.Basic
/-!
# Phases

The steps of a run, in the order in which a report lists them.
-/

namespace DocCatalog

inductive Phase where
  | parseArgs
  | extract (kind : RecordKind)
  | generate (kind : RecordKind)
  | validate (kind : RecordKind)
  | write (kind : RecordKind)
  deriving DecidableEq, Repr

namespace Phase

def text : Phase → String
  | .parseArgs => "parse-args"
  | .extract kind => "extract-" ++ kind.slug
  | .generate kind => "generate-" ++ kind.slug
  | .validate kind => "validate-" ++ kind.slug
  | .write kind => "write-" ++ kind.slug

/-- All phases: first the arguments, then kind by kind. -/
def all : List Phase :=
  .parseArgs :: RecordKind.all.flatMap fun k => [.extract k, .generate k, .validate k, .write k]

/-- What helps when something went wrong in a phase. -/
def suggestions : Phase → List String
  | .parseArgs => ["Run with --help to list the supported flags"]
  | .extract _ =>
    ["Check that the source files exist and parse as TypeScript",
     "Check the glob patterns in mcp-sync.toml",
     "Rename or merge declarations that share a name",
     "Run with --verbose for per-file progress"]
  | .generate _ =>
    ["Check that the extracted records have the required fields",
     "Run with --dry-run to preview without writing"]
  | .validate _ =>
    ["The generated module did not parse; the file on disk was left untouched",
     "Run with --verbose to see the validation details"]
  | .write _ =>
    ["Verify the output directory exists and is writable",
     "Try running with --dry-run to validate without writing"]

end Phase

end DocCatalog

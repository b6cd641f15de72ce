import DocCatalog.Text.Split
/-!
# Arguments

The flags of the program, and what is set aside because it is no flag.

* `partitionArguments`: the program's name and its flags on one side, all else on the other.
* `Flag.ofArgument?`: the flags that an argument stands for. A cluster stands for several.
* `parseFlags`: reads flags from left to right. Help and version end the reading; a flag that is
  given twice is an error.
-/

namespace DocCatalog.CommandLine

inductive Flag where
  | dryRun
  | verbose
  | help
  | version
  deriving DecidableEq, Repr

namespace Flag

/-- The flag with the given letter. -/
def ofLetter? : Char → Option Flag
  | 'd' => some .dryRun
  | 'v' => some .verbose
  | 'h' => some .help
  | 'V' => some .version
  | _ => none

def longName : Flag → String
  | .dryRun => "--dry-run"
  | .verbose => "--verbose"
  | .help => "--help"
  | .version => "--version"

def all : List Flag := [.dryRun, .verbose, .help, .version]

/-- The flags of a cluster of letters. Each letter must be one of a flag. -/
def ofCluster? : List Char → Option (List Flag)
  | [] => some []
  | c :: r => do return (← ofLetter? c) :: (← ofCluster? r)

/-- The flags that an argument stands for, if it is one of the long flags or a cluster. -/
def ofArgument? (argument : String) : Option (List Flag) :=
  match all.find? (·.longName == argument) with
  | some f => some [f]
  | none =>
    match argument.toList with
    | '-' :: c :: r => ofCluster? (c :: r)
    | _ => none

end Flag

def isKnown (argument : String) : Bool := (Flag.ofArgument? argument).isSome

/-- What the program understands, with its own name in front, and the rest. -/
def partitionArguments : List String → List String × List String
  | [] => ([], [])
  | name :: arguments =>
    (name :: arguments.filter isKnown, arguments.filter fun a => !isKnown a)

/-- What the flags ask for. -/
structure Settings where
  dryRun : Bool
  verbose : Bool
  deriving DecidableEq, Repr

/-- Why there are no settings. -/
inductive Refusal where
  | help
  | version
  | repeated (flag : Flag)
  deriving DecidableEq, Repr

/-- Reads flags from left to right. -/
def applyFlags (s : Settings) : List Flag → Except Refusal Settings
  | [] => .ok s
  | .help :: _ => .error .help
  | .version :: _ => .error .version
  | .dryRun :: fs =>
    if s.dryRun then .error (.repeated .dryRun) else applyFlags { s with dryRun := true } fs
  | .verbose :: fs =>
    if s.verbose then .error (.repeated .verbose) else applyFlags { s with verbose := true } fs

/-- The settings that known arguments ask for, the program's name first. -/
def parseFlags (known : List String) : Except Refusal Settings :=
  applyFlags ⟨false, false⟩ ((known.drop 1).flatMap fun a => (Flag.ofArgument? a).getD [])

/-! ## Texts -/

def programName : String := "mcp-sync"

/-- The name under which the program was called: the last part of its path. -/
def calledName (known : List String) : String :=
  let parts := (Text.splitWhere (· == '/') (known.head?.getD "").toList).map String.ofList
  match (parts.filter fun p => p != "" && p != ".").getLast? with
  | none | some ".." => programName
  | some name => name

def usageLine (known : List String) : String := "Usage: " ++ calledName known ++ " [OPTIONS]\n"

def helpText (known : List String) : String :=
  "Synchronize component, command and pattern metadata into the MCP data modules\n\n"
    ++ usageLine known
    ++ "\nOptions:\n"
    ++ "  -d, --dry-run  Preview changes without writing files\n"
    ++ "  -v, --verbose  Show detailed progress and debug information\n"
    ++ "  -h, --help     Print help\n"
    ++ "  -V, --version  Print version\n"
    ++ "\nOutput files (relative to the project root, see mcp-sync.toml):\n"
    ++ "  libs/aegisx-mcp/src/data/components.ts     UI component metadata\n"
    ++ "  libs/aegisx-mcp/src/data/crud-commands.ts  CLI command metadata\n"
    ++ "  libs/aegisx-mcp/src/data/patterns.ts       Code pattern metadata\n"
    ++ "\nExamples:\n"
    ++ "  mcp-sync                   Regenerate every data module\n"
    ++ "  mcp-sync --dry-run         Preview what would be generated\n"
    ++ "  mcp-sync -d -v             Preview with per-file progress and diffs\n"
    ++ "\nSet RUST_LOG to override the log filter.\n"

def versionText : String := "mcp-sync 0.1.0\n"

/-- What the program says in place of running. -/
def Refusal.message (known : List String) : Refusal → String
  | .help => helpText known
  | .version => versionText
  | .repeated flag =>
    "error: the argument '" ++ flag.longName ++ "' cannot be used multiple times\n\n"
      ++ usageLine known ++ "\nFor more information, try '--help'.\n"

/-- Help and version have been asked for; a repeated flag is a mistake. -/
def Refusal.isMistake : Refusal → Bool
  | .repeated _ => true
  | _ => false

end DocCatalog.CommandLine

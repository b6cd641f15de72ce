import DocCatalog.Record.Basic
/-!
# Configuration

* `SourceConfig`: where records of one kind come from and where their module goes.
* `Config`: the configuration of a project.
* `Config.standard`: what holds without a settings file.
-/

namespace DocCatalog

/-- Where records of one kind come from and where their module goes. -/
structure SourceConfig where
  /-- Glob patterns, relative to the root of the project. -/
  patterns : List String
  /-- The file of the module, relative to the output directory. -/
  output : String
  /-- The directory whose subdirectories name the categories of components. -/
  categoryRoot : Option String
  /-- Whether it is an error if no file matches. -/
  requireMatches : Bool
  /-- A quick reference that is read with the sources. -/
  reference : Option String
  deriving DecidableEq, Repr

structure Config where
  /-- Relative to the root of the project. -/
  outputDir : String
  components : SourceConfig
  commands : SourceConfig
  patterns : SourceConfig
  deriving DecidableEq, Repr

namespace Config

/-- The configuration of a project without a settings file. -/
def standard : Config where
  outputDir := "libs/aegisx-mcp/src/data"
  components :=
    { patterns := ["libs/aegisx-ui/src/lib/components/**/*.component.ts"]
      output := "components.ts"
      categoryRoot := some "libs/aegisx-ui/src/lib/components"
      requireMatches := true
      reference := none }
  commands :=
    { patterns := ["libs/aegisx-cli/bin/*.js"]
      output := "crud-commands.ts"
      categoryRoot := none
      requireMatches := true
      reference := some "libs/aegisx-cli/docs/QUICK_REFERENCE.md" }
  patterns :=
    { patterns := ["libs/aegisx-mcp/src/patterns/**/*.ts"]
      output := "patterns.ts"
      categoryRoot := none
      requireMatches := true
      reference := none }

/-- The section of a kind. -/
def source (c : Config) : RecordKind → SourceConfig
  | .component => c.components
  | .command => c.commands
  | .pattern => c.patterns

end Config

end DocCatalog

import DocCatalog.Config.Decode
import DocCatalog.Files.Access
/-!
# Projects

A project is a directory with a marker in it.

* `Project.findRoot?`: the nearest directory above a path that is one.
* `Project.load`: its configuration.
-/

namespace DocCatalog.Project

/-- The settings file of a project, in its root. -/
def settingsFile : String := "mcp-sync.toml"

/-- Files that mark the root of a project. -/
def markers : List String := [settingsFile, "pnpm-workspace.yaml"]

def isRoot (t : Tree) (directory : String) : Bool :=
  markers.any fun m => t.isFile (Path.join directory m)

/-- The nearest root at or above an absolute path. Nothing needs to be at the path. -/
def findRoot? (t : Tree) (start : String) : Option String :=
  (Path.ancestors start).find? (isRoot t)

inductive LoadError where
  | unreadable (path : String) (cause : FileError)
  | invalid (path : String) (problem : Config.Problem)
  deriving DecidableEq, Repr

def LoadError.message : LoadError → String
  | .unreadable path cause => "failed to read " ++ path ++ ": " ++ cause.text
  | .invalid path problem =>
    "invalid config: " ++ path ++ ": TOML parse error"
      ++ (match problem.message? with
        | some m => ": " ++ m
        | none => "")

/-- The configuration of a project. Without a settings file it is the standard one. -/
def load (t : Tree) (root : String) : Except LoadError Config :=
  let path := Path.join root settingsFile
  if !t.isFile path then .ok .standard
  else
    match t.readText path with
    | .error e => .error (.unreadable path e)
    | .ok text => (Config.ofText text).mapError (.invalid path)

end DocCatalog.Project

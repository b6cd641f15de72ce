import DocCatalog.CommandLine.Arguments
import DocCatalog.Report.Render
import DocCatalog.Sync.Run
/-!
# The program

What the program prints and how it exits, for a tree of files, a working directory and arguments.

* `Outcome`: what a call of the program leaves behind.
* `call`: reads the arguments, finds the project and synchronizes it.
-/

namespace DocCatalog.CommandLine

/-- What a call of the program leaves behind. -/
structure Outcome where
  exitCode : Nat
  stdout : String := ""
  stderr : String := ""
  tree : Tree

/-- Lines, each with its end. -/
def endLines (lines : List String) : String := String.join (lines.map (· ++ "\n"))

/-- The lines of a log that are printed. -/
def logText (verbose : Bool) (log : List LogLine) : String :=
  endLines ((log.filter (·.isShown verbose)).map (·.text))

def noProject (workingDirectory : String) : String :=
  "no project root found from " ++ workingDirectory ++ " (looked for " ++ Project.settingsFile
    ++ " or pnpm-workspace.yaml)"

/-- A call that could not do its work. -/
def failure (t : Tree) (told : String) (message : String) : Outcome :=
  { exitCode := 1, stderr := told ++ "error: " ++ message ++ "\n", tree := t }

/-- Synchronizes the project around a working directory. -/
def synchronize (t : Tree) (workingDirectory : String) (s : Settings) (unknown : List String) :
    Outcome :=
  match Project.findRoot? t workingDirectory with
  | none => failure t "" (noProject workingDirectory)
  | some root =>
    let opening : List LogLine := [⟨.debug, "project root: " ++ root⟩]
    match Project.load t root with
    | .error e => failure t (logText s.verbose opening) e.message
    | .ok c =>
      let r := Sync.run t root c ⟨s.dryRun, s.verbose, unknown⟩
      { exitCode := if r.report.hasErrors then 1 else 0
        stdout := r.report.render
        stderr := logText s.verbose (opening ++ r.log)
        tree := r.tree }

/-- A call of the program. The first argument is the name under which it was called. -/
def call (t : Tree) (workingDirectory : String) (arguments : List String) : Outcome :=
  let (known, unknown) := partitionArguments arguments
  match parseFlags known with
  | .error e =>
    if e.isMistake then { exitCode := 1, stderr := e.message known, tree := t }
    else { exitCode := 0, stdout := e.message known, tree := t }
  | .ok s => synchronize t workingDirectory s unknown

end DocCatalog.CommandLine

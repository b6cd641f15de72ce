import DocCatalog.Record.Basic
/-!
# Diagnostics

Problems found while extracting from one file.

* `Finding`: what was found. Its severity and its wording are functions of it.
* `Diagnostic`: a finding at its place, ready to be reported.
-/

namespace DocCatalog

inductive Severity where
  | warn
  | error
  deriving DecidableEq, Repr

def Severity.text : Severity → String
  | .warn => "warn"
  | .error => "error"

/-- A problem at a place in a file. -/
structure Diagnostic where
  file : String
  line : Option Nat
  severity : Severity
  message : String
  deriving DecidableEq, Repr

/-- The file, with the line if there is one. -/
def Diagnostic.location (d : Diagnostic) : String :=
  match d.line with
  | some n => d.file ++ ":" ++ toString n
  | none => d.file

/-- What can be found. -/
inductive Finding where
  | undocumented (kind : RecordKind) (name : String)
  | unnamedCommand
  | optionWithoutLongFlag (command : String)
  | oddParam (command value : String)
  | duplicate (kind : RecordKind) (name : String) (first second : Provenance)
  | unparsed (line : Nat)
  | unreadFile (reason : String)
  | unreadPath (reason : String)
  | unreadReference (reason : String)
  | noPackages
  deriving DecidableEq, Repr

namespace Finding

/-- Findings that cost a record or a file are errors. -/
def severity : Finding → Severity
  | .duplicate .. | .unparsed _ | .unreadFile _ | .unreadPath _ => .error
  | _ => .warn

def message : Finding → String
  | .undocumented kind name => kind.noun ++ " `" ++ name ++ "` has no documentation comment"
  | .unnamedCommand => "`.command()` with an empty name"
  | .optionWithoutLongFlag command =>
    "command `" ++ command ++ "`: option without a `--long` flag"
  | .oddParam command value =>
    "command `" ++ command ++ "`: @param `" ++ value
      ++ "` is not of the form `name - description`"
  | .duplicate kind name first second =>
    "duplicate " ++ kind.noun ++ " `" ++ name ++ "`: first defined at " ++ first.text
      ++ ", also defined at " ++ second.text
  | .unparsed line => "syntax error near line " ++ toString line
  | .unreadFile reason => "failed to read file: " ++ reason
  | .unreadPath reason => "failed to read path: " ++ reason
  | .unreadReference reason => "failed to read quick reference: " ++ reason
  | .noPackages => "no Package Scripts section; default packages used"

/-- The finding at a place. -/
def place (f : Finding) (file : String) (line : Option Nat) : Diagnostic :=
  ⟨file, line, f.severity, f.message⟩

end Finding

end DocCatalog

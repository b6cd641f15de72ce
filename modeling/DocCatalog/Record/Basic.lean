/-!
# Records

What the three kinds of records have in common.

* `RecordKind`: components, commands and patterns.
* `Provenance`: where a record was declared. It is no part of what the record says.
* `Catalogued`: the view of a record that merging and generation have.
-/

namespace DocCatalog

inductive RecordKind where
  | component
  | command
  | pattern
  deriving DecidableEq, Repr

/-- The word for one record of the kind. -/
def RecordKind.noun : RecordKind → String
  | .component => "component"
  | .command => "command"
  | .pattern => "pattern"

/-- The word for all records of the kind. -/
def RecordKind.slug : RecordKind → String
  | .component => "components"
  | .command => "commands"
  | .pattern => "patterns"

/-- All kinds, in the order in which they are synchronized. -/
def RecordKind.all : List RecordKind := [.component, .command, .pattern]

/-- The file and line of a declaration. -/
structure Provenance where
  /-- Relative to the root of the project, with slashes. -/
  file : String
  line : Nat
  deriving DecidableEq, Repr

def Provenance.text (p : Provenance) : String := p.file ++ ":" ++ toString p.line

/-- What merging and generation see of a record. -/
class Catalogued (ρ : Type) where
  kind : RecordKind
  name : ρ → String
  /-- The key in the generated table. -/
  key : ρ → String
  description : ρ → String
  example? : ρ → Option String
  provenance : ρ → Provenance
  /-- The required field that is empty, if one is. -/
  missing? : ρ → Option String

end DocCatalog

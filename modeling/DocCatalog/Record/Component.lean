import DocCatalog.Record.Basic
import DocCatalog.Text.Blank
/-!
# Components

A component of the user interface with its inputs and outputs.
-/

namespace DocCatalog

structure ComponentInput where
  name : String
  typeText : String
  default? : Option String
  description : String
  isRequired : Bool
  deriving DecidableEq, Repr

structure ComponentOutput where
  name : String
  typeText : String
  description : String
  deriving DecidableEq, Repr

structure ComponentRecord where
  name : String
  selector : String
  category : String
  description : String
  inputs : List ComponentInput
  outputs : List ComponentOutput
  usage : Option String
  bestPractices : List String
  related : List String
  provenance : Provenance
  deriving DecidableEq, Repr

/-- A component is its own key and needs a selector. -/
instance : Catalogued ComponentRecord where
  kind := .component
  name r := r.name
  key r := r.name
  description r := r.description
  example? r := r.usage
  provenance r := r.provenance
  missing? r := if Text.isAllBlank r.selector.toList then some "selector" else none

end DocCatalog

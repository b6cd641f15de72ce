import DocCatalog.Record.Basic
import DocCatalog.Text.Blank
/-!
# Patterns

A piece of code to be used again.
-/

namespace DocCatalog

structure PatternRecord where
  name : String
  title : String
  category : String
  language : String
  description : String
  code : String
  notes : List String
  related : List String
  provenance : Provenance
  deriving DecidableEq, Repr

/-- A pattern is its own key and needs code. -/
instance : Catalogued PatternRecord where
  kind := .pattern
  name r := r.name
  key r := r.name
  description r := r.description
  example? r := if r.code.isEmpty then none else some r.code
  provenance r := r.provenance
  missing? r := if Text.isAllBlank r.code.toList then some "code" else none

end DocCatalog

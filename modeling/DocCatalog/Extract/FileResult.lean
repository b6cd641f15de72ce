import DocCatalog.Record.Diagnostic
/-!
# What one file gives

* `FileResult`: the records built from a file and the problems met on the way.
-/

namespace DocCatalog.Extract

/-- The outcome for one file. It failed if nothing could be built from it. -/
structure FileResult (ρ : Type) where
  records : List ρ
  diagnostics : List Diagnostic
  succeeded : Bool
  deriving Repr

/-- The outcome for a file of which nothing could be read. -/
def FileResult.failed {ρ : Type} (d : Diagnostic) : FileResult ρ := ⟨[], [d], false⟩

end DocCatalog.Extract

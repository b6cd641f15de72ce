import DocCatalog.Record.Basic
import DocCatalog.Emit.Identifier
/-!
# Generated modules

A module has a header, the interfaces of its records, declarations of its own, a table with an entry
for each record, and functions on the table.

* `Generator`: what is particular to one kind of record.
* `Exclusion`: why a record has no entry.
* `classify`: the decision on every record, in the order of names.
* `generate`: the module, with a warning for each record that has no entry.
-/

namespace DocCatalog.Emit

structure Generator (ρ : Type) where
  /-- The name of the generator in the header. -/
  label : String
  /-- What the records were extracted from. -/
  sources : List String
  /-- The name of the exported table. -/
  exportName : String
  /-- The interface of an entry. -/
  infoType : String
  /-- Interfaces and declarations in front of the table. -/
  preamble : List ρ → String
  /-- The fields of an entry. -/
  fields : ρ → String
  /-- The functions behind the table. -/
  helpers : String

structure GeneratedModule where
  code : String
  warnings : List String
  recordCount : Nat
  deriving DecidableEq, Repr

/-! ## Which records are kept

The keys of a table are different identifiers. A record that is left out takes no key from those
behind it. -/

/-- Why a record is left out. -/
inductive Exclusion where
  | invalidKey
  | emptyField (field : String)
  | duplicateKey
  deriving DecidableEq, Repr

variable {ρ : Type} [Catalogued ρ]

/-- Names are in the order of their code points, and so are the keys of equal names. -/
def precedes (a b : ρ) : Bool :=
  ((compare (Catalogued.name a) (Catalogued.name b)).then
    (compare (Catalogued.key a) (Catalogued.key b))).isLE

/-- The records in the order of their names. -/
def sorted (records : List ρ) : List ρ := records.mergeSort precedes

/-- Why a record is left out, when the given keys are taken. -/
def exclusion? (taken : List String) (r : ρ) : Option Exclusion :=
  if !isIdentifier (Catalogued.key r) then some .invalidKey
  else
    match Catalogued.missing? r with
    | some field => some (.emptyField field)
    | none => if taken.contains (Catalogued.key r) then some .duplicateKey else none

/-- The decision on each record in turn. A kept record takes its key. -/
def classify (taken : List String) : List ρ → List (ρ × Option Exclusion)
  | [] => []
  | r :: rs =>
    match exclusion? taken r with
    | some e => (r, some e) :: classify taken rs
    | none => (r, none) :: classify (Catalogued.key r :: taken) rs

/-- The records that get an entry, in order. -/
def keptOf (decisions : List (ρ × Option Exclusion)) : List ρ :=
  decisions.filterMap fun (r, e) => if e.isNone then some r else none

def Exclusion.reason (key : String) : Exclusion → String
  | .invalidKey => "`" ++ key ++ "` is not a valid identifier"
  | .emptyField field => "required field `" ++ field ++ "` is empty"
  | .duplicateKey => "duplicate key `" ++ key ++ "`"

def exclusionMessage (r : ρ) (e : Exclusion) : String :=
  "excluded " ++ (Catalogued.kind ρ).noun ++ " `" ++ Catalogued.name r ++ "` ("
    ++ (Catalogued.provenance r).text ++ "): " ++ e.reason (Catalogued.key r)

/-- A warning for each record that is left out, in order. -/
def warningsOf (decisions : List (ρ × Option Exclusion)) : List String :=
  decisions.filterMap fun (r, e) => e.map (exclusionMessage r)

/-! ## The module -/

def header (g : Generator ρ) : String :=
  "// Generated by mcp-sync (" ++ g.label ++ " generator). Do not edit by hand.\n"
    ++ "//\n// Sources:\n" ++ String.join (g.sources.map fun s => "//   " ++ s ++ "\n")
    ++ "//\n// Regenerate with: mcp-sync\n\n"

def entry (g : Generator ρ) (r : ρ) : String :=
  "  " ++ Catalogued.key r ++ ": \x7b\n" ++ g.fields r ++ "  \x7d,\n"

def table (g : Generator ρ) (kept : List ρ) : String :=
  "export const " ++ g.exportName ++ ": Record<string, " ++ g.infoType ++ "> = \x7b\n"
    ++ String.join (kept.map (entry g)) ++ "\x7d;\n"

def moduleCode (g : Generator ρ) (kept : List ρ) : String :=
  header g ++ g.preamble kept ++ table g kept ++ g.helpers

/-- The module of the records. -/
def generate (g : Generator ρ) (records : List ρ) : GeneratedModule :=
  let decisions := classify [] (sorted records)
  let kept := keptOf decisions
  ⟨moduleCode g kept, warningsOf decisions, kept.length⟩

end DocCatalog.Emit

import DocCatalog.Config.Basic
import DocCatalog.Config.Problem
import DocCatalog.Toml.Document
/-!
# Reading a settings file

A settings file lists what differs from the standard configuration. Fields are read in the order of
their names, and the first problem is reported.

* `Section`: what a section says about one kind of records.
* `Config.ofText`: the configuration that a settings file describes.
-/

namespace DocCatalog.Config

/-! ## Values

A value of another type than the field has is a problem that names both. -/

def path (v : Toml.Value) : Except Problem String :=
  match v with
  | .string s => .ok s
  | v => .error (.ofValue v .path)

def text (v : Toml.Value) : Except Problem String :=
  match v with
  | .string s => .ok s
  | v => .error (.ofValue v .text)

def truth (v : Toml.Value) : Except Problem Bool :=
  match v with
  | .boolean b => .ok b
  | v => .error (.ofValue v .truth)

def texts (v : Toml.Value) : Except Problem (List String) :=
  match v with
  | .array items | .tables items => items.mapM text
  | v => .error (.ofValue v .list)

/-- The fields in the order of their names. -/
def inOrder (fields : Toml.Fields) : Toml.Fields :=
  fields.mergeSort fun a b => (compare a.1 b.1).isLE

/-! ## Sections

A section is a table as a rule, but the list of its fields in turn is read as well. -/

/-- What a section says. A field that is not given is none. -/
structure Section where
  patterns : Option (List String) := none
  output : Option String := none
  categoryRoot : Option String := none
  requireMatches : Option Bool := none
  reference : Option String := none
  deriving DecidableEq, Repr

inductive SectionField where
  | patterns
  | output
  | categoryRoot
  | requireMatches
  | reference
  deriving DecidableEq, Repr

namespace SectionField

def name : SectionField → String
  | .patterns => "patterns"
  | .output => "output"
  | .categoryRoot => "category_root"
  | .requireMatches => "require_matches"
  | .reference => "reference"

def all : List SectionField := [.patterns, .output, .categoryRoot, .requireMatches, .reference]

end SectionField

namespace Section

/-- The section with one field read from a value. -/
def read (s : Section) (f : SectionField) (v : Toml.Value) : Except Problem Section :=
  match f with
  | .patterns => (texts v).map fun x => { s with patterns := some x }
  | .output => (text v).map fun x => { s with output := some x }
  | .categoryRoot => (text v).map fun x => { s with categoryRoot := some x }
  | .requireMatches => (truth v).map fun x => { s with requireMatches := some x }
  | .reference => (text v).map fun x => { s with reference := some x }

def readNamed (s : Section) (name : String) (v : Toml.Value) : Except Problem Section :=
  match SectionField.all.find? (·.name == name) with
  | some f => s.read f v
  | none => .error (.unknownField name (SectionField.all.map (·.name)))

/-- A section that is written as a list gives all fields in their order. Further items are not read. -/
def readInTurn (s : Section) : List SectionField → List Toml.Value → Except Problem Section
  | [], _ => .ok s
  | _ :: _, [] => .error .missingItem
  | f :: fs, v :: vs => do (← s.read f v).readInTurn fs vs

/-- The name of the only field of a moment that is taken for a table. -/
def momentField : String := "$__toml_private_datetime"

def ofValue (v : Toml.Value) : Except Problem Section :=
  match v with
  | .table _ fields => (inOrder fields).foldlM (fun s (k, v) => s.readNamed k v) {}
  | .array items | .tables items => readInTurn {} SectionField.all items
  | .moment text => readNamed {} momentField (.string text)
  | v => .error (.ofValue v .sectionFields)

/-- A configuration with what the section says. An empty reference turns the reference off. -/
def applyTo (s : Section) (c : SourceConfig) : SourceConfig where
  patterns := s.patterns.getD c.patterns
  output := s.output.getD c.output
  categoryRoot := s.categoryRoot <|> c.categoryRoot
  requireMatches := s.requireMatches.getD c.requireMatches
  reference :=
    match s.reference with
    | none => c.reference
    | some r => if r.isEmpty then none else some r

end Section

/-! ## The whole file

An unknown field is a problem like a wrong value, so that a setting that is spelled wrongly is not
passed over. -/

def fieldNames : List String := ["output_dir", "components", "commands", "patterns"]

/-- The configuration with one field read from a value. -/
def readNamed (c : Config) (name : String) (v : Toml.Value) : Except Problem Config :=
  match name with
  | "output_dir" => (path v).map fun x => { c with outputDir := x }
  | "components" =>
    (Section.ofValue v).map fun s => { c with components := s.applyTo c.components }
  | "commands" => (Section.ofValue v).map fun s => { c with commands := s.applyTo c.commands }
  | "patterns" => (Section.ofValue v).map fun s => { c with patterns := s.applyTo c.patterns }
  | _ => .error (.unknownField name fieldNames)

/-- The standard configuration with what a settings file says. -/
def ofText (text : String) : Except Problem Config :=
  match Toml.parse text with
  | none => .error .malformed
  | some fields => (inOrder fields).foldlM (fun c (k, v) => c.readNamed k v) standard

end DocCatalog.Config

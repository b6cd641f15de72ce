import DocCatalog.Record.Command
import DocCatalog.Text.Split
/-!
# Package tiers

The packages that a quick reference lists in the table of its section on package scripts.

* `Tier`: the three tiers, each with what is known of it without a reference.
* `tierOf?`: the tier of a table row.
* `listedPackages?`: the tiers that a reference lists, each with the first row of its own.
* `packages`: all tiers, listed or not.
-/

namespace DocCatalog.Reference

inductive Tier where
  | standard
  | enterprise
  | full
  deriving DecidableEq, Repr

namespace Tier

/-- All tiers, in the order in which they are listed. -/
def all : List Tier := [.standard, .enterprise, .full]

def name : Tier → String
  | .standard => "standard"
  | .enterprise => "enterprise"
  | .full => "full"

/-- The script that runs a tier. -/
def script : Tier → String
  | .standard => "pnpm run crud -- TABLE"
  | .enterprise => "pnpm run crud:import -- TABLE"
  | .full => "pnpm run crud:full -- TABLE"

/-- The description of a tier that is not listed. -/
def description : Tier → String
  | .standard => "Standard CRUD package"
  | .enterprise => "Enterprise CRUD package"
  | .full => "Full CRUD package"

def features : Tier → List String
  | .standard =>
    ["Basic CRUD operations (Create, Read, Update, Delete)", "List with pagination",
     "Search and filtering", "Soft delete support"]
  | .enterprise =>
    ["Basic CRUD operations", "Bulk import (Excel/CSV)", "Dropdown API", "Export functionality"]
  | .full =>
    ["Basic CRUD operations", "Bulk operations (import/export)", "Advanced validation",
     "Uniqueness checks", "Complex search filters", "Real-time events (optional)"]

def useCases : Tier → List String
  | .standard => ["Simple data management", "Prototype development", "Non-critical features"]
  | .enterprise =>
    ["Data migration scenarios", "Bulk data management", "Standard business features"]
  | .full =>
    ["Mission-critical enterprise features", "Complex business logic",
     "Data integrity requirements"]

end Tier

/-- A row of the table: a script, what it adds, and a description. -/
structure Row where
  script : List Char
  adds : List Char
  description : List Char

/-- The tier that a row describes. Events are a flag on top of a tier, not a tier. -/
def tierOf? (row : Row) : Option Tier :=
  let has (cell : List Char) (part : String) : Bool := Text.contains part.toList cell
  if has row.script "crud:full" || has row.adds "--package full" then some .full
  else if has row.script "crud:import" || has row.adds "--with-import" then some .enterprise
  else if has row.script "crud:events" || has row.adds "--with-events" then none
  else if row.script == Tier.standard.script.toList then some .standard
  else none

/-! ## The section

Only the first section with the heading counts, up to the next heading of any depth. -/

/-- Whether a line without outer blanks is the heading of the section. -/
def isPackageHeading (line : List Char) : Bool :=
  match line with
  | '#' :: '#' :: c :: r => Text.isBlank c && "Package Scripts".toList.isSuffixOf r
  | _ => false

/-- Whether a line begins a section of any depth. -/
def isHeading (line : List Char) : Bool := ['#', '#'].isPrefixOf (Text.trimStart line)

/-- The lines between the heading of the section and the next heading, if there is the section. -/
def sectionLines? (lines : List (List Char)) : Option (List (List Char)) :=
  match lines.dropWhile fun l => !isPackageHeading (Text.trim l) with
  | [] => none
  | _ :: rest => some (rest.takeWhile (!isHeading ·))

/-- Whether a line without outer blanks is a row of a table, and no rule between rows. -/
def isRow (line : List Char) : Bool :=
  line.head? == some '|' && !Text.contains ['-', '-', '-'] line

/-- The cells of a row. -/
def cellsOf (line : List Char) : List (List Char) :=
  let isBar (c : Char) : Bool := c == '|'
  let inner := ((line.dropWhile isBar).reverse.dropWhile isBar).reverse
  (Text.splitWhere isBar inner).map Text.trim

def dropBackticks (cell : List Char) : List Char := cell.filter (· != '\x60')

/-- The row that a line holds, if it has enough cells. -/
def rowOf? (line : List Char) : Option Row :=
  match cellsOf line with
  | script :: adds :: description :: _ =>
    some ⟨dropBackticks script, dropBackticks adds, description⟩
  | _ => none

/-- The rows of the table below its head. -/
def bodyRows (lines : List (List Char)) : List Row :=
  (((lines.map Text.trim).filter isRow).drop 1).filterMap rowOf?

/-! ## Packages

A tier without a row keeps what is known of it without a reference. -/

def package (tier : Tier) (description command : String) : PackageInfo :=
  ⟨tier.name, description, tier.features, tier.useCases, command⟩

/-- The first row of a tier. -/
def rowFor? (rows : List Row) (tier : Tier) : Option Row :=
  rows.find? fun row => tierOf? row == some tier

/-- The package of a tier, described by its row if it has one. -/
def packageOf (rows : List Row) (tier : Tier) : PackageInfo :=
  match rowFor? rows tier with
  | some row => package tier (String.ofList row.description) (String.ofList row.script)
  | none => package tier tier.description tier.script

end DocCatalog.Reference

import DocCatalog.Reference.Packages
import DocCatalog.Reference.Notes
import DocCatalog.Text.Mention
/-!
# The quick reference

A document on the command line. It supplies the package tiers, and examples and notes for commands
that have none of their own.

* `QuickReference.parse`: what a text says.
* `QuickReference.enrich`: fills in commands.
-/

namespace DocCatalog.Reference

structure QuickReference where
  /-- The body rows of the table of packages, if there is that section. -/
  rows : Option (List Row)
  codeLines : List String
  notes : List String

namespace QuickReference

/-- The reference that says nothing. -/
def empty : QuickReference := ⟨none, [], []⟩

def parse (text : String) : QuickReference :=
  let lines := Text.lines text.toList
  { rows := (sectionLines? lines).map bodyRows
    codeLines := (codeLinesFrom false lines).map String.ofList
    notes := (notesFrom none none lines).map String.ofList }

def hasPackageSection (q : QuickReference) : Bool := q.rows.isSome

/-- Every tier, listed or not. -/
def packages (q : QuickReference) : List PackageInfo :=
  Tier.all.map (packageOf (q.rows.getD []))

/-- The texts that mention the name as a whole word. A name of any length is looked for: that a matcher
may refuse a name for its size, so that no text would mention it, is left out. -/
def mentioning (texts : List String) (name : String) : List String :=
  texts.filter fun t => Text.mentions name.toList t.toList

/-- The lines of code that mention the name. -/
def examplesFor (q : QuickReference) (name : String) : List String := mentioning q.codeLines name

def notesFor (q : QuickReference) (name : String) : List String := mentioning q.notes name

/-- Fills in the examples and notes of a command that has none. -/
def enrichCommand (q : QuickReference) (c : CommandRecord) : CommandRecord :=
  { c with
    examples := if c.examples.isEmpty then q.examplesFor c.name else c.examples
    notes := if c.notes.isEmpty then q.notesFor c.name else c.notes }

def enrich (q : QuickReference) (cs : List CommandRecord) : List CommandRecord :=
  cs.map q.enrichCommand

end QuickReference

end DocCatalog.Reference

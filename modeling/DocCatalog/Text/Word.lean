import DocCatalog.Text.WordTable
import DocCatalog.Text.Blank
/-!
# Word characters

* `isWordChar`: letters, marks, decimal digits, connectors and joiners, in all of Unicode.
* `isBoundary`: a place between two characters of which exactly one is a word character.
-/

namespace DocCatalog.Text

/-- Whether a range of the table holds the code point. -/
def inRanges (table : Array (Nat × Nat)) (n : Nat) : Bool :=
  table.any fun (first, last) => first ≤ n && n ≤ last

/-- ASCII letters, digits and the underscore are looked up without the table. -/
def isWordChar (c : Char) : Bool :=
  if c.toNat < 128 then c.isAlphanum || c == '_' else inRanges wordRanges c.toNat

/-- Whether there is a word character at the end of the text. `none` stands for no text. -/
def isWord? (c : Option Char) : Bool := (c.map isWordChar).getD false

/-- Whether a word begins or ends between two neighbours. The ends of a text count as no word. -/
def isBoundary (before after : Option Char) : Bool := isWord? before != isWord? after

end DocCatalog.Text

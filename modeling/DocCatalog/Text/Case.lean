import DocCatalog.Text.CaseTable
/-!
# Letter case

* `isUppercase`: uppercase letters.
* `uppercase`: the full uppercase form of a character, which may be several characters.
* `foldCase`: what two characters share if they differ in nothing but case.
-/

namespace DocCatalog.Text

/-- The image of a code point under the row that holds it. -/
def lookUp (table : Array (Nat × Nat × Nat × Nat)) (n : Nat) : Option Nat :=
  (table.find? fun (first, last, step, _) =>
      first ≤ n && n ≤ last && (n - first) % step == 0).map
    fun (first, _, _, image) => image + (n - first)

def isUppercase (c : Char) : Bool :=
  if c.toNat < 128 then c.isUpper
  else uppercaseRows.any fun (first, last, step) =>
    first ≤ c.toNat && c.toNat ≤ last && (c.toNat - first) % step == 0

def uppercase (c : Char) : List Char :=
  if c.toNat < 128 then [c.toUpper]
  else
    match longUppercaseForms.find? (·.1 == c.toNat) with
    | some (_, form) => form.map Char.ofNat
    | none => [((lookUp uppercaseForms c.toNat).map Char.ofNat).getD c]

/-- The simple case folding of a character. -/
def foldCase (c : Char) : Char :=
  if c.toNat < 128 then c.toLower
  else ((lookUp caseFoldings c.toNat).map Char.ofNat).getD c

end DocCatalog.Text

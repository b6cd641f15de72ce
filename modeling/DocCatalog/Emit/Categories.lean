/-!
# Lists of categories
-/

namespace DocCatalog.Emit

/-- Adds a name to names in ascending order, unless it is one of them. -/
def insertName (name : String) : List String → List String
  | [] => [name]
  | n :: ns =>
    if name < n then name :: n :: ns
    else if name == n then n :: ns
    else n :: insertName name ns

/-- The names in the order of their code points, each once. -/
def sortedNames (names : List String) : List String := names.foldr insertName []

end DocCatalog.Emit

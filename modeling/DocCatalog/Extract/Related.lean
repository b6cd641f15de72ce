import DocCatalog.Doc.Comment
/-!
# Tags that all extractors read

* `relatedNames`: what a comment refers to, without repetition.
* `filled?`: a value that is not blank.
-/

namespace DocCatalog.Extract

open Doc (Tag)

/-- The names in the value of a tag, between commas and line feeds. -/
def listedNames (value : String) : List String :=
  (((Text.splitWhere (fun c => c == ',' || c == '\n') value.toList).map Text.trim).filter
    (!·.isEmpty)).map String.ofList

/-- The elements in order of their first occurrence. -/
def distinct {α : Type} [BEq α] (xs : List α) : List α :=
  xs.foldl (fun kept x => if kept.contains x then kept else kept ++ [x]) []

/-- The names under `@related`, then those under `@see`, each once. -/
def relatedNames (tags : List Tag) : List String :=
  distinct ((Tag.all tags "related" ++ Tag.all tags "see").flatMap listedNames)

/-- The value without outer blanks, if anything is left. -/
def filled? (value : Option String) : Option String :=
  (value.map String.trimBlanks).filter (!·.isEmpty)

end DocCatalog.Extract

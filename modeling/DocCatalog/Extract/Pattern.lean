import DocCatalog.Outline.Basic
import DocCatalog.Extract.Related
import DocCatalog.Extract.FileResult
import DocCatalog.Record.Pattern
import DocCatalog.Text.Case
/-!
# Extracting patterns

A pattern is a constant tagged `@pattern`, or an exported constant whose name ends in `Pattern`.

* `codeOf`: the code of a pattern, from its first example or from its value.
* `titleOf`: a title made from the name.
-/

namespace DocCatalog.Extract.Pattern

open Script (Value)
open Doc (DocComment Tag)

/-- The ending that marks patterns. -/
def nameEnding : List Char := "Pattern".toList

/-- The text of a string value, or of the property `code` of an object. -/
def valueText? (v : Value) : Option String :=
  match v with
  | .object _ => (v.property? "code").bind Value.asString?
  | _ => v.asString?

/-- The code in the value of a constant, unless that is blank. -/
def valueCode? (d : Declaration) : Option String := do
  let text ← d.value.bind valueText?
  let code := Text.dedent (Text.lines text.toList)
  if code.isEmpty then none else return String.ofList code

def codeOf (doc : DocComment) (d : Declaration) : String :=
  (doc.examples.head? <|> valueCode? d).getD ""

/-- The words of a name in camel case or with underscores, the first one with a capital letter. -/
def titleOf (name : String) : String :=
  match Text.dropEnd nameEnding name.toList with
  | [] => ""
  | c :: r => String.ofList (Text.uppercase c ++ r.flatMap fun c =>
      if Text.isUppercase c then [' ', c] else if c == '_' then [' '] else [c])

/-- Whether a declaration is a pattern. -/
def isPattern (tags : List Tag) (d : Declaration) : Bool :=
  d.kind == .const &&
    (Tag.contains tags "pattern" || (d.isExported && nameEnding.isSuffixOf d.name.toList))

def recordOf? (path : String) (d : Declaration) : Option PatternRecord :=
  let doc := DocComment.ofNode d.comment
  let tags := doc.tags
  if !isPattern tags d then none
  else some {
    name := d.name
    title := (filled? (Tag.last? tags "pattern")).getD (titleOf d.name)
    category := (filled? (Tag.last? tags "category")).getD "general"
    language := (filled? (Tag.last? tags "language")).getD "typescript"
    description := doc.descriptionText
    code := codeOf doc d
    notes := Tag.all tags "note"
    related := relatedNames tags
    provenance := ⟨path, d.line⟩ }

/-- A warning for a record whose declaration has no documentation comment. -/
def warning? (path : String) (d : Declaration) : Option Diagnostic :=
  if (DocComment.ofNode d.comment).isDoc then none
  else some ((Finding.undocumented .pattern d.name).place path (some d.line))

/-- The patterns of a file. -/
def ofFile (o : Outline) (path : String) : FileResult PatternRecord :=
  let found := o.declarations.filter fun d => (recordOf? path d).isSome
  ⟨found.filterMap (recordOf? path), found.filterMap (warning? path), true⟩

end DocCatalog.Extract.Pattern

import DocCatalog.Doc.Link
import DocCatalog.Doc.Param
import DocCatalog.Text.Indent
/-!
# Documentation comments

The structure of a comment: the lines before the first tag describe the node, and every tag has its
own lines up to the next one. Lines inside of a fence of three backticks begin no tag.

* `bodyLines`: the lines of a comment without its delimiters and without leading stars.
* `tagLine?`: the name of the tag that a line begins, and the text behind it.
* `DocComment.parse`: the whole structure.
* `DocComment.description`, `tags`, `examples`, `params`: what it says.
-/

namespace DocCatalog.Doc

/-- A line of text, without what ends it. -/
abbrev Line := List Char

/-- A tag with its value. -/
structure Tag where
  name : String
  value : String
  deriving DecidableEq, Repr

/-- A tag with its lines: what follows the name, and the lines below. -/
structure TagBlock where
  name : Line
  lines : List Line
  deriving DecidableEq, Repr

structure DocComment where
  raw : List Char
  description : List Line
  blocks : List TagBlock
  deriving DecidableEq, Repr

/-! ## Lines

Delimiters and stars are taken off before anything else is read. -/

/-- A line without the star in front of it and the space behind that. -/
def stripStar (line : Line) : Line :=
  match Text.trimStart line with
  | '*' :: rest => Text.dropStart [' '] rest
  | _ => line

/-- The lines of a comment without its delimiters and leading stars. A line comment has one. -/
def bodyLines (raw : List Char) : List Line :=
  let raw := Text.trim raw
  match Text.afterStart? ['/', '/'] raw with
  | some rest => [Text.dropStart [' '] (rest.dropWhile (· == '/'))]
  | none =>
    let inner := Text.dropStart ['*'] (Text.dropStart ['/', '*'] raw)
    (Text.lines (Text.dropEnd ['*', '/'] inner)).map stripStar

/-- Whether a line without outer blanks opens or closes a fence. -/
def isFence (line : Line) : Bool := ['\x60', '\x60', '\x60'].isPrefixOf line

/-- The characters of a tag's name behind its first letter. -/
def isTagChar (c : Char) : Bool := Text.isWordChar c || c == '-'

/-- The name of the tag that a line without outer blanks begins, and the text behind it. -/
def tagLine? (line : Line) : Option (Line × Line) :=
  match line with
  | '@' :: r =>
    let name := r.takeWhile isTagChar
    let rest := r.drop name.length
    let value := Text.trimStart rest
    if !(name.head?.map Char.isAlpha).getD false then none
    else if rest.isEmpty then some (name, [])
    else if value.length < rest.length && !value.contains '\n' then some (name, value)
    else none
  | _ => none

/-! ## Structure

A comment is divided once, and all that it says is read off the parts. -/

/-- The structure of the lines. `fenced` holds inside of a fence. The first component are the lines
before the first tag. -/
def structureOf (fenced : Bool) : List Line → List Line × List TagBlock
  | [] => ([], [])
  | line :: rest =>
    let trimmed := Text.trim line
    if isFence trimmed then
      let (own, blocks) := structureOf (!fenced) rest
      (line :: own, blocks)
    else
      match if fenced then none else tagLine? trimmed with
      | some (name, value) =>
        let (own, blocks) := structureOf fenced rest
        ([], ⟨name, value :: own⟩ :: blocks)
      | none =>
        let (own, blocks) := structureOf fenced rest
        (line :: own, blocks)

namespace DocComment

/-- The comment of a node that has none. -/
def empty : DocComment := ⟨[], [], []⟩

def parse (raw : String) : DocComment :=
  let (description, blocks) := structureOf false (bodyLines raw.toList)
  ⟨raw.toList, description, blocks⟩

/-- The comment of a node, empty if there is none. -/
def ofNode (comment : Option String) : DocComment := parse (comment.getD "")

/-- Whether the comment is meant for documentation: it opens with two stars. -/
def isDoc (d : DocComment) : Bool :=
  "/**".toList.isPrefixOf d.raw && !"/**/".toList.isPrefixOf d.raw

/-- The lines before the first tag as one line, without blank lines and fences. -/
def descriptionText (d : DocComment) : String :=
  let lines := (d.description.map Text.trim).filter fun l => !l.isEmpty && !isFence l
  String.ofList (Text.trim (flattenLinks (Text.join [' '] lines)))

/-- The value of a tag with the given lines. -/
def tagValue (lines : List Line) : List Char :=
  Text.trim (flattenLinks (Text.trim (Text.join ['\n'] (lines.map Text.trim))))

/-- The tags in order. -/
def tags (d : DocComment) : List Tag :=
  d.blocks.map fun b => ⟨String.ofList b.name, String.ofList (tagValue b.lines)⟩

/-- The text of an example: what stands behind the tag, then the lines below without fences and
indentation. Nothing if both are blank. -/
def exampleText (lines : List Line) : Option String :=
  let caption := Text.trim (lines.head?.getD [])
  let body := ((lines.drop 1).map Text.trimEnd).filter fun l => !isFence (Text.trimStart l)
  let code := Text.dedent body
  match caption.isEmpty, code.isEmpty with
  | true, true => none
  | true, false => some (String.ofList code)
  | false, true => some (String.ofList caption)
  | false, false => some (String.ofList (caption ++ '\n' :: code))

/-- The lines of the tags of the given name. -/
def blocksNamed (d : DocComment) (name : String) : List (List Line) :=
  (d.blocks.filter fun b => b.name == name.toList).map (·.lines)

/-- The examples in order. -/
def examples (d : DocComment) : List String := (d.blocksNamed "example").filterMap exampleText

/-- The values of the `@param` tags. -/
def paramValues (d : DocComment) : List (List Char) := (d.blocksNamed "param").map tagValue

/-- The parameters in order. -/
def params (d : DocComment) : List Param := d.paramValues.filterMap Param.parse?

/-- The values of `@param` tags that have another form. -/
def unmatchedParams (d : DocComment) : List String :=
  (d.paramValues.filter fun v => (Param.parse? v).isNone).map String.ofList

end DocComment

/-! ## Tags -/

namespace Tag

/-- The value of the last tag of the given name. -/
def last? (tags : List Tag) (name : String) : Option String :=
  (tags.reverse.find? (·.name == name)).map (·.value)

/-- The values of all tags of the given name. -/
def all (tags : List Tag) (name : String) : List String :=
  (tags.filter (·.name == name)).map (·.value)

def contains (tags : List Tag) (name : String) : Bool := tags.any (·.name == name)

end Tag

/-- What the comment says a call gives back. -/
def DocComment.returns (d : DocComment) : String :=
  ((Tag.last? d.tags "returns" <|> Tag.last? d.tags "return").getD "").trimBlanks

end DocCatalog.Doc

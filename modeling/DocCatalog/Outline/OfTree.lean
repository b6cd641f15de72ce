import DocCatalog.Outline.Members
import DocCatalog.Outline.Chains
import DocCatalog.Script.Parse
/-!
# The outline of a file

* `Outline.ofTree`: the declarations at the top level of a tree, and its call chains.
* `Outline.ofText`: the outline of a source text, or the line at which it cannot be read.
-/

namespace DocCatalog.Outline

open Script

/-- The kind of declaration that a node is, if it is one with a name of its own. -/
def declarationKind? : Kind → Option DeclarationKind
  | .classDeclaration | .abstractClassDeclaration => some .classLike
  | .functionDeclaration | .generatorDeclaration | .functionSignature => some .function
  | .interfaceDeclaration => some .interface
  | .typeAlias => some .typeAlias
  | .enumDeclaration => some .enum
  | _ => none

/-- The variables that a declaration declares. Patterns declare none, as they have no single
name. -/
def variablesOf (n : Node) (isExported : Bool) (comment : Option String) : List Declaration :=
  let kind : DeclarationKind :=
    if "const".toList.isPrefixOf (Text.trimStart n.text.toList) then .const else .variable
  (n.children.filter (·.kind == .variableDeclarator)).filterMap fun d =>
    match d.child? .name with
    | some name =>
      if name.kind == .identifier then
        some
          { kind := kind
            name := name.text
            line := name.line
            isExported := isExported
            comment := comment
            decorators := []
            members := []
            value := valueOf d }
      else none
    | none => none

/-- The declarations that a statement makes. `decorators` stand outside of it. -/
def declarationsOf (n : Node) (isExported : Bool) (decorators : List Decorator)
    (comment : Option String) : List Declaration :=
  if n.kind == .lexicalDeclaration || n.kind == .variableDeclaration then
    variablesOf n isExported comment
  else
    match declarationKind? n.kind, n.child? .name with
    | some kind, some name =>
      [{ kind := kind
         name := name.text
         line := name.line
         isExported := isExported
         comment := comment
         decorators := if kind == .classLike then decorators ++ decoratorsIn n else decorators
         members := if kind == .classLike then ((n.child? .body).map membersOf).getD [] else []
         value := none }]
    | _, _ => []

/-- The declaration inside of an export. Its comment stands in front of it, or else in front of the
export. -/
def exportedDeclarations (p : Placed) : List Declaration :=
  match (Placed.all p.node.children).find? (·.node.role == .declaration) with
  | none => []
  | some d =>
    declarationsOf d.node true (decoratorsIn p.node)
      (leadingComment d.before <|> leadingComment p.before)

def topLevel (p : Placed) : List Declaration :=
  if !p.node.isNamed then []
  else if p.node.kind == .exportStatement then exportedDeclarations p
  else declarationsOf p.node false [] (leadingComment p.before)

def ofTree (root : Node) : Outline :=
  { declarations := (Placed.all root.children).flatMap topLevel
    chains := chainsIn ⟨root.line, none⟩ root }

/-- The outline of a source text, or the number of the line at which it cannot be read. -/
def ofText (dialect : Dialect) (text : String) : Except Nat Outline :=
  (parse dialect text).map ofTree

end DocCatalog.Outline

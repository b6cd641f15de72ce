import DocCatalog.Outline.Basic
import DocCatalog.Outline.Comments
/-!
# Decorators and class members

* `membersOf`: the fields and methods of a class body in source order. Decorators that stand in the
  body belong to the next field or method, if nothing but comments and decorators lies between.
-/

namespace DocCatalog.Outline

open Script

/-- The name of a decorator and its arguments, if it has any. -/
def decoratorOf (n : Node) : Decorator :=
  match n.namedChildren.find? (·.kind != .comment) with
  | some e =>
    if e.kind == .call then
      let call := Call.ofNode e
      ⟨call.callee, call.arguments⟩
    else ⟨e.text, []⟩
  | none => ⟨String.ofList (n.text.toList.dropWhile (· == '@')), []⟩

/-- The decorators that stand directly inside of a node. -/
def decoratorsIn (n : Node) : List Decorator :=
  (n.children.filter (·.kind == .decorator)).map decoratorOf

/-- The text of a type without the colon in front of it. -/
def annotationText (n : Node) : String :=
  String.ofList (Text.trim (n.text.toList.dropWhile (· == ':')))

def nameText (n : Node) : String := ((n.child? .name).map Node.text).getD ""

/-- The line of the name, or of the node if it has none. -/
def nameLine (n : Node) : Nat := ((n.child? .name).getD n).line

/-- The value in a declaration. -/
def valueOf (n : Node) : Option Value := (n.child? .value).map Value.ofNode

def fieldOf (p : Placed) : Member :=
  let n := p.node
  { kind := .field
    name := nameText n
    line := nameLine n
    comment := leadingComment p.before
    trailingComment := trailingComment n.lastRow p.after
    decorators := decoratorsIn n
    typeText := (n.children.reverse.find? (·.kind == .annotatedType)).map annotationText
    value := valueOf n
    isOptional := n.children.any (·.isToken "?") }

/-- Whether a method is read or written like a field: the last such keyword counts. -/
def methodKind (n : Node) : MemberKind :=
  n.children.foldl (fun kind c =>
    if c.isToken "get" then .getter else if c.isToken "set" then .setter else kind) .method

/-- The type of a setter is the type of its first parameter. -/
def setterType (n : Node) : Option String := do
  let parameters ← n.child? .parameters
  let first ← parameters.namedChildren.head?
  let annotation ← first.children.find? (·.kind == .annotatedType)
  return annotationText annotation

def methodOf (p : Placed) : Member :=
  let n := p.node
  let kind := methodKind n
  { kind := kind
    name := nameText n
    line := nameLine n
    comment := leadingComment p.before
    trailingComment := none
    decorators := []
    typeText :=
      if kind == .setter then setterType n else (n.child? .returnType).map annotationText
    value := none
    isOptional := false }

/-- The members among the nodes of a class body. `pending` holds the decorators that wait for their
member. -/
def membersFrom (pending : List Decorator) : List Placed → List Member
  | [] => []
  | p :: ps =>
    if !p.node.isNamed then membersFrom pending ps
    else
      match p.node.kind with
      | .decorator => membersFrom (pending ++ [decoratorOf p.node]) ps
      | .field =>
        let member := fieldOf p
        { member with decorators := pending ++ member.decorators } :: membersFrom [] ps
      | .method => { methodOf p with decorators := pending } :: membersFrom [] ps
      | .comment => membersFrom pending ps
      | _ => membersFrom [] ps

/-- The fields and methods of a class body. -/
def membersOf (body : Node) : List Member := membersFrom [] (Placed.all body.children)

end DocCatalog.Outline

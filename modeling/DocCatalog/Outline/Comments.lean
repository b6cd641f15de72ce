import DocCatalog.Script.Node
/-!
# Comments and what they belong to

Which comment documents a node, seen from the row of siblings in which the node stands.

* `Placed`: a node with the siblings before it, nearest first, and the siblings after it.
* `leadingComment`: the comment in front of a node.
* `trailingComment`: the comment behind a node, on the row on which it ends.
-/

namespace DocCatalog.Outline

open Script

/-- A node among its siblings. -/
structure Placed where
  /-- The siblings before the node, the nearest first. -/
  before : List Node
  node : Node
  after : List Node

/-- Every node of a row of siblings in its place. -/
def Placed.all (siblings : List Node) : List Placed := go [] siblings
where
  go (before : List Node) : List Node → List Placed
    | [] => []
    | n :: after => ⟨before, n, after⟩ :: go (n :: before) after

/-- Decorators, `export` and `default` stand between a declaration and its comment. -/
def isHeadOfDeclaration (n : Node) : Bool :=
  n.kind == .decorator || n.isToken "export" || n.isToken "default"

/-- A comment on the row on which the sibling before it ends, unless that is a comment itself or an
opening brace. -/
def isTrailing (comment : Node) (before : List Node) : Bool :=
  match before with
  | [] => false
  | n :: _ => n.kind != .comment && !n.isToken "\x7b" && n.lastRow == comment.row

def isBlockComment (n : Node) : Bool := ['/', '*'].isPrefixOf n.text.toList

/-- The comment of the run of comments at the head of `before`: the nearest block comment, or else
the nearest comment. A trailing comment ends the run. -/
def nearestComment (before : List Node) (fallback : Option String) : Option String :=
  match before with
  | [] => fallback
  | c :: rest =>
    if c.kind != .comment || isTrailing c rest then fallback
    else if isBlockComment c then some c.text
    else nearestComment rest (fallback <|> some c.text)

/-- The comment in front of a node. -/
def leadingComment (before : List Node) : Option String :=
  nearestComment (before.dropWhile isHeadOfDeclaration) none

/-- The comment behind a node that ends on `row`, past semicolons and commas. -/
def trailingComment (row : Nat) (after : List Node) : Option String :=
  match after.dropWhile fun n => n.isToken ";" || n.isToken "," with
  | [] => none
  | c :: _ => if c.kind == .comment && c.row == row then some c.text else none

end DocCatalog.Outline

import DocCatalog.Outline.Basic
import DocCatalog.Outline.Comments
/-!
# Call chains

Finds the chains of member calls that statements consist of, at any depth.

* `unwind`: the receiver and the calls of `a.b(x).c(y)`.
* `chainsIn`: the chains under a node, those of a statement before those nested in it.
-/

namespace DocCatalog.Outline

open Script

mutual

/-- The receiver of a chain and its calls in source order. What is no call of a member is a
receiver without calls. -/
def unwind : Node → String × List Call
  | .leaf role kind gap text row last => ((Node.leaf role kind gap text row last).text, [])
  | .branch role kind parts =>
    let whole := Node.branch role kind parts
    if kind != .call then (whole.text, [])
    else
      match unwindCallee parts with
      | none => (whole.text, [])
      | some (receiver, calls, property) =>
        let call := Call.ofNode whole
        (receiver, calls ++ [{ call with callee := property.text, line := property.line }])

/-- The chain in front of the last call, and the member that is called. -/
def unwindCallee : List Node → Option (String × List Call × Node)
  | [] => none
  | c :: cs =>
    if c.role != .callee then unwindCallee cs
    else
      match c with
      | .branch _ .member parts =>
        match unwindObject parts, parts.find? (·.role == .property) with
        | some (receiver, calls), some property => some (receiver, calls, property)
        | _, _ => none
      | _ => none

/-- The chain whose member is called. -/
def unwindObject : List Node → Option (String × List Call)
  | [] => none
  | c :: cs => if c.role == .object then some (unwind c) else unwindObject cs

end

/-- Where a statement begins, and the comment in front of it. -/
structure Anchor where
  line : Nat
  comment : Option String

/-- The chain that an expression is, if it is one. -/
def chainOf (anchor : Anchor) (expression : Node) : List CallChain :=
  if expression.kind != .call then []
  else
    match unwind expression with
    | (receiver, calls) =>
      if receiver.isEmpty || calls.isEmpty then []
      else [⟨anchor.line, anchor.comment, receiver, calls⟩]

/-- The values that a declaration gives to its variables. -/
def declaredValues (n : Node) : List Node :=
  (n.children.filter (·.kind == .variableDeclarator)).filterMap (·.child? .value)

/-- The chains that a statement is made of, without those nested in it. `exporting` is the anchor of
the export around it. -/
def ownChains (anchor : Anchor) (exporting : Option Anchor) (statement : Node) : List CallChain :=
  match statement.kind with
  | .expressionStatement =>
    match statement.namedChildren.find? (·.kind != .comment) with
    | some e => chainOf anchor e
    | none => []
  | .lexicalDeclaration | .variableDeclaration =>
    (declaredValues statement).flatMap (chainOf (exporting.getD anchor))
  | _ => []

mutual

/-- The chains under a node that stands at `anchor`. -/
def chainsIn (anchor : Anchor) : Node → List CallChain
  | .leaf .. => []
  | .branch _ kind children =>
    chainsAmong (if kind == .exportStatement then some anchor else none) [] children

/-- The chains of siblings and of what is nested in them. -/
def chainsAmong (exporting : Option Anchor) (before : List Node) : List Node → List CallChain
  | [] => []
  | n :: after =>
    let anchor : Anchor := ⟨n.line, leadingComment before⟩
    (if n.isNamed then ownChains anchor exporting n ++ chainsIn anchor n else [])
      ++ chainsAmong exporting (n :: before) after

end

end DocCatalog.Outline

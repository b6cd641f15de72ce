/-!
# Script nodes

The tree of a TypeScript source file, with nothing dropped but the blanks, and those kept too: each
leaf holds the blanks in front of it, so `Node.text` gives back the exact source text of a node.

* `Kind`: what a node is. `Kind.token` is punctuation or a keyword, all other kinds have a name.
* `Role`: the part a child plays in its parent (its name, its value, its body).
* `Node`: leaves with their rows, and branches with all their children in source order, comments
  and punctuation included.
-/

namespace DocCatalog.Script

/-- What a node is in the grammar of the language. -/
inductive Kind where
  /-- Punctuation or a keyword, told apart by its text. -/
  | token
  | comment
  | hashBang
  | program
  -- words and literals
  | identifier
  | propertyName
  | privateName
  | shorthandName
  | thisWord
  | superWord
  | importWord
  | trueWord
  | falseWord
  | nullWord
  | number
  | string
  | regex
  | template
  | templateText
  | substitution
  -- expressions
  | array
  | object
  | pair
  | spread
  | computedName
  | parenthesized
  | call
  | construct
  | arguments
  | member
  | subscript
  | optionalChain
  | nonNull
  | asExpression
  | satisfiesExpression
  | unary
  | functionExpression
  | arrowFunction
  | classExpression
  | markup
  /-- Any other expression: binary, conditional, assignment, update, `await`, sequences. -/
  | operation
  -- types
  | annotatedType
  | typeArguments
  | typeParameters
  | type
  | typePredicate
  -- functions and classes
  | parameters
  | parameter
  | pattern
  | decorator
  | heritage
  | classBody
  | method
  | methodSignature
  | field
  | indexSignature
  | staticBlock
  -- statements
  | block
  | exportStatement
  | importStatement
  | lexicalDeclaration
  | variableDeclaration
  | variableDeclarator
  | functionDeclaration
  | generatorDeclaration
  | functionSignature
  | classDeclaration
  | abstractClassDeclaration
  | interfaceDeclaration
  | typeAlias
  | enumDeclaration
  | ambientDeclaration
  | moduleDeclaration
  | expressionStatement
  | emptyStatement
  /-- Any other statement: branches, loops, jumps, labels. -/
  | statement
  /-- A named part of a statement: `else`, `catch`, `case`, import and export lists. -/
  | clause
  deriving DecidableEq, Repr

/-- Punctuation and keywords are the only unnamed nodes. -/
def Kind.isNamed : Kind → Bool
  | .token => false
  | _ => true

/-- The part a child plays in its parent. -/
inductive Role where
  | plain
  | name
  | key
  | value
  | body
  | callee
  | object
  | property
  | operand
  | parameters
  | returnType
  | declaration
  deriving DecidableEq, Repr

/-- A node of the tree. Rows count the line feeds before a position, from 0. -/
inductive Node where
  /-- A lexeme with the blanks in front of it, and the rows on which it begins and ends. -/
  | leaf (role : Role) (kind : Kind) (gap text : String) (row lastRow : Nat)
  | branch (role : Role) (kind : Kind) (children : List Node)
  deriving Repr

namespace Node

instance : Inhabited Node := ⟨.branch .plain .program []⟩

def role : Node → Role
  | .leaf r .. => r
  | .branch r .. => r

def kind : Node → Kind
  | .leaf _ k .. => k
  | .branch _ k _ => k

def children : Node → List Node
  | .leaf .. => []
  | .branch _ _ cs => cs

/-- The same node in another part. -/
def withRole (r : Role) : Node → Node
  | .leaf _ k g t a b => .leaf r k g t a b
  | .branch _ k cs => .branch r k cs

def isNamed (n : Node) : Bool := n.kind.isNamed

/-- The children that are no punctuation and no keywords. -/
def namedChildren (n : Node) : List Node := n.children.filter isNamed

/-- The first child in the given part. -/
def child? (n : Node) (r : Role) : Option Node := n.children.find? (·.role == r)

/-! ## Text

The blanks between the leaves of a node belong to its text, those in front of it do not. -/

mutual

/-- The source text of the node, with the blanks in front of its first leaf. -/
def written : Node → String
  | .leaf _ _ gap text _ _ => gap ++ text
  | .branch _ _ cs => writtenAll cs

/-- The source text of nodes that follow one another. -/
def writtenAll : List Node → String
  | [] => ""
  | c :: cs => c.written ++ writtenAll cs

end

mutual

/-- The source text of the node. -/
def text : Node → String
  | .leaf _ _ _ text _ _ => text
  | .branch _ _ cs => textAll cs

/-- The source text of nodes that follow one another, from the first one's first lexeme on. -/
def textAll : List Node → String
  | [] => ""
  | c :: cs => c.text ++ writtenAll cs

end

/-- Whether the node is the given punctuation or keyword. -/
def isToken (n : Node) (s : String) : Bool := n.kind == .token && n.text == s

/-! ## Rows -/

mutual

/-- The row on which the first leaf begins. -/
def row : Node → Nat
  | .leaf _ _ _ _ row _ => row
  | .branch _ _ cs => firstRow cs

def firstRow : List Node → Nat
  | [] => 0
  | c :: _ => c.row

end

mutual

/-- The row on which the last leaf ends. -/
def lastRow : Node → Nat
  | .leaf _ _ _ _ _ last => last
  | .branch _ _ cs => endRow cs

def endRow : List Node → Nat
  | [] => 0
  | [c] => c.lastRow
  | _ :: c :: cs => endRow (c :: cs)

end

/-- The number of the line on which the node begins, from 1. -/
def line (n : Node) : Nat := n.row + 1

end Node

end DocCatalog.Script

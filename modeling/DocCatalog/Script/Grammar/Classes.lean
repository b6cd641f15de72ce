import DocCatalog.Script.Grammar.Types
/-!
# Functions and classes

Blocks, methods and class bodies.

* A block may end with a line break of its own, so a comment behind the closing brace, on the same
  row, belongs to the block.
* In a class body decorators stand in front of methods as siblings, but inside of fields.
  Signatures, static blocks, index signatures and stray semicolons take no decorators.
-/

namespace DocCatalog.Script.Rule

/-- Statements in braces. -/
def block (g : Grammar) : Rule :=
  node .block
    (tok "\x7b" ++ inBody (untilAt "\x7d" (g .statement)) ++ tok "\x7d" ++ optLineBreak true)

/-- Whether a name follows the current word, so that the word itself is none. A line break that
could end a field makes the word one. -/
def namesNext : Parse Bool := do
  let r ← get
  let next := r.jump r.after r.current.lastRow
  let l := next.current
  let named := l.shape == .word || l.shape == .privateName || l.shape == .string
    || l.shape == .number || l.isAny ["[", "*"]
  return named && (r.closed || (next.lineEnd? false false).isNone)

/-- Modifiers in the given order, at most one of each group, as long as a name still follows. -/
def inOrder : (groups : List (List String)) → Rule
  | [] => nothing
  | group :: groups =>
    when (return (← atAny group) && (← namesNext)) (take .token) ++ inOrder groups

def access : List String := ["public", "private", "protected"]

/-- The words in front of a method. -/
def methodModifiers : Rule :=
  inOrder [access, ["static"], ["override"], ["readonly"], ["async"], ["get", "set"]] ++ optTok "*"

/-- The words in front of a method that is left to subclasses. -/
def abstractModifiers : Rule :=
  inOrder [access] ++ tok "abstract" ++ inOrder [["override"], ["get", "set"]] ++ optTok "*"

/-- The words in front of a field. -/
def fieldModifiers : Rule :=
  inOrder [["declare"], access, ["declare"]] ++ (do
    if (← at? "accessor") && (← namesNext) then take .token
    else inOrder [["static"], ["override"], ["readonly"], ["abstract"], ["readonly"]])

/-- Signature and body of a method, from the question mark on. -/
def methodRest (g : Grammar) : Rule :=
  optTok "?" ++ signature g ++ inRole .body (block g)

/-- A method of an object literal. -/
def objectMethod (g : Grammar) : Rule :=
  node .method (methodModifiers ++ inRole .name (propertyName g) ++ methodRest g)

def staticBlock (g : Grammar) : Rule := node .staticBlock (tok "static" ++ inRole .body (block g))

def indexSignature (g : Grammar) : Rule :=
  node .indexSignature
    (inOrder [["readonly"]] ++ bracketed "[" "]" (word .identifier ++ annotatedType g)
      ++ annotatedType g)

/-- What ends a signature. -/
def signatureEnd : Rule := do
  if ← atAny [";", ","] then take .token else lineBreak false true

/-- A method, or a signature of one where no body follows. -/
def methodMember (g : Grammar) (decorators : List Piece) : Rule := do
  let head ← methodModifiers ++ inRole .name (propertyName g) ++ optTok "?" ++ signature g
  if ← at? "\x7b" then
    let body ← inRole .body (block g)
    let method := Piece.gather .method (head ++ body)
    return decorators ++ method ++ (← either (semicolon true) nothing)
  else if decorators.isEmpty then
    return Piece.gather .methodSignature head ++ (← signatureEnd)
  else fail

/-- A signature that is left to subclasses. -/
def abstractMember (g : Grammar) : Rule :=
  node .methodSignature
      (abstractModifiers ++ inRole .name (propertyName g) ++ optTok "?" ++ signature g)
    ++ signatureEnd

/-- A field with the decorators in front of it. -/
def fieldMember (g : Grammar) (decorators : List Piece) : Rule := do
  let head ← fieldModifiers ++ inRole .name (propertyName g)
    ++ when (atAny ["?", "!"]) (take .token) ++ whenAt ":" (annotatedType g)
  let value ← optInitializer g
  let field := Piece.gather .field (decorators ++ head ++ value)
  return field ++ (← memberEnd !value.isEmpty)
where
  memberEnd (operators : Bool) : Rule := do
    if ← at? "," then take .token else semicolon operators

/-- A member of a class body with what ends it. -/
def classMember (g : Grammar) : Rule := beginning do
  let decorators ← while_ (at? "@") (decorator g)
  if decorators.isEmpty && (← at? ";") then take .token
  else if decorators.isEmpty && (← at? "static") && (← thenAny ["\x7b"]) then staticBlock g
  else
    either (methodMember g decorators)
      (either (fieldMember g decorators)
        (if decorators.isEmpty then
          either (abstractMember g) (indexSignature g ++ semicolon false)
        else fail))

def classBody (g : Grammar) : Rule :=
  node .classBody
    (tok "\x7b" ++ inBody (untilAt "\x7d" (classMember g)) ++ tok "\x7d")

/-- What a class extends and implements. -/
def heritage (g : Grammar) : Rule :=
  whenAt "extends" (node .heritage (take .token ++ commas (g .unary ++ whenAt "<" (typeArguments g))))
    ++ whenAt "implements" (node .heritage (take .token ++ commas (g .type)))

/-- A class from its type parameters on. -/
def classRest (g : Grammar) : Rule :=
  whenAt "<" (typeParameters g) ++ heritage g ++ inRole .body (classBody g)

def classExpression (g : Grammar) : Rule :=
  node .classExpression
    (while_ (at? "@") (decorator g) ++ tok "class"
      ++ when (return (← atWord) && !(← atAny ["extends", "implements"]))
          (inRole .name (take .identifier))
      ++ classRest g)

def functionExpression (g : Grammar) : Rule :=
  node .functionExpression
    (optTok "async" ++ tok "function" ++ optTok "*"
      ++ when atWord (inRole .name (take .identifier)) ++ signature g ++ inRole .body (block g))

end DocCatalog.Script.Rule

import DocCatalog.Script.Grammar.Expressions
/-!
# Statements

Declarations, control flow, imports and exports.
-/

namespace DocCatalog.Script.Rule

/-! ## Declarations -/

/-- What a declaration binds, with its type and value. -/
def declarator (g : Grammar) : Rule :=
  node .variableDeclarator
    (inRole .name (g .pattern) ++ optTok "!" ++ whenAt ":" (annotatedType g) ++ optInitializer g)

/-- Whether the last piece is a declarator with a value, behind which an operator could follow. -/
def endsInValue (ps : List Piece) : Bool :=
  match ps.getLast? with
  | some p => (p.node.child? .value).isSome
  | none => false

def bindings (g : Grammar) (kind : Kind) : Rule := do
  let head ← take .token ++ commas (declarator g)
  return Piece.gather kind (head ++ (← semicolon (endsInValue head)))

def functionDeclaration (g : Grammar) : Rule := do
  let head ← optTok "async" ++ tok "function"
  let star ← optTok "*"
  let named ← inRole .name (word .identifier) ++ signature g
  if ← at? "\x7b" then
    let kind := if star.isEmpty then .functionDeclaration else .generatorDeclaration
    return Piece.gather kind
      (head ++ star ++ named ++ (← inRole .body (block g) ++ optLineBreak true))
  else if star.isEmpty then
    return Piece.gather .functionSignature (head ++ named ++ (← signatureEnd))
  else fail
where
  signatureEnd : Rule := do if ← at? ";" then take .token else lineBreak false true

/-- A class with the decorators in front of it. -/
def classDeclaration (g : Grammar) (decorators : List Piece) : Rule := do
  if ← at? "abstract" then
    let rest ← take .token ++ tok "class" ++ inRole .name (word .identifier) ++ classRest g
    return Piece.gather .abstractClassDeclaration (decorators ++ rest)
  else
    let rest ← tok "class" ++ inRole .name (word .identifier) ++ classRest g ++ optLineBreak true
    return Piece.gather .classDeclaration (decorators ++ rest)

def interfaceDeclaration (g : Grammar) : Rule :=
  node .interfaceDeclaration
    (take .token ++ inRole .name (word .identifier) ++ whenAt "<" (typeParameters g)
      ++ whenAt "extends" (node .heritage (take .token ++ commas (g .type)))
      ++ inRole .body (objectType g))

def typeAlias (g : Grammar) : Rule :=
  node .typeAlias
    (take .token ++ inRole .name (word .identifier) ++ whenAt "<" (typeParameters g)
      ++ tok "=" ++ inRole .value (g .type) ++ semicolon false)

def enumDeclaration (g : Grammar) : Rule :=
  node .enumDeclaration
    (optTok "const" ++ tok "enum" ++ inRole .name (word .identifier)
      ++ inRole .body (node .clause
        (bracketed "\x7b" "\x7d" (commaList "\x7d" (propertyName g ++ optInitializer g)))))

/-- A namespace or module, with its body unless it is only announced. -/
def moduleDeclaration (g : Grammar) : Rule :=
  node .moduleDeclaration
    (take .token
      ++ (do
        if (← current).shape == .string then take .string
        else word .identifier ++ while_ (at? ".") (take .token ++ word .propertyName))
      ++ whenAt "\x7b" (inRole .body (block g)))

/-! ## Imports and exports

Only their form matters: no module is looked up. -/

def stringHere : Rule := do if (← current).shape == .string then take .string else fail

/-- The attributes of an import, such as `with { type: 'json' }`. -/
def importAttributes (g : Grammar) : Rule :=
  when (atAny ["with", "assert"]) (take .token ++ object g)

def fromClause (g : Grammar) : Rule := tok "from" ++ stringHere ++ importAttributes g

/-- A name or a string in a list of imports or exports. -/
def listedName : Rule := do
  if (← current).shape == .string then take .string else word .identifier

/-- Names in braces, each with a new name or not. -/
def nameList : Rule :=
  node .clause (bracketed "\x7b" "\x7d" (commaList "\x7d"
    (node .clause
      (when (return (← at? "type") && ((← thenWord) && !(← thenAny ["as"]))) (take .token)
        ++ listedName ++ whenAt "as" (take .token ++ listedName)))))

def importStatement (g : Grammar) : Rule := node .importStatement do
  let head ← tok "import" ++ when typeOnly (take .token)
  if (← current).shape == .string then
    return head ++ (← stringHere ++ importAttributes g ++ semicolon false)
  else if (← atWord) && (← thenAny ["="]) then
    return head ++ (← word .identifier ++ tok "=" ++ reference ++ semicolon false)
  else
    return head ++
      (← node .clause (commas (do
          if ← at? "\x7b" then nameList
          else if ← at? "*" then node .clause (take .token ++ tok "as" ++ word .identifier)
          else word .identifier))
        ++ fromClause g ++ semicolon false)
where
  typeOnly : Parse Bool := do
    if ← atAny ["type", "typeof"] then
      return (← thenAny ["\x7b", "*"]) || ((← thenWord) && !(← thenAny ["from"]))
    else return false
  reference : Rule := do
    if (← at? "require") && (← thenAny ["("]) then take .token ++ bracketed "(" ")" stringHere
    else word .identifier ++ while_ (at? ".") (take .token ++ word .propertyName)

/-- Whether a declaration begins here. -/
def declarationHere : Parse Bool := do
  let l ← current
  if l.shape == .punctuation then return l.text == "@"
  else if l.shape != .word then return false
  else
    match l.text with
    | "const" | "var" | "function" | "class" => return true
    | "let" => return (← thenWord) || (← thenAny ["\x7b", "["])
    | "enum" | "interface" | "type" | "namespace" => return ← thenWord
    | "module" => return (← thenWord) || (← following).shape == .string
    | "async" => thenAny ["function"]
    | "abstract" => thenAny ["class"]
    | "declare" => return ← thenWord
    | "import" => return (← thenWord) && !(← thenAny ["from"])
    | _ => return false

/-- A declaration. `decorators` have been read in front of it. -/
def declaration (g : Grammar) (decorators : List Piece) : Rule := do
  let l ← current
  if l.isKey "class" || l.isKey "abstract" then classDeclaration g decorators
  else if !decorators.isEmpty then fail
  else
    match l.text with
    | "const" =>
      if ← thenAny ["enum"] then enumDeclaration g else bindings g .lexicalDeclaration
    | "let" => bindings g .lexicalDeclaration
    | "var" => bindings g .variableDeclaration
    | "function" => functionDeclaration g
    | "async" => functionDeclaration g
    | "enum" => enumDeclaration g
    | "interface" => interfaceDeclaration g
    | "type" => typeAlias g
    | "namespace" | "module" => moduleDeclaration g ++ semicolonIfAnnounced
    | "import" => importStatement g
    | "declare" => ambient g
    | _ => fail
where
  semicolonIfAnnounced : Rule := either (semicolon true) nothing
  ambient (g : Grammar) : Rule :=
    node .ambientDeclaration (take .token ++ (do
      if (← at? "global") && (← thenAny ["\x7b"]) then take .token ++ block g
      else g .statement))

def exportList (g : Grammar) : Rule := do
  if ← at? "*" then
    take .token ++ whenAt "as" (take .token ++ listedName) ++ fromClause g ++ semicolon false
  else nameList ++ whenAt "from" (fromClause g) ++ semicolon false

/-- An export with the decorators in front of it. -/
def exportStatement (g : Grammar) (decorators : List Piece) : Rule := do
  let start ← tok "export"
  let rest ← exported
  return Piece.gather .exportStatement (decorators ++ start ++ rest)
where
  exported : Rule := do
    if ← atAny ["*", "\x7b"] then exportList g
    else if (← at? "type") && (← thenAny ["*", "\x7b"]) then take .token ++ exportList g
    else if ← at? "=" then take .token ++ g .expression ++ semicolon true
    else if (← at? "as") && (← thenAny ["namespace"]) then
      take .token ++ take .token ++ word .identifier ++ semicolon false
    else if ← at? "default" then take .token ++ defaulted
    else inRole .declaration (declared)
  defaulted : Rule := either (inRole .declaration declared)
    (inRole .value (g .expression) ++ semicolon true)
  declared : Rule := do
    if ← declarationHere then
      let own ← while_ (at? "@") (decorator g)
      declaration g own
    else fail

/-! ## Control flow

Statements are read in full, since calls of interest may stand anywhere inside of them. -/

/-- The head of a loop in parentheses. -/
def loopHead (g : Grammar) : Rule :=
  tok "(" ++ setting ({ · with closed := true, noIn := true }) start
where
  start : Rule := either iteration counting
  /-- A variable that runs over a collection or over keys. -/
  iteration : Rule :=
    when (return (← atAny ["var", "let", "const"]) && ((← thenWord) || (← thenAny ["\x7b", "["])))
        (take .token)
      ++ either (inRole .name (g .pattern) ++ optInitializer g) (g .unary)
      ++ (do if ← atAny ["of", "in"] then take .token else fail)
      ++ enclosed (sequence g) ++ tok ")"
  counting : Rule :=
    (do
      if ← at? ";" then node .emptyStatement (take .token)
      else if ← atAny ["let", "const"] then
        node .lexicalDeclaration (take .token ++ commas (declarator g) ++ tok ";")
      else if ← at? "var" then
        node .variableDeclaration (take .token ++ commas (declarator g) ++ tok ";")
      else sequence g ++ tok ";")
    ++ (do
      if ← at? ";" then node .emptyStatement (take .token)
      else enclosed (sequence g) ++ tok ";")
    ++ when (return !(← at? ")")) (enclosed (sequence g)) ++ tok ")"

def switchCase (g : Grammar) : Rule :=
  node .clause
    ((do
      if ← at? "default" then take .token
      else tok "case" ++ setting ({ · with closed := true }) (sequence g))
    ++ tok ":" ++ while_ (return !(← atAny ["case", "default", "\x7d"])) (g .statement))

def tryStatement (g : Grammar) : Rule :=
  node .statement
    (tok "try" ++ block g
      ++ whenAt "catch" (node .clause
          (take .token
            ++ whenAt "(" (take .token ++ g .pattern ++ whenAt ":" (annotatedType g) ++ tok ")")
            ++ block g))
      ++ whenAt "finally" (node .clause (take .token ++ block g)))

/-- A jump with an operand or without one. -/
def jump (g : Grammar) : Rule := node .statement do
  let keyword ← take .token
  let r ← get
  if r.current.isAny [";", "\x7d"] || (r.lineEnd? false false).isSome then
    return keyword ++ (← semicolon false)
  else return keyword ++ (← sequence g ++ semicolon true)

/-- A statement that begins with a keyword, or `none`. -/
def keywordStatement (g : Grammar) (keyword : String) : Option Rule :=
  match keyword with
  | "if" => some <| node .statement
      (take .token ++ parenthesized g ++ g .statement
        ++ whenAt "else" (node .clause (take .token ++ g .statement)))
  | "for" => some <| node .statement
      (take .token ++ optTok "await" ++ loopHead g ++ inRole .body (g .statement))
  | "while" => some <| node .statement (take .token ++ parenthesized g ++ g .statement)
  | "with" => some <| node .statement (take .token ++ parenthesized g ++ g .statement)
  | "do" => some <| node .statement
      (take .token ++ g .statement ++ tok "while" ++ parenthesized g
        ++ either (semicolon true) nothing)
  | "switch" => some <| node .statement
      (take .token ++ parenthesized g
        ++ node .clause (tok "\x7b" ++ inBody (untilAt "\x7d" (switchCase g)) ++ tok "\x7d"))
  | "try" => some (tryStatement g)
  | "return" => some (jump g)
  | "throw" => some (node .statement (take .token ++ sequence g ++ semicolon true))
  | "break" => some (jump g)
  | "continue" => some (jump g)
  | "debugger" => some (node .statement (take .token ++ semicolon false))
  | _ => none

/-- Words that are no names at the start of a statement. -/
def declaringWords : List String := ["const", "var", "enum", "interface", "abstract"]

def expressionStatement (g : Grammar) : Rule :=
  node .expressionStatement (sequence g ++ semicolon true)

def statement (g : Grammar) : Rule := beginning do
  let l ← current
  if l.isKey "\x7b" then block g
  else if l.isKey ";" then node .emptyStatement (take .token)
  else if l.isKey "@" then
    let decorators ← while_ (at? "@") (decorator g)
    if ← at? "export" then exportStatement g decorators else declaration g decorators
  else if l.shape == .word then
    if (← following).isKey ":" then
      node .statement (word .identifier ++ tok ":" ++ g .statement)
    else if l.text == "export" then exportStatement g []
    else if l.text == "import" && !(← thenAny ["(", "."]) then importStatement g
    else
      match keywordStatement g l.text with
      | some rule => rule
      | none =>
        if declaringWords.contains l.text then declaration g []
        else if ← declarationHere then either (declaration g []) (expressionStatement g)
        else expressionStatement g
  else expressionStatement g

end DocCatalog.Script.Rule

import DocCatalog.Script.Reader
/-!
# Types

Type annotations, type arguments and the types themselves. Of a type only its text is of interest
to a reader of the tree, so every type is a node of kind `Kind.type`.
-/

namespace DocCatalog.Script.Rule

/-! ## Patterns and parameters -/

/-- A property name: a word, a private name, a string, a number or a computed name. -/
def propertyName (g : Grammar) : Rule := do
  let l ← current
  match l.shape with
  | .word => take .propertyName
  | .privateName => take .privateName
  | .string => take .string
  | .number => take .number
  | _ => node .computedName (bracketed "[" "]" (commas (g .expression)))

def initializer (g : Grammar) : Rule := tok "=" ++ inRole .value (g .expression)

def optInitializer (g : Grammar) : Rule := whenAt "=" (initializer g)

/-- What a declaration binds: a name, or a pattern of names. -/
def pattern (g : Grammar) : Rule := do
  if ← at? "\x7b" then
    node .pattern (bracketed "\x7b" "\x7d" (commaList "\x7d" (field g)))
  else if ← at? "[" then
    node .pattern (bracketed "[" "]" (commaList "]" (element g)))
  else word .identifier
where
  element (g : Grammar) : Rule := do
    if ← at? "," then nothing
    else if ← at? "..." then node .spread (tok "..." ++ g .pattern)
    else g .pattern ++ optInitializer g
  field (g : Grammar) : Rule := do
    if ← at? "..." then node .spread (tok "..." ++ g .pattern)
    else if (← atWord) && !(← thenAny [":"]) then
      take .shorthandName ++ optInitializer g
    else
      node .pair
        (inRole .key (propertyName g) ++ tok ":" ++ g .pattern ++ optInitializer g)

/-! ## Annotations -/

/-- A type behind a colon. -/
def annotatedType (g : Grammar) : Rule := node .annotatedType (tok ":" ++ g .type)

/-- The type that a function gives, or what it tells about one of its arguments. -/
def result (g : Grammar) : Rule := do
  if (← at? "asserts") && (← thenWord) then
    node .typePredicate (take .token ++ word .identifier ++ whenAt "is" (take .token ++ g .type))
  else if (← atWord) && (← thenAny ["is"]) then
    node .typePredicate (take .identifier ++ tok "is" ++ g .type)
  else g .type

def returnType (g : Grammar) : Rule :=
  inRole .returnType (node .annotatedType (tok ":" ++ result g))

def typeArguments (g : Grammar) : Rule :=
  node .typeArguments (tok "<" ++ enclosed (commaList ">" (g .type)) ++ tok ">")

def typeParameter (g : Grammar) : Rule :=
  node .type
    (while_ (return (← atAny ["const", "in", "out"]) && (← thenWord)) (take .token)
      ++ word .identifier
      ++ whenAt "extends" (take .token ++ g .type)
      ++ whenAt "=" (take .token ++ g .type))

def typeParameters (g : Grammar) : Rule :=
  node .typeParameters (tok "<" ++ enclosed (commaList ">" (typeParameter g)) ++ tok ">")

/-! ## Signatures -/

def parameterModifiers : List String :=
  ["public", "private", "protected", "override", "readonly"]

/-- A parameter. `decorator` reads a decorator. -/
def parameter (g : Grammar) (decorator : Rule) : Rule :=
  node .parameter
    (while_ (at? "@") decorator
      ++ while_ (return (← atAny parameterModifiers) && (← startsBinding)) (take .token)
      ++ whenAt "..." (take .token)
      ++ g .pattern ++ optTok "?" ++ whenAt ":" (annotatedType g) ++ optInitializer g)
where
  startsBinding : Parse Bool := do
    return (← thenWord) || (← thenAny ["\x7b", "["])

/-- A decorator: a dotted name, a call of one, or either in parentheses. -/
def decorator (g : Grammar) : Rule :=
  node .decorator (tok "@" ++ (do if ← at? "(" then inParentheses g else applied g))
where
  dotted : Rule := do loop (← get).budget (← word .identifier)
  loop : Nat → List Piece → Rule
    | 0, _ => fail
    | n + 1, left => do
      if ← at? "." then
        let right ← take .token ++ inRole .property (word .propertyName)
        loop n (Piece.gather .member (Piece.inRole .object left ++ right))
      else return left
  applied (g : Grammar) : Rule := do
    let name ← dotted
    if ← atAny ["(", "<"] then
      node .call (inRole .callee (pure name) ++ whenAt "<" (typeArguments g)
        ++ node .arguments (bracketed "(" ")" (commaList ")" (argument g))))
    else return name
  argument (g : Grammar) : Rule := do
    if ← at? "," then nothing
    else if ← at? "..." then node .spread (tok "..." ++ g .expression)
    else g .expression
  inParentheses (g : Grammar) : Rule := node .parenthesized (tok "(" ++ applied g ++ tok ")")

def parameters (g : Grammar) : Rule :=
  inRole .parameters
    (node .parameters (bracketed "(" ")" (commaList ")" (parameter g (decorator g)))))

/-- Type parameters, parameters and the type of the result. -/
def signature (g : Grammar) : Rule :=
  whenAt "<" (typeParameters g) ++ parameters g ++ whenAt ":" (returnType g)

/-! ## Types

All types are nodes of one kind, so that the rules only have to find where a type ends. -/

def functionType (g : Grammar) : Rule :=
  node .type
    (optTok "abstract" ++ optTok "new" ++ whenAt "<" (typeParameters g) ++ parameters g
      ++ tok "=>" ++ result g)

/-- A member of an object type: a property, a method, a call or construct signature, an index
signature or a mapped clause. -/
def typeMember (g : Grammar) : Rule :=
  node .type do
    if ← atAny ["(", "<"] then signature g
    else if (← at? "new") && (← thenAny ["(", "<"]) then take .token ++ signature g
    else
      when (atAny ["+", "-"]) (take .token)
        ++ while_ (return (← atAny ["readonly", "get", "set"]) && (← goesOn)) (take .token)
        ++ name g ++ when (atAny ["+", "-"]) (take .token) ++ optTok "?"
        ++ rest g
where
  goesOn : Parse Bool := do
    let l ← following
    return l.shape == .word || l.shape == .string || l.shape == .number || l.isKey "["
  name (g : Grammar) : Rule := do
    if ← at? "[" then either (indexed g) (propertyName g) else propertyName g
  indexed (g : Grammar) : Rule :=
    bracketed "[" "]" (word .identifier ++ (do
      if ← at? ":" then annotatedType g
      else tok "in" ++ g .type ++ whenAt "as" (take .token ++ g .type)))
  rest (g : Grammar) : Rule := do
    if ← atAny ["(", "<"] then signature g else whenAt ":" (annotatedType g)

/-- An object type, also the body of an interface. -/
def objectType (g : Grammar) : Rule :=
  node .type
    (tok "\x7b" ++ inBody (untilAt "\x7d" (beginning (typeMember g) ++ separator)) ++ tok "\x7d")
where
  separator : Rule := do
    if ← atAny [";", ","] then take .token
    else if ← at? "\x7d" then nothing
    else lineBreak false false

def tupleElement (g : Grammar) : Rule :=
  node .type do
    let spread ← optTok "..."
    if (← atWord) && ((← thenAny [":"]) || ((← thenAny ["?"]) && (← labelled))) then
      return spread ++ (← take .identifier ++ optTok "?" ++ annotatedType g)
    else return spread ++ (← g .type ++ optTok "?")
where
  /-- A label with a question mark has its colon behind that. -/
  labelled : Parse Bool := do
    let r ← get
    match (r.following, r.after) with
    | (l, cs) =>
      let rest := cs.drop (l.gap.length + l.text.length)
      return (rest.dropWhile isGap).head? == some ':'

/-- The text of a template up to its end or to the next placeholder. -/
def templateChunk (cs : List Char) : Option Nat := go cs
where
  go : List Char → Option Nat
    | [] => none
    | '$' :: '{' :: _ => some 0
    | c :: r =>
      if c == '\x60' then some 0
      else if c == '\x00' then none
      else if c == '\\' then (escaped r).map (· + 1)
      else (go r).map (· + 1)
  escaped : List Char → Option Nat
    | [] => none
    | c :: r => if (escapeLength (c :: r)).isSome then (go r).map (· + 1) else none

def exactly (s : String) (cs : List Char) : Option Nat :=
  if s.toList.isPrefixOf cs then some s.length else none

/-- A template literal whose placeholders are read by `hole`. -/
def templateLiteral (hole : Rule) : Rule :=
  tok "\x60" ++ raw .templateText templateChunk
    ++ (do loop (← get).budget) ++ raw .token (exactly "\x60")
where
  loop : Nat → Rule
    | 0 => fail
    | n + 1 => do
      if "$\x7b".toList.isPrefixOf (← get).here then
        let part ← node .substitution
          (raw .token (exactly "$\x7b") ++ enclosed hole ++ tok "\x7d")
        return part ++ (← raw .templateText templateChunk) ++ (← loop n)
      else return []

/-- A dotted name with type arguments. -/
def typeName (g : Grammar) : Rule :=
  word .identifier ++ while_ (at? ".") (take .token ++ word .propertyName)
    ++ whenAt "<" (typeArguments g)

def primaryType (g : Grammar) : Rule := node .type do
  let l ← current
  if l.shape == .string then take .string
  else if l.shape == .number then take .number
  else if l.isKey "-" then take .token ++ (do
    if (← current).shape == .number then take .number else fail)
  else if l.isKey "\x60" then templateLiteral (g .type)
  else if l.isKey "(" then
    either (functionType g) (bracketed "(" ")" (g .type))
  else if l.isKey "<" then functionType g
  else if l.isKey "new" && (← thenAny ["(", "<"]) then functionType g
  else if l.isKey "abstract" && (← thenAny ["new"]) then functionType g
  else if l.isKey "[" then bracketed "[" "]" (commaList "]" (tupleElement g))
  else if l.isKey "\x7b" then objectType g
  else if l.isKey "typeof" then
    take .token ++ (do
      if ← at? "import" then imported g
      else word .identifier
        ++ while_ (at? ".") (take .token ++ propertyName g) ++ whenAt "<" (typeArguments g))
  else if l.isKey "import" && (← thenAny ["("]) then imported g
  else typeName g
where
  imported (g : Grammar) : Rule :=
    tok "import" ++ bracketed "(" ")" (commaList ")" (g .type))
      ++ while_ (at? ".") (take .token ++ word .propertyName) ++ whenAt "<" (typeArguments g)

/-- A type with operators in front and brackets behind. A type to be inferred may be bounded. -/
def typeOperand (g : Grammar) : Rule := do
  let next ← following
  let operand := next.shape == .word || next.shape == .string || next.shape == .number
    || next.isAny ["(", "[", "\x7b", "\x60"]
  if (← at? "infer") && next.shape == .word then
    joined .type
      (node .type (take .token ++ word .identifier ++ whenAt "extends" (take .token ++ g .union))
        ++ brackets)
  else if (← atAny ["keyof", "readonly", "unique"]) && operand then
    node .type (take .token ++ g .typeOperand)
  else
    let base ← primaryType g
    joined .type (pure base ++ brackets)
where
  brackets : Rule := while_ indexHere (bracketed "[" "]" (untilAt "]" (g .type)))
  indexHere : Parse Bool := do
    let r ← get
    return r.current.isKey "[" && (r.closed || (r.lineEnd? false false).isNone)

def union (g : Grammar) : Rule :=
  joined .type
    (when (atAny ["|", "&"]) (take .token) ++ g .typeOperand
      ++ while_ (atAny ["|", "&"]) (take .token ++ g .typeOperand))

/-- A type, which may be chosen by a condition. -/
def type (g : Grammar) : Rule :=
  joined .type
    (g .union ++ when conditionHere
      (take .token ++ g .union ++ tok "?" ++ g .type ++ tok ":" ++ g .type))
where
  conditionHere : Parse Bool := do
    let r ← get
    return r.current.isKey "extends" && (r.closed || (r.lineEnd? false false).isNone)

end DocCatalog.Script.Rule

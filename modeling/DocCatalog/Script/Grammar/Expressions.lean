import DocCatalog.Script.Grammar.Classes
import DocCatalog.Script.Grammar.Markup
/-!
# Expressions

From primary expressions to arrow functions.

* `primary`: words, literals, brackets, functions, classes.
* `postfix`: members, subscripts and calls behind a primary expression.
* `binary`: operators by level. Arithmetic shapes are all of kind `Kind.operation`; `as` and
  `satisfies` have kinds of their own, because their first operand is the value they stand for.
* `expression`: arrow functions, conditionals, assignments.
-/

namespace DocCatalog.Script.Rule

/-- Expressions with commas between them. -/
def sequence (g : Grammar) : Rule := do
  let first ← g .expression
  if ← at? "," then
    return Piece.gather .operation (first ++ (← while_ (at? ",") (take .token ++ g .expression)))
  else return first

/-- An item of an array or argument list: an expression, a spread, or a hole. -/
def item (g : Grammar) : Rule := do
  if ← at? "," then nothing
  else if ← at? "..." then node .spread (tok "..." ++ g .expression)
  else g .expression

def arguments (g : Grammar) : Rule :=
  node .arguments (bracketed "(" ")" (commaList ")" (item g)))

/-! ## Primary expressions

A slash begins a regular expression here, since there is no operand in front of it. -/

/-- A property of an object literal. -/
def property (g : Grammar) : Rule := do
  if ← at? "," then nothing
  else if ← at? "..." then node .spread (tok "..." ++ g .expression)
  else either (objectMethod g) (either (pair g) (shorthand g))
where
  pair (g : Grammar) : Rule :=
    node .pair (inRole .key (propertyName g) ++ tok ":" ++ inRole .value (g .expression))
  shorthand (g : Grammar) : Rule := do
    let name ← word .shorthandName
    if ← at? "=" then return Piece.gather .operation (name ++ (← take .token ++ g .expression))
    else return name

def object (g : Grammar) : Rule :=
  node .object (bracketed "\x7b" "\x7d" (commaList "\x7d" (property g)))

/-- A regular expression with its flags. A slash in brackets does not end it. -/
def regexLength : List Char → Option Nat
  | '/' :: r => do
    let n ← body false r
    return n + 1 + ((r.drop n).takeWhile fun c => 'a' ≤ c && c ≤ 'z').length
  | _ => none
where
  body (inClass : Bool) : List Char → Option Nat
    | [] => none
    | '\\' :: c :: r => if c == '\n' then none else (body inClass r).map (· + 2)
    | c :: r =>
      if c == '\n' then none
      else if inClass then (body (c != ']') r).map (· + 1)
      else if c == '/' then some 1
      else (body (c == '[') r).map (· + 1)

def template (g : Grammar) : Rule := node .template (templateLiteral (sequence g))

/-- An expression in parentheses, which may be annotated with a type. -/
def parenthesized (g : Grammar) : Rule :=
  node .parenthesized
    (bracketed "(" ")" (sequence g ++ whenAt ":" (annotatedType g)))

/-- `new` with what it makes, before and with its arguments. -/
def construct (g : Grammar) : Rule :=
  node .construct
    (tok "new" ++ inRole .callee (g .constructor)
      ++ whenAt "<" (either (typeArguments g) nothing) ++ whenAt "(" (arguments g))

/-- A word of a primary expression. -/
def wordKind (w : String) : Kind :=
  match w with
  | "this" => .thisWord
  | "super" => .superWord
  | "import" => .importWord
  | "true" => .trueWord
  | "false" => .falseWord
  | "null" => .nullWord
  | _ => .identifier

def primary (g : Grammar) : Rule := do
  let l ← current
  match l.shape with
  | .string => take .string
  | .number => take .number
  | .privateName => if ← thenAny ["in"] then take .privateName else fail
  | .word =>
    if l.text == "function" then functionExpression g
    else if l.text == "async" && (← thenAny ["function"]) then functionExpression g
    else if l.text == "class" then classExpression g
    else if l.text == "new" then
      if ← thenAny ["."] then
        node .operation (take .token ++ take .token ++ word .propertyName)
      else construct g
    else if l.text == "import" && (← thenAny ["."]) then
      node .operation (take .token ++ take .token ++ word .propertyName)
    else take (wordKind l.text)
  | .punctuation =>
    match l.text with
    | "(" => parenthesized g
    | "[" => node .array (bracketed "[" "]" (commaList "]" (item g)))
    | "\x7b" => object g
    | "\x60" => template g
    | "/" | "/=" => cut .regex regexLength
    | "@" => classExpression g
    | "<" => if (← get).markup then g .markup else fail
    | _ => fail
  | _ => fail

/-! ## Postfix expressions

Type arguments look like comparisons, so they are read only where a call or an end follows. -/

/-- A member behind a dot. -/
def memberName : Rule := do
  if (← current).shape == .privateName then take .privateName else word .propertyName

/-- Type arguments, if a call or the end of the expression follows them. -/
def callTypeArguments (g : Grammar) : Rule := do
  let args ← typeArguments g
  let l ← current
  if l.isAny ["(", ")", "]", ",", ";", ":", "\x7d", "?", "?.", "."] || l.shape == .done
    || (← get).lineEnds then return args
  else fail

/-- Members, subscripts and, where `calls` holds, calls and assertions behind an expression. -/
def postfixed (g : Grammar) (calls : Bool) (start : Rule) : Rule := do
  loop (← get).budget (← start)
where
  loop : Nat → List Piece → Rule
    | 0, _ => fail
    | n + 1, left => do
      let l ← current
      let callee := Piece.inRole .callee left
      let whole := Piece.inRole .object left
      if l.shape != .punctuation then return left
      else if l.text == "." then
        let right ← take .token ++ inRole .property memberName
        loop n (Piece.gather .member (whole ++ right))
      else if l.text == "[" then
        let right ← bracketed "[" "]" (sequence g)
        loop n (Piece.gather .subscript (whole ++ right))
      else if l.text == "!" && !(← get).lineEnds then
        let mark ← take .token
        loop n (Piece.gather .nonNull (left ++ mark))
      else if !calls then return left
      else if l.text == "?." then
        let chain ← take .optionalChain
        if ← at? "(" then loop n (Piece.gather .call (callee ++ chain ++ (← arguments g)))
        else if ← at? "<" then
          loop n (Piece.gather .call (callee ++ chain ++ (← typeArguments g ++ arguments g)))
        else if ← at? "[" then
          loop n (Piece.gather .subscript (whole ++ chain ++ (← bracketed "[" "]" (sequence g))))
        else loop n (Piece.gather .member (whole ++ chain ++ (← inRole .property memberName)))
      else if l.text == "(" then
        loop n (Piece.gather .call (callee ++ (← arguments g)))
      else if l.text == "\x60" then
        loop n (Piece.gather .call (callee ++ (← template g)))
      else if l.text == "<" then
        let args ← either (callTypeArguments g) nothing
        if args.isEmpty then return left
        else if ← at? "(" then
          loop n (Piece.gather .call (callee ++ args ++ (← arguments g)))
        else loop n (Piece.gather .operation (left ++ args))
      else return left

/-- What stands behind `new`. -/
def constructor (g : Grammar) : Rule := postfixed g false (primary g)

/-! ## Operators

One loop reads the operators of all levels. Those that begin with `>` come in several lexemes, since
that closes lists of type arguments as well. -/

/-- How tightly an operator binds, from 1. -/
def operatorLevel (op : String) : Option Nat :=
  match op with
  | "??" => some 1
  | "||" => some 2
  | "&&" => some 3
  | "|" => some 4
  | "^" => some 5
  | "&" => some 6
  | "==" | "!=" | "===" | "!==" => some 7
  | "<" | ">" | "<=" | ">=" | "in" | "instanceof" => some 8
  | "<<" | ">>" | ">>>" => some 9
  | "+" | "-" => some 10
  | "*" | "/" | "%" => some 11
  | "**" => some 12
  | _ => none

def assignments : List String :=
  ["=", "+=", "-=", "*=", "/=", "%=", "**=", "<<=", ">>=", ">>>=", "&=", "|=", "^=", "&&=", "||=",
   "??="]

/-- The operator that stands here. Those that begin with `>` are put together here. -/
def operatorHere : Parse String := do
  let r ← get
  let l := r.current
  if l.isKey ">" then
    let tail := (r.after.takeWhile fun c => c == '>' || c == '=').take 3
    return String.ofList ('>' :: tail)
  else if l.shape == .punctuation then return l.text
  else if l.isKey "instanceof" || (l.isKey "in" && !r.noIn) then return l.text
  else return ""

/-- Whether the type of the expression before is asserted here. -/
def assertionHere : Parse Bool := do
  let r ← get
  return r.current.isAny ["as", "satisfies"] && !r.lineEnds

/-- The expression with the type asserted behind it. -/
def assertion (g : Grammar) (left : List Piece) : Rule := do
  let kind := if ← at? "as" then .asExpression else .satisfiesExpression
  return Piece.gather kind (left ++ (← take .token ++ g .type))

/-- Operands joined by operators that bind more tightly than `level`. Assertions bind less tightly
than any operator. -/
def binary (g : Grammar) (level : Nat) : Rule := do loop (← get).budget (← g .unary)
where
  loop : Nat → List Piece → Rule
    | 0, _ => fail
    | n + 1, left => do
      if (← assertionHere) && level == 0 then loop n (← assertion g left)
      else
        let op ← operatorHere
        match operatorLevel op with
        | none => return left
        | some k =>
          if k ≤ level then return left
          else
            let right ← cut .token (exactly op) ++ g (.binary (if k == 12 then 11 else k))
            loop n (Piece.gather .operation (left ++ right))

def prefixOperators : List String := ["!", "~", "+", "-", "typeof", "void", "delete"]

def unary (g : Grammar) : Rule := do
  if ← atAny prefixOperators then node .unary (take .token ++ inRole .operand (g .unary))
  else if (← at? "await") && !(← thenAny [")", ";", ",", ".", "=>"]) then
    node .operation (take .token ++ awaited g)
  else if ← atAny ["++", "--"] then node .operation (take .token ++ g .unary)
  else if (← at? "<") && !(← get).markup then node .operation (typeArguments g ++ g .unary)
  else
    let base ← postfixed g true (primary g)
    if (← atAny ["++", "--"]) && !(← get).lineEnds then
      return Piece.gather .operation (base ++ (← take .token))
    else return base
where
  /-- What is awaited takes the assertions behind it. -/
  awaited (g : Grammar) : Rule := do loop (← get).budget (← g .unary)
  loop : Nat → List Piece → Rule
    | 0, _ => fail
    | n + 1, left => do
      if ← assertionHere then loop n (← assertion g left) else return left

/-! ## Arrow functions and assignments

What stands in parentheses may be parameters or an operand, so an arrow function is tried first. -/

def arrowBody (g : Grammar) : Rule := do
  if ← at? "\x7b" then inRole .body (block g) else inRole .body (g .expression)

/-- An arrow function with its parameters in parentheses. -/
def arrow (g : Grammar) : Rule :=
  node .arrowFunction
    (whenAt "async" (when (thenAny ["(", "<"]) (take .token))
      ++ signature g ++ tok "=>" ++ arrowBody g)

/-- An arrow function with one bare parameter. -/
def shortArrow (g : Grammar) : Rule :=
  node .arrowFunction
    (when (thenWord) (optTok "async") ++ word .identifier ++ tok "=>" ++ arrowBody g)

def yieldExpression (g : Grammar) : Rule :=
  node .operation (take .token ++ optTok "*" ++ when operandHere (g .expression))
where
  operandHere : Parse Bool := do
    let r ← get
    return !(r.current.isAny [")", "]", "\x7d", ",", ";", ":"] || r.current.shape == .done
      || r.lineEnds)

def assignment (g : Grammar) : Rule := do
  let left ← g (.binary 0)
  let op ← operatorHere
  if op == "?" then
    return Piece.gather .operation
      (left ++ (← take .token ++ enclosed (g .expression) ++ tok ":" ++ g .expression))
  else if assignments.contains op then
    return Piece.gather .operation (left ++ (← cut .token (exactly op) ++ g .expression))
  else return left

/-- An expression without commas. -/
def expression (g : Grammar) : Rule := do
  let l ← current
  let next ← following
  if l.shape == .word && next.isKey "=>" then shortArrow g
  else if l.isKey "async" && next.shape == .word && next.text != "function" then
    either (shortArrow g) (assignment g)
  else if l.isKey "(" || l.isKey "<" || (l.isKey "async" && next.isAny ["(", "<"]) then
    either (arrow g) (assignment g)
  else if l.isKey "yield" then yieldExpression g
  else assignment g

end DocCatalog.Script.Rule
